import Fragment.Command.Session
import Fragment.Proofs.Compile.Settlement
import Fragment.Proofs.Launch.Position
import Fragment.Proofs.Source.Line
import Fragment.Proofs.Stdout
/-!
The report of a failed compilation. What the command prints are the texts of the diagnostics and a
summary, a line each, and nothing reaches standard output before them; a diagnostic that was read
from a line of the toolchain's stays one.
-/
namespace Fragment

variable {σ : Type}

namespace Diagnostic

theorem severity_bare (severity : Severity) : '\n' ∉ severity.word.toList := by
  cases severity <;> decide

theorem digits_bare (n : Nat) : '\n' ∉ (toString n).toList := number_bare _ (spelled_number n)

theorem position_bare (number : Option Nat) : '\n' ∉ (position number).toList := by
  cases number with
  | none => simp [position]
  | some n => simpa [position] using digits_bare n

theorem told_bare (form : Form) (bare : '\n' ∉ form.text) : '\n' ∉ form.told.render.toList := by
  cases form with
  | positioned | tool | sectioned | linker =>
    simp only [Form.text, List.mem_append, List.mem_cons, not_or] at bare
    simp [Form.told, render, location, position_bare, severity_bare, bare]

theorem read_bare (line : List Char) (d : Diagnostic) (bare : '\n' ∉ line)
    (read : ofLine? line = some d) : '\n' ∉ d.render.toList := by
  rw [of_line_kinds, first_kind_iff] at read
  obtain ⟨form, ⟨⟨-, written⟩, -⟩, rfl⟩ := read
  exact told_bare form fun member => bare (Text.trim_end_subset line (written ▸ member))

theorem of_text_bare (text : List Char) (d : Diagnostic) (member : d ∈ ofText text) :
    '\n' ∉ d.render.toList := by
  obtain ⟨line, inside, read⟩ := List.mem_filterMap.mp member
  exact read_bare line d (Text.line_bare text line inside) read

end Diagnostic

-- What is seen of a process from outside: its output, and whether it is over.
def Process.shown (process : Process σ) : Stdout × Option Ending := (process.stdout, process.ended)

theorem OutputTarget.create_shown (P : Platform σ) (mode : ScratchMode) (label : String)
    (w : World σ) : (create P mode label w).2.process.shown = w.process.shown := by
  have created := create_created P mode label w
  generalize (create P mode label w).1 = made, (create P mode label w).2 = w' at created ⊢
  cases created with
  | refused | memory | privateDir => rfl

theorem OutputTarget.receive_shown (target : OutputTarget) (emissions : List Emission)
    (w : World σ) : (target.receive emissions w).2.process.shown = w.process.shown := by
  cases target with
  | memory descriptor content => rfl
  | privateDir directory path =>
    obtain ⟨-, ⟨same, -⟩ | ⟨content, written, -, -, stored⟩⟩ :=
      receive_private directory path emissions w
    · rw [same]
    · rw [stored]
      rfl

theorem OutputTarget.discard_shown (target : OutputTarget) (w : World σ) :
    (target.discard w).process.shown = w.process.shown := by
  cases target <;> rfl

structure RunsApart (P : Platform σ) : Prop where
  quiet : ∀ invocation (process : Process σ),
    process.stdout.Idle (P.spawn invocation process).2.stdout
  spared : ∀ invocation (process : Process σ), (P.spawn invocation process).2.ended = process.ended

theorem attempt_shown (P : Platform σ) (apart : RunsApart P) (toolchain : Toolchain)
    (mode : ScratchMode) (unit : SourceUnit) (w w' : World σ) (run : Run)
    (drained : Except OsFault Octets)
    (ran : attempt P toolchain mode unit w = (.ok (run, drained), w')) :
    w.process.stdout.Idle w'.process.stdout ∧ w'.process.ended = w.process.ended := by
  obtain ⟨target, created, spawned, made, answer, -, rfl⟩ :=
    attempt_ran P toolchain mode unit w w' run drained ran
  have opened := OutputTarget.create_shown P mode (UnitKind.output.fileName unit.name) w
  have closed := OutputTarget.discard_shown (target.receive run.emissions spawned).1
    (target.receive run.emissions spawned).2
  rw [made] at opened
  rw [OutputTarget.receive_shown] at closed
  have started := (spawn_ran P _ created spawned run answer).1
  have quiet := apart.quiet (compilerInvocation toolchain target (stagedInput unit)) created.process
  have spared := apart.spared (compilerInvocation toolchain target (stagedInput unit)) created.process
  rw [started] at quiet spared
  simp only [Process.shown, Prod.mk.injEq] at opened closed
  rw [closed.1, closed.2, ← opened.1, ← opened.2]
  exact ⟨quiet, spared⟩

theorem settled_refused (unit : SourceUnit) (run : Run) (drained : Except OsFault Octets)
    (before after : Store) (result : Compilation)
    (settled : Settled unit run drained before (.ok result) after) (bad : result.success = false) :
    ∃ extra : Option Diagnostic, result.diagnostics = reported run ++ extra.toList ∧
      (extra.isSome = true ↔ Clean (reported run)) ∧ ¬ Clean result.diagnostics := by
  cases settled with
  | rejected unclean => exact ⟨none, by simp, by simp [unclean], unclean⟩
  | broken clean _ | silent clean _ _ =>
    exact ⟨some _, rfl, by simp [clean], clean_append_error (reported run) _⟩
  | stored => cases bad

theorem launcher_refused (P : Platform σ) (launcher : Launcher) (text : String)
    (arguments : List String) (w w' : World σ) (diagnostics : List Diagnostic)
    (failed : launcher.run P text arguments w = (.ok (.compilationFailed diagnostics), w')) :
    ∃ result store, launcher.compile P text w = (.ok result, store, w') ∧
      result.success = false ∧ result.diagnostics = diagnostics := by
  unfold Launcher.run at failed
  rcases compiled : launcher.compile P text w with ⟨fault | result, store, w''⟩
  · simp [compiled] at failed
  · cases success : result.success with
    | false =>
      simp only [compiled, success, Bool.not_false, if_true, Prod.mk.injEq, Except.ok.injEq,
        Outcome.compilationFailed.injEq] at failed
      obtain ⟨told, rfl⟩ := failed
      exact ⟨result, store, rfl, success, told⟩
    | true =>
      rcases ran : launcher.runIn P store arguments w'' with ⟨fault | done, closed⟩
      · simp [compiled, success, ran] at failed
      · simp [compiled, success, ran] at failed

namespace Command

def printed (text : String) : Octets := Octets.ofString (text ++ "\n")

section output

theorem host_line_shown (out : Stdout) (line : String) :
    (out.hostLine line).written ++ (out.hostLine line).host =
      out.written ++ out.host ++ printed line := by
  simp only [Stdout.hostLine, Stdout.flushHost, Stdout.act, printed, List.append_assoc,
    List.take_append_drop]

theorem host_lines (lines : List String) (out : Stdout) (unheld : out.loaded = []) :
    let after := lines.foldl Stdout.hostLine out
    after.loaded = [] ∧
      after.written ++ after.host = out.written ++ out.host ++ lines.flatMap printed := by
  induction lines generalizing out with
  | nil => simpa using unheld
  | cons line rest ih =>
    obtain ⟨still, shown⟩ := ih (out.hostLine line) unheld
    refine ⟨still, shown.trans ?_⟩
    rw [host_line_shown, List.flatMap_cons, List.append_assoc]

theorem print_lines (lines : List String) (w : World σ) (alive : w.process.ended = none) :
    lines.foldl World.print w = w.setStdout (lines.foldl Stdout.hostLine w.process.stdout) := by
  induction lines generalizing w with
  | nil => rfl
  | cons line rest ih =>
    have next : w.print line = w.setStdout (w.process.stdout.hostLine line) := by
      simp [World.print, alive]
    rw [List.foldl_cons, next]
    exact ih _ alive

theorem outcome_lines (v : Verdict) (lines : List String) (w : World σ)
    (alive : w.process.ended = none) (fresh : w.process.stdout = .empty) :
    outcome v (lines.foldl World.print w).process = (lines.flatMap printed, some v.status) := by
  obtain ⟨unheld, shown⟩ := host_lines lines w.process.stdout (by rw [fresh]; rfl)
  rw [print_lines lines w alive, outcome]
  simp only [World.setStdout, alive]
  rw [fresh] at shown unheld ⊢
  simp [Stdout.flushHost, Stdout.flushLoaded, Stdout.act, unheld]
  simpa [Stdout.empty] using shown

theorem printed_split (text : String) : printed text = Octets.ofString text ++ [lineFeed] :=
  Octets.ofString_append text "\n"

theorem pieces_printed (texts : List String) (bare : ∀ text ∈ texts, '\n' ∉ text.toList)
    (rest : Octets) :
    Text.pieces lineFeed (texts.flatMap printed ++ rest) =
      texts.map printed ++ Text.pieces lineFeed rest := by
  have cut := Text.pieces_runs lineFeed (texts.map Octets.ofString) rest (by
    simpa [feed_mem_octets] using bare)
  simpa only [List.flatMap_def, List.map_map, Function.comp_def, ← printed_split] using cut

end output

section summary

variable (d : Dress) (unit : SourceUnit) (errors : Nat)

theorem summary_parts : ∃ front back, '\n' ∉ front.toList ∧ '\n' ∉ back.toList ∧
    d.summary unit errors =
      front ++ unit.fileName ++ back ++ ": " ++ toString errors ++ " error(s)" := by
  obtain ⟨cross, coloured⟩ := d
  let lead := (if cross then "✖ " else "") ++ Text.paint coloured ["31", "1"] "failed" ++
    " compiling "
  have bare : '\n' ∉ lead.toList := by cases cross <;> cases coloured <;> decide
  cases coloured with
  | false => exact ⟨lead, "", bare, by decide, by simp [lead, Dress.summary, Text.paint_plain]⟩
  | true =>
    refine ⟨lead ++ "\x1b[36m", "\x1b[0m", ?_, by decide, ?_⟩
    · rw [String.toList_append, List.mem_append, not_or]
      exact ⟨bare, by decide⟩
    · simp only [lead, Dress.summary, Text.paint, if_true, String.append_assoc]
      rfl

theorem summary_bare (bare : '\n' ∉ unit.fileName.toList) :
    '\n' ∉ (d.summary unit errors).toList := by
  obtain ⟨front, back, before, behind, shape⟩ := summary_parts d unit errors
  have digits := Diagnostic.digits_bare errors
  simp only [shape, String.toList_append, List.mem_append, not_or]
  exact ⟨⟨⟨⟨⟨before, bare⟩, behind⟩, by decide⟩, digits⟩, by decide⟩

end summary

-- A run of the command that comes to a launch, and a launch that comes to nothing: the options and
-- the statements that were given, the launcher that was made for them, and what it was told.
structure Refused (P : Platform σ) (environment : Environment) (line : List String) (w : World σ)
    (o : Options) (text : String) (launcher : Launcher) (diagnostics : List Diagnostic)
    (w' : World σ) : Prop where
  parsed : Options.parse line = .ok o
  read : statements w.process.files o = .ok text
  made : Launcher.ofConfig w.process.files (environment.get? "PATH") (o.config environment) =
    .ok launcher
  failed : launcher.run P text o.arguments w = (.ok (.compilationFailed diagnostics), w')

def errorsIn (diagnostics : List Diagnostic) : List Diagnostic :=
  diagnostics.filter fun d => d.severity = .error

-- What a failed compilation shows: the diagnostics that were read from the run and one that may have
-- been added to them, and the summary.
structure FailureShown (unit : SourceUnit) (run : Run) (extra : Option Diagnostic)
    (diagnostics : List Diagnostic) (summary : String) (output : Octets) : Prop where
  told : diagnostics = reported run ++ extra.toList
  added : extra.isSome = true ↔ Clean (reported run)
  printed_once : output = (diagnostics.map Diagnostic.render ++ [summary]).flatMap printed
  lined : Text.pieces lineFeed output = (reported run).map (fun d => printed d.render) ++
    Text.pieces lineFeed (extra.toList.flatMap fun d => printed d.render) ++ [printed summary]
  named : ∃ front back, summary = front ++ unit.fileName ++ back ++ ": " ++
    toString (errorsIn diagnostics).length ++ " error(s)"
  counted : 1 ≤ (errorsIn diagnostics).length

theorem refused_run (P : Platform σ) (environment : Environment) (line : List String)
    (elapsed : String) (w w' : World σ) (o : Options) (text : String) (launcher : Launcher)
    (diagnostics : List Diagnostic)
    (refused : Refused P environment line w o text launcher diagnostics w')
    (untimed : o.time = false) :
    ∃ log, Command.run P environment line elapsed w =
      (⟨0, none, log, false⟩, (failureLines (.ofEnvironment environment) o.pretty
        (launcher.expand text) diagnostics).foldl World.print w') := by
  refine ⟨compileLog (o.config environment) w' ++ failedLog, ?_⟩
  simp only [Command.run, perform, refused.parsed, refused.read, refused.made, launch,
    refused.failed, conclude, untimed]
  rfl

theorem refused_named (P : Platform σ) (environment : Environment) (line : List String)
    (w w' : World σ) (o : Options) (text : String) (launcher : Launcher)
    (diagnostics : List Diagnostic)
    (refused : Refused P environment line w o text launcher diagnostics w') :
    (launcher.expand text).fileName = "Main.c" := by
  have name : (launcher.expand text).name = launcher.entry.unit :=
    of_config_unit _ _ _ launcher refused.made
  rw [unit_file_name, name, of_config_entry _ _ _ launcher refused.made]
  rfl

theorem plain_lines (d : Dress) (unit : SourceUnit) (diagnostics : List Diagnostic) :
    failureLines d false unit diagnostics =
      diagnostics.map Diagnostic.render ++ [d.summary unit (errorsIn diagnostics).length] := by
  rw [failureLines, List.countP_eq_length_filter]
  rfl

theorem errors_present (diagnostics : List Diagnostic) (unclean : ¬ Clean diagnostics) :
    1 ≤ (errorsIn diagnostics).length := by
  obtain ⟨d, member, error⟩ : ∃ d ∈ diagnostics, d.severity = .error := by
    simpa [Clean] using unclean
  exact List.length_pos_of_mem (List.mem_filter.mpr ⟨member, by simpa using error⟩)

-- The lines of the output are those of its parts, because each part ends in a line feed.
theorem report_lined (run : Run) (extra : Option Diagnostic) (summary : String)
    (bare : '\n' ∉ summary.toList) :
    Text.pieces lineFeed
        (((reported run ++ extra.toList).map Diagnostic.render ++ [summary]).flatMap printed) =
      (reported run).map (fun d => printed d.render) ++
        Text.pieces lineFeed (extra.toList.flatMap fun d => printed d.render) ++
          [printed summary] := by
  have read : ∀ text ∈ (reported run).map Diagnostic.render, '\n' ∉ text.toList := by
    simp only [List.forall_mem_map]
    exact fun d member => Diagnostic.of_text_bare _ d member
  have ended : (extra.toList.flatMap fun d => printed d.render) = [] ∨
      (extra.toList.flatMap fun d => printed d.render).getLast? = some lineFeed := by
    cases extra with
    | none => exact .inl rfl
    | some d => exact .inr (by simp [printed_split])
  have last : Text.pieces lineFeed ([summary].flatMap printed) = [printed summary] := by
    simpa [Text.pieces] using pieces_printed [summary] (by simpa using bare) []
  rw [List.map_append, List.append_assoc, List.flatMap_append, pieces_printed _ read,
    List.flatMap_append, List.flatMap_map, pieces_ended _ _ ended, last, List.map_map,
    List.append_assoc]
  rfl

theorem failure_reported (P : Platform σ) (apart : RunsApart P) (environment : Environment)
    (line : List String) (elapsed : String) (w w' : World σ) (o : Options) (text : String)
    (launcher : Launcher) (diagnostics : List Diagnostic)
    (refused : Refused P environment line w o text launcher diagnostics w')
    (plain : o.pretty = false) (untimed : o.time = false)
    (fresh : w.process.stdout = .empty) (alive : w.process.ended = none) :
    let unit := launcher.expand text
    let summary := (Dress.ofEnvironment environment).summary unit (errorsIn diagnostics).length
    let finished := Command.run P environment line elapsed w
    unit.fileName = "Main.c" ∧
    ∃ run captured extra output,
      attempt P launcher.toolchain launcher.mode unit w = (.ok (run, captured), w') ∧
      outcome finished.1 finished.2.process = (output, some 0) ∧
      FailureShown unit run extra diagnostics summary output := by
  intro unit summary finished
  have file := refused_named P environment line w w' o text launcher diagnostics refused
  obtain ⟨result, store, compiled, bad, rfl⟩ :=
    launcher_refused P launcher text o.arguments w w' diagnostics refused.failed
  obtain ⟨run, captured, attempted, settled⟩ := compile_settled P _ _ _ _ _ _ _ _ compiled
  obtain ⟨extra, told, added, unclean⟩ := settled_refused unit run captured _ _ result settled bad
  obtain ⟨idle, spared⟩ :=
    attempt_shown P apart launcher.toolchain launcher.mode unit w w' run captured attempted
  have silent : w'.process.stdout = .empty := by
    obtain ⟨count, same⟩ := idle
    rw [same, fresh]
    simp [Stdout.act, Stdout.empty]
  have bare : '\n' ∉ summary.toList := summary_bare _ unit _ (by rw [file]; decide)
  obtain ⟨front, back, -, -, shape⟩ :=
    summary_parts (.ofEnvironment environment) unit (errorsIn result.diagnostics).length
  obtain ⟨log, ended⟩ := refused_run P environment line elapsed w w' o text launcher _ refused untimed
  refine ⟨file, run, captured, extra, _, attempted, ?_, told, added, rfl, ?_, ⟨front, back, shape⟩,
    errors_present result.diagnostics unclean⟩
  · simp only [finished, ended, plain, plain_lines]
    exact outcome_lines _ _ w' (spared.trans alive) silent
  · rw [told]
    exact report_lined run extra summary bare

-- A run that fails and reports no error.
def excerptRun : Run := ⟨[], Octets.ofString "Main.c:1:2: warning: w\n | x\n", .exited 1⟩

def plainWorld : World Unit := .start ⟨.plain, .empty, [], none, ()⟩

def plainLine : List String := ["--cc=/cc", "--template=/gap", "x"]

def plainOptions : Options :=
  { Options.default with
    statements := some "x"
    template := some (Path.ofString "/gap")
    compiler := some (Path.ofString "/cc") }

def plainLauncher : Launcher := { Launcher.plain .empty with mode := .auto }

def excerptDiagnostics : List Diagnostic :=
  [⟨.warning, some "Main.c", some 1, some 2, "w"⟩, .ofMessage "Main.c:1:2: warning: w\n | x"]

theorem excerpt_refused : ∃ w', Refused (.steady excerptRun 0) [] plainLine plainWorld plainOptions
    "x" plainLauncher excerptDiagnostics w' := by
  have made : Launcher.ofConfig .plain none (plainOptions.config []) = .ok plainLauncher := by
    have discovered : Toolchain.discover .plain none (some (Path.ofString "/cc")) [] =
      .ok ⟨Path.ofString "/cc", []⟩ := plain_discover []
    have settled : plainOptions.config [] = { Config.plain with scratch := .auto } := by
      decide +kernel
    rw [settled, Launcher.ofConfig]
    simp only [Config.plain, EntryPoint.default]
    rw [plain_skeleton, discovered]
    rfl
  have parsed : Options.parse plainLine = .ok plainOptions := by rfl
  exact ⟨_, parsed, rfl, made, rfl⟩

def excerptReport : String :=
  "Main.c:1:2: warning: w\nerror: Main.c:1:2: warning: w\n | x\nfailed compiling Main.c: 1 error(s)\n"

theorem excerpt_reported :
    (let finished := Command.run (.steady excerptRun 0) [] plainLine "0" plainWorld
     outcome finished.1 finished.2.process = (Octets.ofString excerptReport, some 0)) ∧
    ∃ w' run captured extra,
      Refused (.steady excerptRun 0) [] plainLine plainWorld plainOptions "x" plainLauncher
        excerptDiagnostics w' ∧
      attempt (.steady excerptRun 0) ⟨Path.ofString "/cc", []⟩ .auto (plainLauncher.expand "x")
        plainWorld = (.ok (run, captured), w') ∧
      FailureShown (plainLauncher.expand "x") run extra excerptDiagnostics
        "failed compiling Main.c: 1 error(s)" (Octets.ofString excerptReport) := by
  have apart : RunsApart (.steady excerptRun 0) := ⟨fun _ _ => Stdout.idle_refl _, fun _ _ => rfl⟩
  obtain ⟨w', refused⟩ := excerpt_refused
  obtain ⟨-, run, captured, extra, output, attempted, ended, shown⟩ :=
    failure_reported (.steady excerptRun 0) apart [] plainLine "0" plainWorld w' plainOptions "x"
      plainLauncher excerptDiagnostics refused rfl rfl rfl rfl
  have summary : (Dress.ofEnvironment []).summary (plainLauncher.expand "x")
      (errorsIn excerptDiagnostics).length = "failed compiling Main.c: 1 error(s)" := by
    decide +kernel
  rw [summary] at shown
  obtain rfl : output = Octets.ofString excerptReport :=
    shown.printed_once.trans (by decide +kernel)
  exact ⟨ended, w', run, captured, extra, refused, attempted, shown⟩

end Command

end Fragment
