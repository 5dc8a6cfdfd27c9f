import Fragment.Diagnostic.Report
import Fragment.Proofs.Diagnostic.RoundTrip
import Fragment.Proofs.Compile.Attempt
import Fragment.Proofs.Launch.Name
import Fragment.Proofs.Source.Position
import Fragment.Proofs.Text.Octets
/-!
The way of a position through a launch. The toolchain reads a header line and then the unit, so it
counts lines as the unit does; and what it says of a line and a column comes back as a label on the
octet of the statements that is there.
-/
namespace Fragment

variable {σ : Type}

-- The line that tells a toolchain which file it reads.
def sourceHeader (name : String) : Octets := Octets.ofString ("#line 1 \"" ++ name ++ ".c\"\n")

def Skeleton.place (skeleton : Skeleton) (offset : Nat) : Nat :=
  (Octets.ofString skeleton.before).length + offset

def remarkText (unit : String) (line column : Nat) (word message : String) : String :=
  unit ++ ".c:" ++ toString line ++ ":" ++ toString column ++ ": " ++ word ++ ": " ++ message

theorem unit_file_name (unit : SourceUnit) : unit.fileName = unit.name ++ ".c" := by
  simp [SourceUnit.fileName, UnitKind.fileName, SourceUnit.kind, UnitKind.extension,
    String.append_assoc]

theorem staged_header (unit : SourceUnit) :
    stagedInput unit = sourceHeader unit.name ++ unit.octets := by
  rw [stagedInput, unit_file_name, Octets.ofString_append, sourceHeader, SourceUnit.octets]
  congr 2
  simp [String.append_assoc]

theorem feed_mem_octets (text : String) : lineFeed ∈ Octets.ofString text ↔ '\n' ∈ text.toList :=
  Octets.ascii_mem_octets text '\n' (by decide)

theorem header_line (name : String) (bare : '\n' ∉ name.toList) (rest : Octets) :
    Text.pieces lineFeed (sourceHeader name ++ rest) =
      sourceHeader name :: Text.pieces lineFeed rest := by
  have unfed : lineFeed ∉ Octets.ofString ("#line 1 \"" ++ name ++ ".c\"") := by
    rw [feed_mem_octets]
    simp [bare]
  have ended : sourceHeader name = Octets.ofString ("#line 1 \"" ++ name ++ ".c\"") ++ [lineFeed] := by
    have split : "#line 1 \"" ++ name ++ ".c\"\n" = ("#line 1 \"" ++ name ++ ".c\"") ++ "\n" := by
      simp [String.append_assoc]
    rw [sourceHeader, split, Octets.ofString_append]
    rfl
  rw [ended, List.append_assoc, List.singleton_append, Text.pieces_run lineFeed _ rest unfed]

theorem staged_first_line (unit : SourceUnit) (bare : '\n' ∉ unit.name.toList) :
    lineAt? (stagedInput unit) 1 = some (0, sourceHeader unit.name) := by
  rw [staged_header, lineAt?, header_line unit.name bare]
  rfl

theorem staged_next_line (unit : SourceUnit) (bare : '\n' ∉ unit.name.toList)
    (line start : Nat) (piece : Octets) (found : lineAt? unit.octets line = some (start, piece)) :
    lineAt? (stagedInput unit) (line + 1) =
      some ((sourceHeader unit.name).length + start, piece) := by
  cases line with
  | zero => contradiction
  | succ n =>
    rw [staged_header, lineAt?]
    simp only [lineAt?, Option.map_eq_some_iff, Prod.mk.injEq] at found ⊢
    obtain ⟨_, cut, rfl, rfl⟩ := found
    rw [header_line unit.name bare]
    exact ⟨_, cut, by simp, rfl⟩

theorem spliced_octet (skeleton : Skeleton) (statements : String) (offset : Nat)
    (inside : offset < (Octets.ofString statements).length) :
    (skeleton.expand statements).octets[skeleton.place offset]? =
      (Octets.ofString statements)[offset]? := by
  rw [SourceUnit.octets, Skeleton.expand, Octets.ofString_append, Octets.ofString_append,
    Skeleton.place, List.append_assoc, List.getElem?_append_right (Nat.le_add_right _ _),
    Nat.add_sub_cancel_left, List.getElem?_append_left inside]

-- A name that starts a line of diagnostics and is cut off whole at its colon.
structure IsUnitName (name : String) : Prop where
  colonless : ':' ∉ name.toList
  bare : '\n' ∉ name.toList
  solid : ∀ c, name.toList.head? = some c → Text.isBlank c = false

def SourceUnit.remark (unit : SourceUnit) (offset : Nat) (word : String) (severity : Severity)
    (message : String) : Diagnostic.Remark where
  file := (unit.name ++ ".c").toList
  line := lineNumber unit.octets offset
  column := some (columnNumber unit.octets offset)
  word := word
  severity := severity
  message := message.toList

theorem unit_file (name : String) (named : IsUnitName name) :
    Diagnostic.IsFile (name ++ ".c").toList ∧ '\n' ∉ (name ++ ".c").toList := by
  have ending : ".c".toList = ['.', 'c'] := rfl
  rw [String.toList_append, ending]
  refine ⟨⟨?_, ?_⟩, by simpa using named.bare⟩
  · cases shape : name.toList with
    | nil => exact ⟨'.', ['c'], rfl, by decide⟩
    | cons c more => exact ⟨c, more ++ ['.', 'c'], rfl, named.solid c (by rw [shape]; rfl)⟩
  · simp only [List.mem_append, List.mem_cons, List.not_mem_nil, or_false]
    rintro c (inside | rfl | rfl)
    · rintro rfl
      exact named.colonless inside
    · decide
    · decide

theorem remark_valid (unit : SourceUnit) (named : IsUnitName unit.name) (offset : Nat)
    (fits : unit.octets.length < Text.wordRange) (inside : offset < unit.octets.length)
    (word message : String) (severity : Severity)
    (listed : (word, severity) ∈ Diagnostic.severityWords)
    (said : Diagnostic.IsMessage message.toList) :
    (unit.remark offset word severity message).Valid := by
  obtain ⟨filed, bare⟩ := unit_file unit.name named
  obtain ⟨low, narrow⟩ := place_bounds unit.octets offset
  refine ⟨filed, bare, Nat.lt_of_le_of_lt low (by omega), ?_, listed, said⟩
  intro column same
  obtain rfl := Option.some.inj same
  exact Nat.lt_of_le_of_lt narrow (by omega)

theorem remark_text (unit : SourceUnit) (offset : Nat) (word : String) (severity : Severity)
    (message : String) :
    (remarkText unit.name (lineNumber unit.octets offset) (columnNumber unit.octets offset) word
      message).toList = (unit.remark offset word severity message).form.text := by
  simp [remarkText, SourceUnit.remark, Diagnostic.Remark.form, Diagnostic.Form.text,
    Diagnostic.columnText, Diagnostic.spelled]

theorem remark_refers (unit : SourceUnit) (offset : Nat) (word : String) (severity : Severity)
    (message : String) :
    (unit.remark offset word severity message).told.refersTo unit = true := by
  simp [Diagnostic.refersTo, Diagnostic.Remark.told, SourceUnit.remark, unit_file_name]

theorem remark_reported (unit : SourceUnit) (named : IsUnitName unit.name) (offset : Nat)
    (fits : unit.octets.length < Text.wordRange) (visible : ¬ EndsLine unit.octets offset)
    (word message : String) (severity : Severity)
    (listed : (word, severity) ∈ Diagnostic.severityWords)
    (said : Diagnostic.IsMessage message.toList) :
    ∃ d, Diagnostic.parse (remarkText unit.name (lineNumber unit.octets offset)
        (columnNumber unit.octets offset) word message) = [d] ∧
      d.refersTo unit = true ∧ d.report unit = ⟨severity, message, unit, some ⟨offset, 1⟩⟩ := by
  have inside : offset < unit.octets.length :=
    Nat.lt_of_not_le fun behind => visible (ends_line_behind unit.octets offset behind)
  have valid := remark_valid unit named offset fits inside word message severity listed said
  have refers := remark_refers unit offset word severity message
  refine ⟨(unit.remark offset word severity message).told, ?_, refers, ?_⟩
  · rw [Diagnostic.parse, Diagnostic.ofText, remark_text unit offset word severity message,
      Text.lines_last _ (Diagnostic.form_line _ valid), List.filterMap_cons,
      Diagnostic.remark_read _ valid]
    rfl
  · have marked := span_of_place unit.octets offset visible
    simp only [Diagnostic.report, refers]
    simp [Diagnostic.Remark.told, SourceUnit.remark, SourceUnit.span?, marked]

-- A text that a machine holds has fewer octets than a word can count, so its lines and columns are
-- numbers that the reader of diagnostics takes.
theorem position_survives_launch (P : Platform σ) (launcher : Launcher)
    (name template statements : String)
    (parsed : Skeleton.parse name template = .ok launcher.skeleton) (named : IsUnitName name)
    (offset : Nat) (inside : offset < (Octets.ofString statements).length)
    (fits : (launcher.expand statements).octets.length < Text.wordRange)
    (visible : ¬ EndsLine (launcher.expand statements).octets (launcher.skeleton.place offset))
    (w : World σ) :
    let unit := launcher.expand statements
    let place := launcher.skeleton.place offset
    let line := lineNumber unit.octets place
    let column := columnNumber unit.octets place
    let staged := sourceHeader name ++ unit.octets
    stagedInput unit = staged ∧
    (∃ runs, (launcher.compile P statements w).2.2.events = w.events ++ runs ∧
      ∀ event ∈ runs, ∃ invocation run, event = .spawned invocation run ∧
        invocation.input = staged) ∧
    lineAt? staged 1 = some (0, sourceHeader name) ∧
    (∃ start piece, lineAt? unit.octets line = some (start, piece) ∧
      lineAt? staged (line + 1) = some ((sourceHeader name).length + start, piece) ∧
      start + (column - 1) = place ∧
      piece[column - 1]? = (Octets.ofString statements)[offset]?) ∧
    ∀ word severity message, (word, severity) ∈ Diagnostic.severityWords →
      Diagnostic.IsMessage message.toList →
      ∃ d, Diagnostic.parse (remarkText name line column word message) = [d] ∧
        d.refersTo unit = true ∧
        d.report unit = ⟨severity, message, unit, some ⟨place, 1⟩⟩ ∧
        (d.report unit).labels = [(severity.word, ⟨place, 1⟩)] := by
  intro unit place line column staged
  have same : unit.name = name := skeleton_parse_unit name template launcher.skeleton parsed
  have read : stagedInput unit = staged := by rw [staged_header, same]
  refine ⟨read, ?_, ?_, ?_, ?_⟩
  · have runs := compile_reads P launcher.toolchain launcher.mode unit .empty w
    rwa [read] at runs
  · have first := staged_first_line unit (same ▸ named.bare)
    rwa [read, same] at first
  · obtain ⟨start, piece, found, reached, octet⟩ := line_of_place unit.octets place visible
    have next := staged_next_line unit (same ▸ named.bare) line start piece found
    rw [read, same] at next
    exact ⟨start, piece, found, next, reached,
      octet.trans (spliced_octet launcher.skeleton statements offset inside)⟩
  · intro word severity message listed said
    obtain ⟨d, alone, refers, report⟩ :=
      remark_reported unit (same ▸ named) place fits visible word message severity listed said
    rw [same] at alone
    exact ⟨d, alone, refers, report, by rw [report]; rfl⟩

def Launcher.withReturns : Launcher :=
  { Launcher.plain .empty with skeleton := ⟨"A b", "x\r\n", "\r\ny%"⟩ }

theorem semicolon_survives_launch :
    Skeleton.parse "A b" "x\r\n%s\r\ny%%" = .ok Launcher.withReturns.skeleton ∧
      ¬ EndsLine (Launcher.withReturns.expand "p\n\tq\r;\r").octets
        (Launcher.withReturns.skeleton.place 5) ∧
      ∃ d, Diagnostic.parse "A b.c:3:4: fatal error: stray ';' in 1:2" = [d] ∧
        (d.report (Launcher.withReturns.expand "p\n\tq\r;\r")).labels = [("error", ⟨8, 1⟩)] := by
  have parsed : Skeleton.parse "A b" "x\r\n%s\r\ny%%" = .ok Launcher.withReturns.skeleton := rfl
  have named : IsUnitName "A b" := by
    refine ⟨by decide, by decide, ?_⟩
    rintro c ⟨⟩
    rfl
  have visible : ¬ EndsLine (Launcher.withReturns.expand "p\n\tq\r;\r").octets
      (Launcher.withReturns.skeleton.place 5) := by decide
  have said : Diagnostic.IsMessage "stray ';' in 1:2".toList := by
    refine ⟨by decide, by decide, ?_⟩
    rintro c ⟨⟩
    rfl
  obtain ⟨-, -, -, -, told⟩ := position_survives_launch (.steady .quiet 0) Launcher.withReturns "A b"
    "x\r\n%s\r\ny%%" "p\n\tq\r;\r" parsed named 5 (by decide) (by decide) visible .blank
  obtain ⟨d, alone, -, -, marked⟩ :=
    told "fatal error" .error "stray ';' in 1:2" (by decide) said
  exact ⟨parsed, visible, d, alone, marked⟩

end Fragment
