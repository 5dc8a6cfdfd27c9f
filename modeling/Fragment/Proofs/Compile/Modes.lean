import Fragment.Proofs.Compile.Attempt
import Fragment.Proofs.Compile.Shared
import Fragment.Proofs.Files.Directory
import Fragment.Proofs.Text.Decode
/-!
Compiling in either kind of scratch file. A toolchain that minds neither where its output goes nor
that a directory was made for it leaves the same octets in a memory file and in a private directory,
so the scratch mode makes no difference to what a compilation tells and stores.
-/
namespace Fragment

variable {σ : Type}

-- A name of a unit whose files every kind of scratch takes: a memory file's label may have 249 octets,
-- three of which are the extension's.
structure IsScratchName (name : String) : Prop where
  slashless : '/' ∉ name.toList
  nulless : '\x00' ∉ name.toList
  short : (Octets.ofString name).length ≤ 246

theorem extension_fits (kind : UnitKind) : (Octets.ofString kind.extension).length ≤ 2 ∧
    0 ∉ Octets.ofString kind.extension ∧ Path.slash ∉ Octets.ofString kind.extension := by
  cases kind <;> decide

theorem label_taken (kind : UnitKind) (name : String) (named : IsScratchName name) :
    Scratch.checkLabel (kind.fileName name) = .ok () := by
  obtain ⟨short, nulless, -⟩ := extension_fits kind
  have own : 0 ∉ Octets.ofString name := (Octets.nul_mem_octets name).not.mpr named.nulless
  have bare : 0 ∉ Octets.ofString (kind.fileName name) := by
    rw [file_name_octets]
    simp [own, nulless]
  have fits : ¬ Scratch.labelLimit < (Octets.ofString (kind.fileName name)).length := by
    have length := named.short
    rw [file_name_octets, List.length_append, List.length_cons, Scratch.labelLimit]
    omega
  simp only [Scratch.checkLabel, (Octets.nul_at_none_iff _).mpr bare, if_neg fits]

theorem label_checked (kind : UnitKind) (name : String) (named : IsScratchName name)
    (mode : ScratchMode) : Scratch.checkFor mode (kind.fileName name) = .ok () := by
  unfold Scratch.checkFor
  split
  · exact label_taken kind name named
  · rfl

theorem label_file_name (name : String) (named : IsScratchName name) :
    IsFileName (Path.ofString (UnitKind.output.fileName name)) := by
  obtain ⟨short, nulless, slashless⟩ := extension_fits .output
  have own : 0 ∉ Octets.ofString name := (Octets.nul_mem_octets name).not.mpr named.nulless
  have flat : Path.slash ∉ Octets.ofString name :=
    (Octets.ascii_mem_octets name '/' (by decide)).not.mpr named.slashless
  have length := named.short
  have two : (Octets.ofString UnitKind.output.extension).length = 2 := rfl
  have long : 3 ≤ (Octets.ofString name ++ 46 :: Octets.ofString UnitKind.output.extension).length := by
    rw [List.length_append, List.length_cons]
    omega
  rw [Path.ofString, file_name_octets]
  refine ⟨by simp, ⟨fun same => ?_, fun same => ?_⟩, ?_, ?_, ?_⟩
  · rw [same] at long
    exact absurd long (by decide)
  · rw [same] at long
    exact absurd long (by decide)
  · simpa [Path.slash] using And.intro flat slashless
  · simp [own, nulless]
  · rw [List.length_append, List.length_cons, FileTree.nameLimit]
    omega

def Toolchain.asked (toolchain : Toolchain) (output : String) (input : Octets) : Invocation :=
  ⟨toolchain.program, compilerArguments output toolchain.flags, "C", input⟩

-- A toolchain that goes by its input, its environment and its other arguments only, prints nothing, and
-- does nothing to its output but make it, empty it and write there.
structure Toolchain.Plain (P : Platform σ) (toolchain : Toolchain) : Prop where
  oblivious : ∀ output output' input (w : World σ),
    (P.spawn (toolchain.asked output' input) (w.openDirectory P).2.process).1 =
      (P.spawn (toolchain.asked output input) w.process).1
  silent : ∀ output input process run,
    (P.spawn (toolchain.asked output input) process).1 = .ok run →
      ∀ octets, .print octets ∈ run.emissions → octets = []
  -- What a run does at its output it emits; the way there it leaves as it was.
  tidy : ∀ location input process above, above <+: location →
    FileTree.entry? (P.spawn (toolchain.asked (pathText (Scratch.ofLocation location)) input)
      process).2.files above = process.files.entry? above

structure World.ScratchFree (P : Platform σ) (w : World σ) : Prop where
  temporary : w.process.files.entry? [Scratch.temporary] = none ∨
    w.process.files.entry? [Scratch.temporary] = some .directory
  named : IsFileName (P.freshDirectory w.process.files)
  unused : ∀ location, [Scratch.temporary, P.freshDirectory w.process.files] <+: location →
    w.process.files.entry? location = none

theorem steady_grants (run : Run) (status : Int) : (Platform.steady run status).Grants :=
  fun _ _ => rfl

theorem blank_scratch_free (run : Run) (status : Int) :
    World.ScratchFree (.steady run status) .blank := by
  have named : IsFileName (Path.ofString "memrun-0") :=
    ⟨by decide, by decide, by decide, by decide, by decide⟩
  refine ⟨.inl rfl, named, ?_⟩
  rintro location ⟨below, rfl⟩
  rfl

theorem asked_nul (toolchain : Toolchain) (output : String) (input : Octets)
    (nulless : '\x00' ∉ output.toList) :
    (toolchain.asked output input).arguments.any (·.toList.contains '\x00') =
      toolchain.flags.any (·.toList.contains '\x00') := by
  have plain : output.toList.contains '\x00' = false := by simpa using nulless
  have front : (["-x", "c", "-shared", "-fPIC", "-pipe", "-fdiagnostics-color=never", "-o"].any
      (·.toList.contains '\x00')) = false := by decide
  have back : ["-Wl,--no-undefined"].any (·.toList.contains '\x00') = false := by decide
  have shape : (toolchain.asked output input).arguments =
      ["-x", "c", "-shared", "-fPIC", "-pipe", "-fdiagnostics-color=never", "-o"] ++
        output :: "-" :: toolchain.flags ++ ["-Wl,--no-undefined"] := by
    simp [Toolchain.asked, compilerArguments]
  rw [shape, List.any_append, List.any_append, front, back, List.any_cons, plain]
  exact (Bool.or_false _).trans rfl

theorem spawn_answer (P : Platform σ) (toolchain : Toolchain) (output : String) (input : Octets)
    (w : World σ) (nulless : '\x00' ∉ output.toList) :
    (spawn P (toolchain.asked output input) w).1 =
      if toolchain.flags.any (·.toList.contains '\x00') then
        .error (.text "nul byte found in provided data")
      else (P.spawn (toolchain.asked output input) w.process).1 := by
  unfold spawn
  rw [asked_nul toolchain output input nulless]
  split
  · rfl
  · rcases P.spawn (toolchain.asked output input) w.process with ⟨cause | run, process⟩ <;> rfl

-- What an attempt tells of the answer to a call, if the output is in what the run emits.
def Toolchain.told (toolchain : Toolchain) (answer : Except OsFault Run) :
    Except ToolchainFault (Run × Except OsFault Octets) :=
  match answer with
  | .error cause => .error (.spawn toolchain.program cause)
  | .ok run => .ok (run, .ok ((Scratch.outputContent run.emissions).getD []))

section scratch

variable {P : Platform σ} {w : World σ} {label : Octets}

theorem scratch_made (free : w.ScratchFree P) :
    let directory := (w.openDirectory P).1
    let files := (w.openDirectory P).2.process.files
    (∀ above, above <+: directory → files.isDirectory above = true) ∧
      ∀ label, files.entry? (directory ++ [label]) = none := by
  intro directory files
  constructor
  · intro above within
    rcases List.prefix_cons_iff.mp within with rfl | ⟨rest, rfl, inside⟩
    · rfl
    have made : files.entry? (Scratch.temporary :: rest) = some .directory := by
      refine (FileTree.entry_addDirectory w.process.files directory _).trans ?_
      by_cases absent : w.process.files.entry? (Scratch.temporary :: rest) = none
      · rw [if_pos ⟨within, absent⟩]
      · rw [if_neg fun both => absent both.2]
        rcases List.prefix_cons_iff.mp inside with rfl | ⟨more, rfl, -⟩
        · exact free.temporary.resolve_left absent
        · exact absurd (free.unused _ ⟨more, rfl⟩) absent
    simpa [FileTree.isDirectory] using made
  · intro label
    refine (FileTree.entry_addDirectory w.process.files directory _).trans ?_
    rw [if_neg fun both => FileTree.not_prefix_front directory label both.1]
    exact free.unused _ ⟨[label], rfl⟩

theorem temporary_file_name : IsFileName Scratch.temporary where
  something := by decide
  plain := by decide
  slashless := by decide
  nulless := by decide
  short := by decide

theorem output_named (free : w.ScratchFree P) (file : IsFileName label) :
    ∀ part ∈ (w.openDirectory P).1 ++ [label], IsFileName part := by
  intro part member
  simp only [World.openDirectory, List.cons_append, List.nil_append, List.mem_cons, List.not_mem_nil,
    or_false] at member
  rcases member with rfl | rfl | rfl
  · exact temporary_file_name
  · exact free.named
  · exact file

theorem output_short (free : w.ScratchFree P) (file : IsFileName label) :
    (Scratch.ofLocation ((w.openDirectory P).1 ++ [label])).length ≤ FileTree.pathLimit := by
  have first : Scratch.temporary.length = 3 := rfl
  have second := free.named.short
  have third := file.short
  have none : Scratch.ofLocation [] = [] := rfl
  simp only [World.openDirectory, List.cons_append, List.nil_append, Scratch.location_cons, none,
    List.length_append, List.length_cons, List.length_nil, first]
  rw [FileTree.nameLimit] at second third
  rw [FileTree.pathLimit]
  omega

theorem output_joined (free : w.ScratchFree P) (file : IsFileName label) :
    (Scratch.ofLocation (w.openDirectory P).1).join label =
      Scratch.ofLocation ((w.openDirectory P).1 ++ [label]) := by
  have ended := Scratch.location_last [Scratch.temporary] (P.freshDirectory w.process.files)
    free.named.something free.named.slashless
  have relative : Path.isAbsolute label = false := by
    cases label with
    | nil => rfl
    | cons o rest =>
      have other : o ≠ Path.slash := fun same => file.slashless (by simp [same])
      simpa [Path.isAbsolute] using other
  have something : (Scratch.ofLocation (w.openDirectory P).1).isEmpty = false := by
    rw [World.openDirectory, Scratch.location_cons]
    rfl
  rw [List.singleton_append] at ended
  rw [Path.join, relative, something, World.openDirectory, ended, Scratch.location_append,
    Scratch.location_cons label]
  simp [Scratch.ofLocation]

theorem output_created (granted : P.Grants) (free : w.ScratchFree P) (mode : ScratchMode)
    (name : String) (file : IsFileName (Path.ofString (UnitKind.output.fileName name)))
    (elsewhere : mode.resolve P.hasMemoryFiles ≠ .memory) :
    OutputTarget.create P mode (UnitKind.output.fileName name) w =
      (.ok (.privateDir (w.openDirectory P).1 (Scratch.ofLocation
        ((w.openDirectory P).1 ++ [Path.ofString (UnitKind.output.fileName name)]))),
        (w.openDirectory P).2) := by
  rw [OutputTarget.create_private P mode name w elsewhere (granted _ _), privatePath,
    output_joined free file]

theorem output_vacant (free : w.ScratchFree P) (file : IsFileName label) (files : FileTree)
    (kept : ∀ above, above <+: (w.openDirectory P).1 ++ [label] →
      files.entry? above = FileTree.entry? (w.openDirectory P).2.process.files above) :
    files.place (Scratch.ofLocation ((w.openDirectory P).1 ++ [label])) =
      .ok (.vacant ((w.openDirectory P).1 ++ [label])) := by
  obtain ⟨inside, absent⟩ := scratch_made free
  refine FileTree.place_absent files _ label (output_named free file) (output_short free file) ?_ ?_
  · intro above within
    have there := inside above within
    rw [FileTree.isDirectory] at there ⊢
    rw [kept above (within.trans (List.prefix_append _ [label]))]
    exact there
  · rw [kept _ List.prefix_rfl]
    exact absent label

end scratch

section attempt

variable {P : Platform σ} {toolchain : Toolchain} {unit : SourceUnit} {w : World σ}

theorem path_nulless (path : Path) (bare : 0 ∉ path) : '\x00' ∉ (pathText path).toList := by
  rw [pathText, Utf8.lossy, String.toList_ofList]
  exact fun read => bare (Utf8.lossy_ascii path '\x00' (by decide) read)

theorem answer_elsewhere (plain : toolchain.Plain P) (output output' : String) (input : Octets)
    (nulless : '\x00' ∉ output.toList) (nulless' : '\x00' ∉ output'.toList) (w w' : World σ)
    (same : w'.process = w.process ∨ w'.process = (w.openDirectory P).2.process) :
    (spawn P (toolchain.asked output' input) w').1 = (spawn P (toolchain.asked output input) w).1 := by
  rw [spawn_answer P toolchain output' input w' nulless',
    spawn_answer P toolchain output input w nulless]
  rcases same with same | same
  · rw [same, ← plain.oblivious output' output input w, plain.oblivious output output input w]
  · rw [same, plain.oblivious output output' input w]

theorem attempt_memory (granted : P.Grants) (named : IsScratchName unit.name)
    (plain : toolchain.Plain P) (mode : ScratchMode)
    (memory : mode.resolve P.hasMemoryFiles = .memory) :
    (attempt P toolchain mode unit w).1 =
      toolchain.told (spawn P (toolchain.asked "" (stagedInput unit)) w).1 := by
  have made : OutputTarget.create P mode (UnitKind.output.fileName unit.name) w =
      (.ok (.memory (w.openDescriptor P).1 []), (w.openDescriptor P).2) := by
    rw [OutputTarget.create, World.permit_granted P mode _ .openOutput w
      (label_checked .output unit.name named _) (granted _ _), memory]
  have answer := answer_elsewhere plain "" (pathText (memoryPath 1)) (stagedInput unit) (by decide)
    (path_nulless _ (by decide)) w (w.openDescriptor P).2 (.inl rfl)
  rw [attempt_granted P toolchain mode unit w _ _ granted (label_checked .source _ named _) made,
    ← answer]
  rcases ran : spawn P (compilerInvocation toolchain (.memory (w.openDescriptor P).1 [])
    (stagedInput unit)) (w.openDescriptor P).2 with ⟨cause | run, spawned⟩
  · have told := congrArg Prod.fst ran
    exact (congrArg toolchain.told told).symm
  · have told := congrArg Prod.fst ran
    have answered := congrArg Prod.fst (spawn_ran P _ _ _ run ran).1
    have silent := plain.silent _ _ _ run answered
    refine Eq.trans ?_ (congrArg toolchain.told told).symm
    exact congrArg (fun content => Except.ok (run, Except.ok content))
      (Scratch.shared_output run.emissions silent)

theorem drain_vacant (directory : Location) (path : Path) (location : Location)
    (emissions : List Emission) (spawned : World σ) (plain : path.endsInSlash = false)
    (vacant : spawned.process.files.place path = .ok (.vacant location)) :
    ((OutputTarget.privateDir directory path).receive emissions spawned).1.drain
      ((OutputTarget.privateDir directory path).receive emissions spawned).2 =
        .ok ((Scratch.outputContent emissions).getD []) := by
  cases left : Scratch.outputContent emissions with
  | none =>
    have absent := FileTree.read_vacant spawned.process.files path location vacant
    rw [receive_unwritten directory path emissions spawned (by simp [Unwritten, left])]
    simp [OutputTarget.drain, absent]
  | some content =>
    exact drain_written directory path emissions spawned content _ left
      (FileTree.write_vacant spawned.process.files path location content plain vacant)

theorem attempt_private (granted : P.Grants) (named : IsScratchName unit.name)
    (plain : toolchain.Plain P) (free : w.ScratchFree P) (mode : ScratchMode)
    (elsewhere : mode.resolve P.hasMemoryFiles ≠ .memory) :
    (attempt P toolchain mode unit w).1 =
      toolchain.told (spawn P (toolchain.asked "" (stagedInput unit)) w).1 := by
  have file := label_file_name unit.name named
  let directory := (w.openDirectory P).1
  let location := directory ++ [Path.ofString (UnitKind.output.fileName unit.name)]
  let path := Scratch.ofLocation location
  have made : OutputTarget.create P mode (UnitKind.output.fileName unit.name) w =
      (.ok (.privateDir directory path), (w.openDirectory P).2) :=
    output_created granted free mode unit.name file elsewhere
  have nulless := path_nulless path (Scratch.location_nulless _ (output_named free file))
  have answer := answer_elsewhere plain "" (pathText path) (stagedInput unit) (by decide) nulless w
    (w.openDirectory P).2 (.inr rfl)
  rw [attempt_granted P toolchain mode unit w _ _ granted (label_checked .source _ named _) made,
    ← answer]
  rcases ran : spawn P (compilerInvocation toolchain (.privateDir directory path)
    (stagedInput unit)) (w.openDirectory P).2 with ⟨cause | run, spawned⟩
  · have told := congrArg Prod.fst ran
    exact (congrArg toolchain.told told).symm
  · have told := congrArg Prod.fst ran
    have vacant : spawned.process.files.place path = .ok (.vacant location) := by
      refine output_vacant free file _ fun above within => ?_
      have left := congrArg (·.2.files.entry? above) (spawn_ran P _ _ spawned run ran).1
      exact left.symm.trans (plain.tidy location (stagedInput unit) _ above within)
    have drained := drain_vacant directory path location run.emissions spawned
      (Scratch.location_last directory _ file.something file.slashless) vacant
    refine Eq.trans ?_ (congrArg toolchain.told told).symm
    exact congrArg (fun content => Except.ok (run, content)) drained

theorem attempt_told (granted : P.Grants) (named : IsScratchName unit.name)
    (plain : toolchain.Plain P) (free : w.ScratchFree P) (mode : ScratchMode) :
    (attempt P toolchain mode unit w).1 =
      toolchain.told (spawn P (toolchain.asked "" (stagedInput unit)) w).1 := by
  by_cases memory : mode.resolve P.hasMemoryFiles = .memory
  · exact attempt_memory granted named plain mode memory
  · exact attempt_private granted named plain free mode memory

end attempt

theorem compile_told (P : Platform σ) (toolchain : Toolchain) (mode mode' : ScratchMode)
    (unit : SourceUnit) (store : Store) (w : World σ)
    (told : (attempt P toolchain mode unit w).1 = (attempt P toolchain mode' unit w).1) :
    (compile P toolchain mode unit store w).1 = (compile P toolchain mode' unit store w).1 ∧
      (compile P toolchain mode unit store w).2.1 =
        (compile P toolchain mode' unit store w).2.1 := by
  rw [compile_attempt, compile_attempt]
  rcases attempted : attempt P toolchain mode unit w with ⟨answer, left⟩
  rcases attempted' : attempt P toolchain mode' unit w with ⟨answer', left'⟩
  rw [attempted, attempted'] at told
  obtain rfl : answer = answer' := told
  rcases answer with fault | ⟨run, drained⟩
  · exact ⟨rfl, rfl⟩
  · exact ⟨rfl, rfl⟩

theorem compile_modes_agree (P : Platform σ) (toolchain : Toolchain) (unit : SourceUnit)
    (store : Store) (w : World σ) (mode mode' : ScratchMode) (named : IsScratchName unit.name)
    (plain : toolchain.Plain P) (granted : P.Grants) (free : w.ScratchFree P) :
    (compile P toolchain mode unit store w).1 = (compile P toolchain mode' unit store w).1 ∧
      (compile P toolchain mode unit store w).2.1 =
        (compile P toolchain mode' unit store w).2.1 := by
  refine compile_told P toolchain mode mode' unit store w ?_
  rw [attempt_told granted named plain free mode, attempt_told granted named plain free mode']

-- A run that begins its output twice: what it had written before is gone.
def Run.restarted : Run :=
  ⟨[.create, .write [7, 7, 7], .create, .write [1], .write [2]], [], .exited 0⟩

-- Compiling with it, over an artifact of the same name that was never finished.
def compileRestarted (mode : ScratchMode) : Except ToolchainFault Compilation × Store × World Unit :=
  compile (.steady .restarted 0) ⟨Path.ofString "/bin/cc", ["-O2"]⟩ mode ⟨"Main", "int x;\n"⟩
    ⟨[⟨"Main", [9], false⟩], false⟩ .blank

theorem restarted_output_alike :
    (compileRestarted .memory).1 = .ok ⟨true, []⟩ ∧
      (compileRestarted .memory).2.1 = ⟨[⟨"Main", [1, 2], true⟩], true⟩ ∧
      (compileRestarted .privateDir).1 = .ok ⟨true, []⟩ ∧
      (compileRestarted .privateDir).2.1 = ⟨[⟨"Main", [1, 2], true⟩], true⟩ := by
  have named : IsScratchName "Main" := ⟨by decide, by decide, by decide⟩
  have plain : Toolchain.Plain (.steady .restarted 0) ⟨Path.ofString "/bin/cc", ["-O2"]⟩ := by
    refine ⟨fun _ _ _ _ => rfl, ?_, fun _ _ _ _ _ => rfl⟩
    intro output input process run ran octets printed
    obtain rfl : Run.restarted = run := Except.ok.inj ran
    simp [Run.restarted] at printed
  obtain ⟨answer, store⟩ := compile_modes_agree (.steady .restarted 0)
    ⟨Path.ofString "/bin/cc", ["-O2"]⟩ ⟨"Main", "int x;\n"⟩ ⟨[⟨"Main", [9], false⟩], false⟩ .blank
    .privateDir .memory named plain (steady_grants .restarted 0) (blank_scratch_free .restarted 0)
  have made : (compileRestarted .memory).1 = .ok ⟨true, []⟩ := rfl
  have kept : (compileRestarted .memory).2.1 = ⟨[⟨"Main", [1, 2], true⟩], true⟩ := rfl
  exact ⟨made, kept, answer.trans made, store.trans kept⟩

end Fragment
