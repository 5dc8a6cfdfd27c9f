import Fragment.Proofs.Compile.Settlement
import Fragment.Proofs.Compile.Modes
/-!
What a compilation takes for its artifact. From a private directory that is what the run wrote to its
output file, or what lay there before. From a memory file it is what the run left there in all, and
what it printed since it made its output is a part of that.
-/
namespace Fragment

variable {σ : Type}

-- A compilation takes the octets for its artifact: it stores them under the name of the unit and leaves
-- the other names alone. If there are none, it fails, and stores nothing.
def Takes (unit : SourceUnit) (run : Run) (before : Store) (octets : Octets)
    (told : Except ToolchainFault Compilation × Store) : Prop :=
  if octets = [] then
    told = (.ok ⟨false, reported run ++ [.ofMessage "toolchain produced no output"]⟩, before.sealUp)
  else told.1 = .ok ⟨true, reported run⟩ ∧ told.2.octets? unit.name = some octets ∧
    ∀ name, name ≠ unit.name → told.2.artifact? name = before.artifact? name

theorem takes_same (unit : SourceUnit) (run : Run) (before : Store) (a b : Octets)
    (told : Except ToolchainFault Compilation × Store) (taken : Takes unit run before a told)
    (taken' : Takes unit run before b told) : a = b := by
  unfold Takes at taken taken'
  split at taken <;> split at taken'
  · simp_all
  · rw [taken] at taken'
    simp at taken'
  · rw [taken'] at taken
    simp at taken
  · exact Option.some.inj (taken.2.1.symm.trans taken'.2.1)

theorem settle_takes (unit : SourceUnit) (run : Run) (octets : Octets) (before : Store)
    (good : run.ending = .exited 0) (clean : Clean (reported run)) (unsealed : before.isSealed = false) :
    Takes unit run before octets (settle unit run (.ok octets) before) := by
  have settled := settle_settled unit run (.ok octets) before
  generalize settle unit run (.ok octets) before = told at settled
  obtain ⟨answer, after⟩ := told
  dsimp only at settled
  cases settled with
  | rejected unclean => contradiction
  | broken _ bad => contradiction
  | undrained _ _ cause stuck => contradiction
  | silent _ _ nothing =>
    obtain rfl := Except.ok.inj nothing
    exact rfl
  | late _ _ octets' something captured shut => rw [unsealed] at shut; contradiction
  | stored _ _ octets' something captured after written =>
    obtain rfl := Except.ok.inj captured
    obtain ⟨found, others, -⟩ := Store.artifact_write before after unit.name [octets] true written
    have kept := Store.octets_of_artifact after _ _ (by simpa using found)
    exact (if_neg something).mpr ⟨rfl, kept, others⟩

theorem settle_stuck (unit : SourceUnit) (run : Run) (cause : OsFault) (before : Store)
    (good : run.ending = .exited 0) (clean : Clean (reported run)) :
    settle unit run (.error cause) before = (.error (.scratch unit.fileName cause), before) := by
  have settled := settle_settled unit run (.error cause) before
  generalize settle unit run (.error cause) before = told at settled
  obtain ⟨answer, after⟩ := told
  dsimp only at settled
  cases settled with
  | rejected unclean => contradiction
  | broken _ bad => contradiction
  | undrained _ _ cause' stuck =>
    obtain rfl := Except.error.inj stuck
    rfl
  | silent _ _ nothing => contradiction
  | late _ _ _ _ captured _ => contradiction
  | stored _ _ _ _ captured _ _ => contradiction

def compileTold (P : Platform σ) (toolchain : Toolchain) (mode : ScratchMode) (unit : SourceUnit)
    (before : Store) (w : World σ) : Except ToolchainFault Compilation × Store :=
  ((compile P toolchain mode unit before w).1, (compile P toolchain mode unit before w).2.1)

theorem told_settled (P : Platform σ) (toolchain : Toolchain) (mode : ScratchMode)
    (unit : SourceUnit) (before : Store) (w w' : World σ) (run : Run)
    (captured : Except OsFault Octets)
    (attempted : attempt P toolchain mode unit w = (.ok (run, captured), w')) :
    compileTold P toolchain mode unit before w = settle unit run captured before := by
  rw [compileTold, compile_attempt, attempted]

-- What is taken from a memory file: the output of the run and over it what it printed since it made
-- that, so the output alone only if what was printed is nothing or within it.
structure TakenFromMemory (unit : SourceUnit) (run : Run) (before : Store)
    (told : Except ToolchainFault Compilation × Store) (content output printed late : Octets) :
    Prop where
  whole : Takes unit run before content told
  overprinted : Scratch.Overprinted content (printed.length - late.length) output late
  exact_iff : Takes unit run before output told ↔ content = output
  quiet : late = [] → Takes unit run before output told
  within : Takes unit run before output told → late = [] ∨ printed.length ≤ output.length
  unmade : Scratch.outputContent run.emissions = none → Takes unit run before printed told

theorem taken_from_memory (unit : SourceUnit) (run : Run) (before : Store)
    (told : Except ToolchainFault Compilation × Store)
    (taken : Takes unit run before (Scratch.sharedContent run.emissions) told) :
    TakenFromMemory unit run before told (Scratch.sharedContent run.emissions)
      ((Scratch.outputContent run.emissions).getD []) (Scratch.printed run.emissions)
      (Scratch.printed (Scratch.sinceMade run.emissions)) := by
  have overprinted := Scratch.shared_overprinted run.emissions
  have only := fun taken' => takes_same unit run before _
    ((Scratch.outputContent run.emissions).getD []) told taken taken'
  refine ⟨taken, overprinted, ⟨only, fun same => same ▸ taken⟩, ?_, ?_, ?_⟩
  · intro quiet
    rwa [overprinted.quiet quiet] at taken
  · intro taken'
    refine (Scratch.overprinted_within _ _ _ _ overprinted (only taken')).imp_right ?_
    omega
  · intro unmade
    rwa [Scratch.unmade_shared _ (Scratch.unmade_never _ unmade)] at taken

-- What is taken from a private directory: the output of the run, whatever it printed, or else what lies
-- at the path, if there is something.
structure TakenFromDirectory (unit : SourceUnit) (run : Run) (before : Store)
    (told : Except ToolchainFault Compilation × Store) (files : FileTree) (path : Path) : Prop where
  written : ∀ content after, Scratch.outputContent run.emissions = some content →
    files.write path content = .ok after → Takes unit run before content told
  unwritten : (∀ content after, Scratch.outputContent run.emissions = some content →
      files.write path content ≠ .ok after) →
    (∀ held, files.read path = .ok held → Takes unit run before held told) ∧
    (files.read path = .error .noSuchFile → Takes unit run before [] told) ∧
    ∀ cause, files.read path = .error cause → cause ≠ .noSuchFile →
      told = (.error (.scratch unit.fileName cause), before)

-- What lies in the target is taken from it, unless the system refuses to read it.
def Collected (P : Platform σ) (unit : SourceUnit) (before : Store) (filled : World σ)
    (told : Except ToolchainFault Compilation × Store) (taken : Prop) : Prop :=
  match P.refusal .readOutput filled.process with
  | some cause => told = (.error (.scratch unit.fileName cause), before)
  | none => taken

section taken

variable {P : Platform σ} {toolchain : Toolchain} {mode : ScratchMode} {unit : SourceUnit}
  {before : Store} {w w' : World σ} {run : Run} {captured : Except OsFault Octets}

theorem memory_captured (attempted : attempt P toolchain mode unit w = (.ok (run, captured), w'))
    (inMemory : mode.resolve P.hasMemoryFiles = .memory) :
    let target := OutputTarget.memory (w.openDescriptor P).1 []
    ∃ spawned, spawn P (compilerInvocation toolchain target (stagedInput unit))
        (w.openDescriptor P).2 = (.ok run, spawned) ∧
      captured = (target.receive run.emissions spawned).1.collect P
        (target.receive run.emissions spawned).2 := by
  obtain ⟨target, created, spawned, made, ran, collected, -⟩ :=
    attempt_ran P toolchain mode unit w w' run captured attempted
  obtain ⟨rfl, rfl⟩ := OutputTarget.created_memory P mode _ target w created inMemory made
  exact ⟨spawned, ran, collected⟩

theorem private_captured (attempted : attempt P toolchain mode unit w = (.ok (run, captured), w'))
    (elsewhere : mode.resolve P.hasMemoryFiles ≠ .memory) :
    let target := OutputTarget.privateDir (w.openDirectory P).1
      (privatePath (w.openDirectory P).1 unit.name)
    ∃ spawned, spawn P (compilerInvocation toolchain target (stagedInput unit))
        (w.openDirectory P).2 = (.ok run, spawned) ∧
      captured = (target.receive run.emissions spawned).1.collect P
        (target.receive run.emissions spawned).2 := by
  obtain ⟨target, created, spawned, made, ran, collected, -⟩ :=
    attempt_ran P toolchain mode unit w w' run captured attempted
  obtain ⟨rfl, rfl⟩ :=
    OutputTarget.created_private P mode unit.name target w created elsewhere made
  exact ⟨spawned, ran, collected⟩

theorem settle_collected (target : OutputTarget) (filled : World σ) (good : run.ending = .exited 0)
    (clean : Clean (reported run)) (taken : Prop)
    (drained : target.collect P filled = target.drain filled → taken) :
    Collected P unit before filled (settle unit run (target.collect P filled) before) taken := by
  unfold Collected
  cases refusal : P.refusal .readOutput filled.process with
  | some cause =>
    have stuck : target.collect P filled = .error cause := by
      rw [OutputTarget.collect, World.ask_refused P .readOutput filled cause refusal]
      rfl
    rw [stuck]
    exact settle_stuck unit run cause before good clean
  | none =>
    refine drained ?_
    rw [OutputTarget.collect, World.ask_granted P .readOutput filled refusal]
    rfl

theorem taken_from_directory (directory : Location) (path : Path) (spawned : World σ)
    (good : run.ending = .exited 0) (clean : Clean (reported run))
    (unsealed : before.isSealed = false) :
    let target := OutputTarget.privateDir directory path
    let filled := target.receive run.emissions spawned
    TakenFromDirectory unit run before (settle unit run (filled.1.drain filled.2) before)
      spawned.process.files path := by
  intro target filled
  constructor
  · intro content after left put
    rw [drain_written directory path run.emissions spawned content after left put]
    exact settle_takes unit run content before good clean unsealed
  · intro unwritten
    have received : filled = (target, spawned) :=
      receive_unwritten directory path run.emissions spawned unwritten
    rw [received]
    refine ⟨fun held found => ?_, fun absent => ?_, fun cause failed other => ?_⟩
    · simp only [target, OutputTarget.drain, found]
      exact settle_takes unit run held before good clean unsealed
    · simp only [target, OutputTarget.drain, absent, if_true]
      exact settle_takes unit run [] before good clean unsealed
    · simp only [target, OutputTarget.drain, failed, if_neg other]
      exact settle_stuck unit run cause before good clean

theorem plain_output_taken (free : w.ScratchFree P) (named : IsScratchName unit.name)
    (spawned : World σ) (good : run.ending = .exited 0) (clean : Clean (reported run))
    (unsealed : before.isSealed = false)
    (kept : ∀ above, above <+: (w.openDirectory P).1 ++
        [Path.ofString (UnitKind.output.fileName unit.name)] →
      FileTree.entry? spawned.process.files above =
        FileTree.entry? (w.openDirectory P).2.process.files above) :
    let target := OutputTarget.privateDir (w.openDirectory P).1
      (privatePath (w.openDirectory P).1 unit.name)
    let filled := target.receive run.emissions spawned
    Takes unit run before ((Scratch.outputContent run.emissions).getD [])
      (settle unit run (filled.1.drain filled.2) before) := by
  intro target filled
  have file := label_file_name unit.name named
  have vacant := output_vacant free file spawned.process.files kept
  have plain := Scratch.location_last (w.openDirectory P).1 _ file.something file.slashless
  rw [← output_joined free file] at vacant plain
  have drained : filled.1.drain filled.2 = .ok ((Scratch.outputContent run.emissions).getD []) :=
    drain_vacant _ _ _ run.emissions spawned plain vacant
  rw [drained]
  exact settle_takes unit run _ before good clean unsealed

end taken

theorem compile_takes_output (P : Platform σ) (toolchain : Toolchain) (mode : ScratchMode)
    (unit : SourceUnit) (before : Store) (w w' : World σ) (run : Run)
    (captured : Except OsFault Octets)
    (attempted : attempt P toolchain mode unit w = (.ok (run, captured), w'))
    (good : run.ending = .exited 0) (clean : Clean (reported run))
    (unsealed : before.isSealed = false) :
    let told := compileTold P toolchain mode unit before w
    let output := (Scratch.outputContent run.emissions).getD []
    let directory := (w.openDirectory P).1
    let path := privatePath directory unit.name
    (mode.resolve P.hasMemoryFiles = .memory → ∃ spawned,
      let target := OutputTarget.memory (w.openDescriptor P).1 []
      spawn P (compilerInvocation toolchain target (stagedInput unit)) (w.openDescriptor P).2 =
        (.ok run, spawned) ∧
      Collected P unit before (target.receive run.emissions spawned).2 told
        (TakenFromMemory unit run before told (Scratch.sharedContent run.emissions) output
          (Scratch.printed run.emissions) (Scratch.printed (Scratch.sinceMade run.emissions)))) ∧
    (mode.resolve P.hasMemoryFiles ≠ .memory → ∃ spawned,
      let target := OutputTarget.privateDir directory path
      spawn P (compilerInvocation toolchain target (stagedInput unit)) (w.openDirectory P).2 =
        (.ok run, spawned) ∧
      Collected P unit before (target.receive run.emissions spawned).2 told
        (TakenFromDirectory unit run before told spawned.process.files path ∧
        (w.ScratchFree P → IsScratchName unit.name →
          (∀ above, above <+: directory ++ [Path.ofString (UnitKind.output.fileName unit.name)] →
            FileTree.entry? spawned.process.files above =
              FileTree.entry? (w.openDirectory P).2.process.files above) →
          Takes unit run before output told))) := by
  intro told output directory path
  have settled : told = settle unit run captured before :=
    told_settled P toolchain mode unit before w w' run captured attempted
  rw [settled]
  constructor
  · intro inMemory
    obtain ⟨spawned, ran, collected⟩ := memory_captured attempted inMemory
    rw [collected]
    refine ⟨spawned, ran, settle_collected _ _ good clean _ fun drained => ?_⟩
    rw [drained]
    exact taken_from_memory unit run before _
      (settle_takes unit run _ before good clean unsealed)
  · intro elsewhere
    obtain ⟨spawned, ran, collected⟩ := private_captured attempted elsewhere
    rw [collected]
    refine ⟨spawned, ran, settle_collected _ _ good clean _ fun drained => ?_⟩
    rw [drained]
    exact ⟨taken_from_directory directory path spawned good clean unsealed,
      fun free named kept => plain_output_taken free named spawned good clean unsealed kept⟩

-- A wrapper that says what it is about to do, and does it.
def Run.announced : Run := ⟨[.print [99, 99], .create, .write [1, 2]], [], .exited 0⟩

theorem announced_output_taken :
    (∃ w', attempt (.steady .announced 0) ⟨Path.ofString "/bin/cc", []⟩ .memory
      ⟨"Main", "int x;\n"⟩ .blank = (.ok (.announced, .ok [1, 2]), w')) ∧
      Run.announced.ending = .exited 0 ∧ Clean (reported .announced) ∧
      Store.empty.isSealed = false ∧
      Takes ⟨"Main", "int x;\n"⟩ .announced .empty [1, 2] (compileTold (.steady .announced 0)
        ⟨Path.ofString "/bin/cc", []⟩ .memory ⟨"Main", "int x;\n"⟩ .empty .blank) := by
  have clean : Clean (reported .announced) := nofun
  refine ⟨⟨_, rfl⟩, rfl, clean, rfl, ?_⟩
  have taken := compile_takes_output (.steady .announced 0) ⟨Path.ofString "/bin/cc", []⟩ .memory
    ⟨"Main", "int x;\n"⟩ .empty .blank _ .announced (.ok [1, 2]) rfl rfl clean rfl
  obtain ⟨spawned, -, collected⟩ := taken.1 rfl
  exact TakenFromMemory.quiet collected rfl

def Run.versioned : Run := ⟨[.print (Octets.ofString "13\n")], [], .exited 0⟩

theorem version_taken_for_output :
    Run.versioned.ending = .exited 0 ∧ Clean (reported .versioned) ∧
      Store.empty.isSealed = false ∧ Scratch.outputContent Run.versioned.emissions = none ∧
      let told := compileTold (.steady .versioned 0) ⟨Path.ofString "/bin/cc", ["-dumpversion"]⟩
        .memory ⟨"Main", "int x;\n"⟩ .empty .blank
      told.1 = .ok ⟨true, []⟩ ∧ told.2.octets? "Main" = some (Octets.ofString "13\n") :=
  ⟨rfl, nofun, rfl, rfl, rfl, rfl⟩

end Fragment
