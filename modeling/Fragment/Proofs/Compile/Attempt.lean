import Fragment.Compile
import Fragment.Proofs.Files.ReadBack
import Fragment.Proofs.Ledger
import Fragment.Proofs.Store
/-!
Compiling in two parts: the attempt, which runs the toolchain and drains its output target, and the
settlement, which judges the run. The attempt never looks at the store, and the settlement never
looks at the world.
-/
namespace Fragment

variable {σ : Type}

def Platform.steady (run : Run) (status : Int) : Platform Unit where
  spawn _ process := (.ok run, process)
  load _ _ process := (.ok 0, process)
  symbol _ _ _ := .ok ()
  call _ _ _ _ process := (status, process)
  unload _ process := process
  hasMemoryFiles := true
  refusal _ _ := none
  freshDescriptor used := used.foldl max 2 + 1
  freshDirectory _ := Path.ofString "memrun-0"

-- A run that leaves one octet in its output and has nothing to say.
def Run.quiet : Run := ⟨[.create, .write [1]], [], .exited 0⟩

def World.blank : World Unit := .start ⟨.empty, .empty, [], none, ()⟩

-- The run of the toolchain on a unit, and what could be drained from its output target.
def attempt (P : Platform σ) (toolchain : Toolchain) (mode : ScratchMode) (unit : SourceUnit)
    (w : World σ) : Except ToolchainFault (Run × Except OsFault Octets) × World σ :=
  match w.stage P mode unit.fileName (stagedInput unit) with
  | .error cause => (.error (.scratch unit.fileName cause), w)
  | .ok input => match OutputTarget.create P mode (UnitKind.output.fileName unit.name) w with
    | (.error cause, w) => (.error (.scratch unit.fileName cause), w)
    | (.ok target, w) => match target.share P w with
      | .error cause => (.error (.scratch unit.fileName cause), target.discard w)
      | .ok _ => match spawn P (compilerInvocation toolchain target input) w with
        | (.error cause, w) => (.error (.spawn toolchain.program cause), target.discard w)
        | (.ok run, w) =>
          let (target, w) := target.receive run.emissions w
          (.ok (run, target.collect P w), target.discard w)

theorem attempt_granted (P : Platform σ) (toolchain : Toolchain) (mode : ScratchMode)
    (unit : SourceUnit) (w created : World σ) (target : OutputTarget) (granted : P.Grants)
    (fits : Scratch.checkFor (mode.resolve P.hasMemoryFiles) unit.fileName = .ok ())
    (made : OutputTarget.create P mode (UnitKind.output.fileName unit.name) w =
      (.ok target, created)) :
    attempt P toolchain mode unit w =
      match spawn P (compilerInvocation toolchain target (stagedInput unit)) created with
      | (.error cause, w) => (.error (.spawn toolchain.program cause), target.discard w)
      | (.ok run, w) =>
        (.ok (run, (target.receive run.emissions w).1.drain (target.receive run.emissions w).2),
          (target.receive run.emissions w).1.discard (target.receive run.emissions w).2) := by
  rw [attempt, World.stage_granted granted mode _ _ fits, made]
  dsimp only
  rw [OutputTarget.share_granted granted]
  simp only [OutputTarget.collect_granted granted]

theorem compile_attempt (P : Platform σ) (toolchain : Toolchain) (mode : ScratchMode)
    (unit : SourceUnit) (store : Store) (w : World σ) :
    compile P toolchain mode unit store w =
      match attempt P toolchain mode unit w with
      | (.error fault, w') => (.error fault, store, w')
      | (.ok (run, drained), w') =>
        ((settle unit run drained store).1, (settle unit run drained store).2, w') := by
  unfold compile attempt
  cases w.stage P mode unit.fileName (stagedInput unit) with
  | error cause => rfl
  | ok input =>
    dsimp only
    rcases OutputTarget.create P mode (UnitKind.output.fileName unit.name) w with
      ⟨cause | target, created⟩
    · rfl
    · dsimp only
      cases target.share P created with
      | error cause => rfl
      | ok _ =>
        dsimp only
        rcases spawn P (compilerInvocation toolchain target input) created with
          ⟨cause | run, spawned⟩
        · rfl
        · rfl

theorem spawn_refused (P : Platform σ) (invocation : Invocation) (w w' : World σ) (cause : OsFault)
    (refused : spawn P invocation w = (.error cause, w')) : w'.ledger = w.ledger := by
  unfold spawn at refused
  split at refused
  · simp only [Prod.mk.injEq] at refused
    rw [← refused.2]
  · rcases answer : P.spawn invocation w.process with ⟨cause' | run, process⟩
    · simp only [answer, Prod.mk.injEq] at refused
      rw [← refused.2]
      rfl
    · simp [answer] at refused

theorem spawn_ran (P : Platform σ) (invocation : Invocation) (w w' : World σ) (run : Run)
    (ran : spawn P invocation w = (.ok run, w')) :
    P.spawn invocation w.process = (.ok run, w'.process) ∧
      w'.ledger = w.ledger.record (.spawned invocation run) := by
  unfold spawn at ran
  split at ran
  · simp at ran
  · rcases answer : P.spawn invocation w.process with ⟨cause | run', process⟩
    · simp [answer] at ran
    · simp only [answer, Prod.mk.injEq, Except.ok.injEq] at ran
      obtain ⟨rfl, rfl⟩ := ran
      exact ⟨rfl, rfl⟩

theorem attempt_refused (P : Platform σ) (toolchain : Toolchain) (mode : ScratchMode)
    (unit : SourceUnit) (w w' : World σ) (fault : ToolchainFault)
    (refused : attempt P toolchain mode unit w = (.error fault, w')) :
    w'.ledger = w.ledger ∧
      ∃ cause, fault = .scratch unit.fileName cause ∨ fault = .spawn toolchain.program cause := by
  unfold attempt at refused
  cases staged : w.stage P mode unit.fileName (stagedInput unit) with
  | error cause =>
    simp only [staged, Prod.mk.injEq, Except.error.injEq] at refused
    exact ⟨by rw [← refused.2], cause, .inl refused.1.symm⟩
  | ok input =>
    rcases made : OutputTarget.create P mode (UnitKind.output.fileName unit.name) w with
      ⟨cause | target, created⟩
    all_goals
      have kept := OutputTarget.ledger_create P mode (UnitKind.output.fileName unit.name) w
      rw [made] at kept
    · simp only [staged, made, Prod.mk.injEq, Except.error.injEq] at refused
      exact ⟨by rw [← refused.2, ← kept], cause, .inl refused.1.symm⟩
    · cases shared : target.share P created with
      | error cause =>
        simp only [staged, made, shared, Prod.mk.injEq, Except.error.injEq] at refused
        exact ⟨by rw [← refused.2, OutputTarget.ledger_discard, ← kept], cause, .inl refused.1.symm⟩
      | ok _ =>
        rcases ran : spawn P (compilerInvocation toolchain target input) created with
          ⟨cause | run, spawned⟩
        · simp only [staged, made, shared, ran, Prod.mk.injEq, Except.error.injEq] at refused
          refine ⟨?_, cause, .inr refused.1.symm⟩
          rw [← refused.2, OutputTarget.ledger_discard, spawn_refused P _ _ _ _ ran, ← kept]
        · simp [staged, made, shared, ran] at refused

theorem attempt_ran (P : Platform σ) (toolchain : Toolchain) (mode : ScratchMode)
    (unit : SourceUnit) (w w' : World σ) (run : Run) (drained : Except OsFault Octets)
    (ran : attempt P toolchain mode unit w = (.ok (run, drained), w')) :
    ∃ target created spawned,
      OutputTarget.create P mode (UnitKind.output.fileName unit.name) w = (.ok target, created) ∧
      spawn P (compilerInvocation toolchain target (stagedInput unit)) created =
        (.ok run, spawned) ∧
      drained = (target.receive run.emissions spawned).1.collect P
        (target.receive run.emissions spawned).2 ∧
      w' = (target.receive run.emissions spawned).1.discard
        (target.receive run.emissions spawned).2 := by
  unfold attempt at ran
  cases staged : w.stage P mode unit.fileName (stagedInput unit) with
  | error cause => simp [staged] at ran
  | ok input =>
    obtain rfl := World.stage_verbatim P mode _ _ input w staged
    rcases made : OutputTarget.create P mode (UnitKind.output.fileName unit.name) w with
      ⟨cause | target, created⟩
    · simp [staged, made] at ran
    · cases shared : target.share P created with
      | error cause => simp [staged, made, shared] at ran
      | ok _ =>
        rcases answer : spawn P (compilerInvocation toolchain target (stagedInput unit)) created with
          ⟨cause | run', spawned⟩
        · simp [staged, made, shared, answer] at ran
        · simp only [staged, made, shared, answer, Prod.mk.injEq, Except.ok.injEq] at ran
          obtain ⟨⟨rfl, rfl⟩, rfl⟩ := ran
          exact ⟨target, created, spawned, rfl, answer, rfl, rfl⟩

theorem attempt_recorded (P : Platform σ) (toolchain : Toolchain) (mode : ScratchMode)
    (unit : SourceUnit) (w w' : World σ) (run : Run) (drained : Except OsFault Octets)
    (ran : attempt P toolchain mode unit w = (.ok (run, drained), w')) :
    ∃ target, w'.ledger =
      w.ledger.record (.spawned (compilerInvocation toolchain target (stagedInput unit)) run) := by
  obtain ⟨target, created, spawned, made, answer, -, rfl⟩ :=
    attempt_ran P toolchain mode unit w w' run drained ran
  have kept := OutputTarget.ledger_create P mode (UnitKind.output.fileName unit.name) w
  rw [made] at kept
  refine ⟨target, ?_⟩
  rw [OutputTarget.ledger_discard, OutputTarget.ledger_receive, (spawn_ran P _ _ _ _ answer).2,
    ← kept]

theorem compile_runs (P : Platform σ) (toolchain : Toolchain) (mode : ScratchMode)
    (unit : SourceUnit) (store : Store) (w : World σ) :
    ∃ runs : List Event, (compile P toolchain mode unit store w).2.2.events = w.events ++ runs ∧
      ∀ event ∈ runs, ∃ target run,
        event = .spawned (compilerInvocation toolchain target (stagedInput unit)) run := by
  rw [compile_attempt]
  rcases attempted : attempt P toolchain mode unit w with ⟨fault | ⟨run, captured⟩, w'⟩
  · have kept := (attempt_refused P toolchain mode unit w w' fault attempted).1
    exact ⟨[], (congrArg Ledger.events kept).trans (List.append_nil _).symm, by simp⟩
  · obtain ⟨target, kept⟩ := attempt_recorded P toolchain mode unit w w' run captured attempted
    refine ⟨[_], congrArg Ledger.events kept, ?_⟩
    intro event member
    exact ⟨target, run, List.mem_singleton.mp member⟩

theorem compile_reads (P : Platform σ) (toolchain : Toolchain) (mode : ScratchMode)
    (unit : SourceUnit) (store : Store) (w : World σ) :
    ∃ runs : List Event, (compile P toolchain mode unit store w).2.2.events = w.events ++ runs ∧
      ∀ event ∈ runs, ∃ invocation run, event = .spawned invocation run ∧
        invocation.input = stagedInput unit := by
  obtain ⟨runs, recorded, only⟩ := compile_runs P toolchain mode unit store w
  refine ⟨runs, recorded, fun event member => ?_⟩
  obtain ⟨target, run, same⟩ := only event member
  exact ⟨_, run, same, rfl⟩

-- A run left no output at the path: it made none, or could not write it there.
def Unwritten (emissions : List Emission) (files : FileTree) (path : Path) : Prop :=
  ∀ content written, Scratch.outputContent emissions = some content →
    files.write path content ≠ .ok written

-- What lies at a path when a run is over that found these files: its output, or what was there.
inductive LeftAt (emissions : List Emission) (files : FileTree) (path : Path) : Octets → Prop where
  | output (content : Octets) (written : FileTree)
      (made : Scratch.outputContent emissions = some content)
      (put : files.write path content = .ok written) : LeftAt emissions files path content
  | earlier (octets : Octets) (unwritten : Unwritten emissions files path)
      (there : files.read path = .ok octets) : LeftAt emissions files path octets
  | nothing (unwritten : Unwritten emissions files path)
      (absent : files.read path = .error .noSuchFile) : LeftAt emissions files path []

-- The octets are what a run on the unit left in the output target that was made for it.
structure Produced (P : Platform σ) (toolchain : Toolchain) (mode : ScratchMode)
    (unit : SourceUnit) (w : World σ) (run : Run) (captured : Octets) : Prop where
  memory : mode.resolve P.hasMemoryFiles = .memory →
    captured = Scratch.sharedContent run.emissions
  privateDir : mode.resolve P.hasMemoryFiles ≠ .memory → ∃ directory path created spawned,
    OutputTarget.create P mode (UnitKind.output.fileName unit.name) w =
      (.ok (.privateDir directory path), created) ∧
    spawn P (compilerInvocation toolchain (.privateDir directory path) (stagedInput unit)) created =
      (.ok run, spawned) ∧
    LeftAt run.emissions spawned.process.files path captured

theorem drain_written (directory : Location) (path : Path) (emissions : List Emission)
    (spawned : World σ) (content : Octets) (written : FileTree)
    (left : Scratch.outputContent emissions = some content)
    (put : spawned.process.files.write path content = .ok written) :
    ((OutputTarget.privateDir directory path).receive emissions spawned).1.drain
      ((OutputTarget.privateDir directory path).receive emissions spawned).2 = .ok content := by
  have back : written.read path = .ok content :=
    FileTree.read_write spawned.process.files written path content put
  obtain ⟨same, ⟨-, unwritten⟩ | ⟨content', written', left', put', stored⟩⟩ :=
    OutputTarget.receive_private directory path emissions spawned
  · exact absurd put (unwritten content written left)
  · obtain rfl := Option.some.inj (left.symm.trans left')
    obtain rfl := Except.ok.inj (put.symm.trans put')
    rw [same, stored]
    simp only [OutputTarget.drain, World.setFiles, back]

theorem receive_unwritten (directory : Location) (path : Path) (emissions : List Emission)
    (spawned : World σ) (unwritten : Unwritten emissions spawned.process.files path) :
    (OutputTarget.privateDir directory path).receive emissions spawned =
      (.privateDir directory path, spawned) := by
  obtain ⟨same, ⟨unchanged, -⟩ | ⟨content, written, left, put, -⟩⟩ :=
    OutputTarget.receive_private directory path emissions spawned
  · exact Prod.ext same unchanged
  · exact absurd put (unwritten content written left)

theorem drain_left (directory : Location) (path : Path) (emissions : List Emission)
    (spawned : World σ) (captured : Octets)
    (drained : ((OutputTarget.privateDir directory path).receive emissions spawned).1.drain
      ((OutputTarget.privateDir directory path).receive emissions spawned).2 = .ok captured) :
    LeftAt emissions spawned.process.files path captured := by
  obtain ⟨-, ⟨-, unwritten⟩ | ⟨content, written, left, put, -⟩⟩ :=
    OutputTarget.receive_private directory path emissions spawned
  · rw [receive_unwritten directory path emissions spawned unwritten, OutputTarget.drain] at drained
    cases there : spawned.process.files.read path with
    | ok octets =>
      rw [there] at drained
      obtain rfl := Except.ok.inj drained
      exact .earlier octets unwritten there
    | error cause =>
      rw [there] at drained
      by_cases absent : cause = .noSuchFile
      · obtain rfl : [] = captured := by simpa [absent] using drained
        exact .nothing unwritten (absent ▸ there)
      · simp [absent] at drained
  · rw [drain_written directory path emissions spawned content written left put] at drained
    obtain rfl := Except.ok.inj drained
    exact .output content written left put

theorem OutputTarget.collect_drained (P : Platform σ) (target : OutputTarget) (w : World σ)
    (octets : Octets) (collected : target.collect P w = .ok octets) : target.drain w = .ok octets := by
  obtain ⟨-, -, drained⟩ := except_bind_ok collected
  exact drained

theorem attempt_produced (P : Platform σ) (toolchain : Toolchain) (mode : ScratchMode)
    (unit : SourceUnit) (w w' : World σ) (run : Run) (captured : Octets)
    (ran : attempt P toolchain mode unit w = (.ok (run, .ok captured), w')) :
    Produced P toolchain mode unit w run captured := by
  obtain ⟨target, created, spawned, made, answer, collected, -⟩ :=
    attempt_ran P toolchain mode unit w w' run (.ok captured) ran
  have drained := OutputTarget.collect_drained P _ _ captured collected.symm
  have opened := OutputTarget.create_created P mode (UnitKind.output.fileName unit.name) w
  rw [made] at opened
  cases opened with
  | memory inMemory => exact ⟨fun _ => (Except.ok.inj drained).symm, fun other => absurd inMemory other⟩
  | privateDir elsewhere =>
    exact ⟨fun same => absurd same elsewhere,
      fun _ => ⟨_, _, _, spawned, made, answer, drain_left _ _ run.emissions spawned captured drained⟩⟩

end Fragment
