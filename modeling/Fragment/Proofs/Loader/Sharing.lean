import Fragment.Proofs.Compile.Attempt
import Fragment.Proofs.Loader.Housing
/-!
Libraries that are asked for twice. The dynamic loader gives the same library for a path again, and
whenever a path names the file of a library that it has loaded. So a unit that has just been defined has
its library in common with one that was loaded before exactly if its path is one of those.
-/
namespace Fragment

variable {σ : Type}

-- What is known of the dynamic loader: the libraries that it has loaded, and the paths that it takes for
-- one of them. For any other path it loads a new one. Programs that are run have a loader of their own.
structure Sharing (P : Platform σ) where
  loaded : σ → List Library
  known : Path → Process σ → Option Library
  again : ∀ path content (process : Process σ) library, known path process = some library →
    (P.load path content process).1 = .ok library
  anew : ∀ path content (process : Process σ) library, known path process = none →
    (P.load path content process).1 = .ok library → library ∉ loaded process.code
  spawning : ∀ invocation (process : Process σ),
    loaded (P.spawn invocation process).2.code = loaded process.code

theorem OutputTarget.create_code (P : Platform σ) (mode : ScratchMode) (label : String)
    (w : World σ) : (create P mode label w).2.process.code = w.process.code := by
  have created := create_created P mode label w
  generalize (create P mode label w).1 = made, (create P mode label w).2 = w' at created ⊢
  cases created with
  | refused | memory | privateDir => rfl

theorem OutputTarget.receive_code (target : OutputTarget) (emissions : List Emission)
    (w : World σ) : (target.receive emissions w).2.process.code = w.process.code := by
  cases target with
  | memory => rfl
  | privateDir directory path =>
    obtain ⟨-, ⟨same, -⟩ | ⟨content, written, -, -, same⟩⟩ :=
      receive_private directory path emissions w
    · rw [same]
    · rw [same]
      rfl

theorem OutputTarget.discard_code (target : OutputTarget) (w : World σ) :
    (target.discard w).process.code = w.process.code := by
  cases target with
  | memory | privateDir => rfl

theorem Backing.create_code (P : Platform σ) (mode : ScratchMode) (unit : String)
    (octets : Octets) (w : World σ) :
    (create P mode unit octets w).2.process.code = w.process.code := by
  have created := create_created P mode unit octets w
  generalize (create P mode unit octets w).1 = made, (create P mode unit octets w).2 = w' at created ⊢
  cases created with
  | refused | unfilled | memory | unwritten | written => rfl

section sharing

variable {P : Platform σ} (S : Sharing P)
include S

theorem load_shared (path : Path) (content : Option Octets) (process : Process σ)
    (library other : Library) (answer : (P.load path content process).1 = .ok library)
    (before : other ∈ S.loaded process.code) :
    library = other ↔ S.known path process = some other := by
  cases held : S.known path process with
  | none =>
    have new := S.anew path content process library held answer
    refine ⟨?_, nofun⟩
    rintro rfl
    exact absurd before new
  | some found =>
    have same : found = library :=
      Except.ok.inj ((S.again path content process found held).symm.trans answer)
    rw [same, Option.some.injEq]

theorem attempt_loaded (toolchain : Toolchain) (mode : ScratchMode) (unit : SourceUnit)
    (w w' : World σ) (run : Run) (captured : Except OsFault Octets)
    (attempted : attempt P toolchain mode unit w = (.ok (run, captured), w')) :
    S.loaded w'.process.code = S.loaded w.process.code := by
  obtain ⟨target, created, spawned, made, ran, -, rfl⟩ :=
    attempt_ran P toolchain mode unit w w' run captured attempted
  have opened := OutputTarget.create_code P mode (UnitKind.output.fileName unit.name) w
  rw [made] at opened
  have kept := S.spawning (compilerInvocation toolchain target (stagedInput unit)) created.process
  rw [(spawn_ran P _ created spawned run ran).1] at kept
  rw [OutputTarget.discard_code, OutputTarget.receive_code, kept, opened]

theorem define_shared (mode : ScratchMode) (name : String) (octets : Octets) (w : World σ)
    (unit : LoadedUnit) (defined : DefinedFrom P mode name octets w unit) :
    ∃ backing staged, Backing.create P mode name octets w = (.ok backing, staged) ∧
      unit.backing = some backing ∧ ∀ library ∈ S.loaded w.process.code,
        (unit.library = library ↔ S.known backing.path staged.process = some library) := by
  obtain ⟨backing, staged, created, -, answer, backed⟩ := defined.loaded
  have kept := Backing.create_code P mode name octets w
  rw [created] at kept
  refine ⟨backing, staged, created, backed, fun library before => ?_⟩
  exact load_shared S backing.path _ staged.process unit.library library answer (kept ▸ before)

end sharing

-- A loader that knows libraries by the paths that they were loaded from.
def Platform.sharing : Platform (List (Path × Library)) where
  spawn _ process := (.ok .quiet, process)
  load path _ process := match process.code.lookup path with
    | some library => (.ok library, process)
    | none =>
      let library := (process.code.map (·.2)).foldl max 0 + 1
      (.ok library, { process with code := (path, library) :: process.code })
  symbol _ _ _ := .ok ()
  call _ _ _ _ process := (0, process)
  unload _ process := process
  hasMemoryFiles := true
  refusal _ _ := none
  freshDescriptor used := used.foldl max 2 + 1
  freshDirectory _ := Path.ofString "memrun-0"

def pathSharing : Sharing .sharing where
  loaded code := code.map (·.2)
  known path process := process.code.lookup path
  again path content process library held := by
    simp only [Platform.sharing, held]
  anew path content process library held answer member := by
    simp only [Platform.sharing, held, Except.ok.injEq] at answer
    have bound := (le_greatest (process.code.map (·.2)) 0).2 library member
    rw [← answer] at bound
    exact absurd bound (Nat.not_succ_le_self _)
  spawning invocation process := rfl

end Fragment
