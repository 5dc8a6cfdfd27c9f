import Fragment.Proofs.Privacy
/-!
What a run has made of the octets that are taken for its output. All that is in a memory file was put
there in the run, and so was what lies under a name that is confined to its private directory. Any other
name can lead to a file that was there before: where the run makes no output, that is what is found.
-/
namespace Fragment

variable {σ : Type}

-- Octets that came to lie at the path in a run: its output, or what it put there in some other way.
inductive Made (emissions : List Emission) (before after : FileTree) (path : Path) : Octets → Prop where
  | output (content : Octets) (written : FileTree)
      (made : Scratch.outputContent emissions = some content)
      (put : after.write path content = .ok written) : Made emissions before after path content
  | placed (octets : Octets) (unwritten : Unwritten emissions after path)
      (new : before.read path ≠ .ok octets) (there : after.read path = .ok octets) :
      Made emissions before after path octets

-- Octets that lay at the path when a run began, and that it let lie.
structure Stale (emissions : List Emission) (before after : FileTree) (path : Path)
    (octets : Octets) : Prop where
  unwritten : Unwritten emissions after path
  old : before.read path = .ok octets
  there : after.read path = .ok octets

section made

variable {emissions : List Emission} {before after : FileTree} {path : Path} {octets : Octets}

theorem made_or_stale (left : LeftAt emissions after path octets) (something : octets ≠ []) :
    Made emissions before after path octets ∨ Stale emissions before after path octets := by
  cases left with
  | output _ written made put => exact .inl (.output octets written made put)
  | nothing => contradiction
  | earlier _ unwritten there =>
    by_cases old : before.read path = .ok octets
    · exact .inr ⟨unwritten, old, there⟩
    · exact .inl (.placed octets unwritten old there)

theorem made_not_stale (made : Made emissions before after path octets) :
    ¬ Stale emissions before after path octets := by
  intro stale
  cases made with
  | output written left put => exact stale.unwritten octets written left put
  | placed _ new _ => exact new stale.old

end made

section yields

variable (P : Platform σ) (toolchain : Toolchain) (mode : ScratchMode) (unit : SourceUnit)
  (w : World σ) (run : Run)

def RunsPrivately (spawned : World σ) : Prop :=
  spawn P (compilerInvocation toolchain (.privateDir (w.openDirectory P).1
      (privatePath (w.openDirectory P).1 unit.name)) (stagedInput unit)) (w.openDirectory P).2 =
    (.ok run, spawned)

inductive Yields : Octets → Prop where
  | shared (inMemory : mode.resolve P.hasMemoryFiles = .memory) :
      Yields (Scratch.sharedContent run.emissions)
  | apart (elsewhere : mode.resolve P.hasMemoryFiles ≠ .memory) (spawned : World σ)
      (ran : RunsPrivately P toolchain unit w run spawned) (octets : Octets)
      (made : Made run.emissions (w.openDirectory P).2.process.files spawned.process.files
        (privatePath (w.openDirectory P).1 unit.name) octets) : Yields octets

inductive Finds : Octets → Prop where
  | apart (elsewhere : mode.resolve P.hasMemoryFiles ≠ .memory) (spawned : World σ)
      (ran : RunsPrivately P toolchain unit w run spawned) (octets : Octets)
      (stale : Stale run.emissions (w.openDirectory P).2.process.files spawned.process.files
        (privatePath (w.openDirectory P).1 unit.name) octets) : Finds octets

variable {P toolchain mode unit w run} {w' : World σ} {captured : Octets}

theorem yields_not_finds (yields : Yields P toolchain mode unit w run captured) :
    ¬ Finds P toolchain mode unit w run captured := by
  intro finds
  cases finds with
  | apart elsewhere spawned ran _ stale =>
    cases yields with
    | shared inMemory => exact elsewhere inMemory
    | apart _ spawned' ran' _ made =>
      obtain rfl : spawned' = spawned := congrArg Prod.snd (ran'.symm.trans ran)
      exact made_not_stale made stale

theorem attempt_yields_or_finds
    (attempted : attempt P toolchain mode unit w = (.ok (run, .ok captured), w'))
    (something : captured ≠ []) :
    Yields P toolchain mode unit w run captured ∨ Finds P toolchain mode unit w run captured := by
  have produced := attempt_produced P toolchain mode unit w w' run captured attempted
  by_cases inMemory : mode.resolve P.hasMemoryFiles = .memory
  · rw [produced.memory inMemory]
    exact .inl (.shared inMemory)
  · obtain ⟨directory, path, created, spawned, made, ran, left⟩ := produced.privateDir inMemory
    obtain ⟨target, rfl⟩ := OutputTarget.created_private P mode unit.name _ w created inMemory made
    obtain ⟨rfl, rfl⟩ := OutputTarget.privateDir.inj target
    exact (made_or_stale left something).imp (.apart inMemory spawned ran captured)
      (.apart inMemory spawned ran captured)

theorem attempt_yields_iff
    (attempted : attempt P toolchain mode unit w = (.ok (run, .ok captured), w'))
    (something : captured ≠ []) :
    Yields P toolchain mode unit w run captured ↔ ¬ Finds P toolchain mode unit w run captured :=
  ⟨yields_not_finds, (attempt_yields_or_finds attempted something).resolve_right⟩

theorem finds_captured (granted : P.Grants) (finds : Finds P toolchain mode unit w run captured) :
    ∃ spawned, RunsPrivately P toolchain unit w run spawned ∧
      attempt P toolchain mode unit w =
        (.ok (run, .ok captured), spawned.removeDirectory (w.openDirectory P).1) := by
  cases finds with
  | apart elsewhere spawned ran _ stale =>
    let target := OutputTarget.privateDir (w.openDirectory P).1
      (privatePath (w.openDirectory P).1 unit.name)
    have fits := Scratch.check_elsewhere mode P.hasMemoryFiles unit.fileName elsewhere
    have made := OutputTarget.create_private P mode unit.name w elsewhere (granted _ _)
    have received : target.receive run.emissions spawned = (target, spawned) :=
      receive_unwritten _ _ run.emissions spawned stale.unwritten
    refine ⟨spawned, ran, ?_⟩
    rw [RunsPrivately] at ran
    rw [attempt_granted P toolchain mode unit w _ target granted fits made, ran]
    dsimp only
    rw [received, OutputTarget.drain, stale.there]
    rfl

theorem confined_not_finds (free : w.ScratchFree P) (confined : IsConfined unit.name) :
    ¬ Finds P toolchain mode unit w run captured := by
  intro finds
  cases finds with
  | apart _ spawned _ _ stale => exact confined_unread free unit.name confined captured stale.old

theorem memory_not_finds (inMemory : mode.resolve P.hasMemoryFiles = .memory) :
    ¬ Finds P toolchain mode unit w run captured := by
  intro finds
  cases finds with
  | apart elsewhere => exact elsewhere inMemory

end yields

end Fragment
