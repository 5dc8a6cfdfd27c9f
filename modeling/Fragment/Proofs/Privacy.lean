import Fragment.Proofs.Compile.Modes
import Fragment.Proofs.Files.Confined
import Fragment.Proofs.Loader.Backing
/-!
Privacy of private directories. The file of a unit is right in the directory that was made for it if
the unit's name has no slash, and then it goes with the directory and no other file is touched. An
absolute name leads out of any directory, and its file stays behind.
-/
namespace Fragment

variable {σ : Type}

-- A name whose file is in whatever directory it is put: it neither starts at the root nor goes up.
structure IsConfined (name : String) : Prop where
  relative : ¬ IsAbsoluteName name
  low : Path.dotDot ∉ (Path.ofString (UnitKind.output.fileName name)).names

section scratch

variable {P : Platform σ} {w : World σ}

theorem private_path_walk (free : w.ScratchFree P) (name : String)
    (relative : ¬ IsAbsoluteName name) :
    let path := privatePath (w.openDirectory P).1 name
    path.isAbsolute = true ∧ FileTree.walkNames path =
      (w.openDirectory P).1 ++ (Path.ofString (UnitKind.output.fileName name)).names := by
  intro path
  have shape := private_path_relative _ name ⟨free.named.something, free.named.slashless⟩ relative
  have last := private_path_last (w.openDirectory P).1 name
  have names (run : Octets) (something : run ≠ []) (slashless : Path.slash ∉ run) :
      Path.names run = [run] := by
    rw [Path.names, Path.split_bare _ _ slashless]
    simpa using something
  have root : Path.names (Path.slash :: Scratch.temporary) = [Scratch.temporary] := rfl
  have plain : (some 111 == some Path.slash) = false := rfl
  refine ⟨(congrArg Path.isAbsolute shape).trans rfl, ?_⟩
  rw [FileTree.walkNames, Path.endsInSlash, last, plain,
    show path.names = Path.names _ from congrArg Path.names shape, Path.names_join, Path.names_join,
    root, names _ free.named.something free.named.slashless]
  simp [World.openDirectory]

theorem confined_parts (free : w.ScratchFree P) (name : String) (confined : IsConfined name) :
    let directory := (w.openDirectory P).1
    let path := privatePath directory name
    let files := (w.openDirectory P).2.process.files
    let names := (Path.ofString (UnitKind.output.fileName name)).names
    path.isAbsolute = true ∧ FileTree.walkNames path = directory ++ names ∧
      (∀ part ∈ directory, IsFileName part) ∧
      (∀ above, above <+: directory → files.isDirectory above = true) ∧
      (∀ part, files.entry? (directory ++ [part]) = none) ∧ Path.dotDot ∉ names := by
  intro directory path files names
  obtain ⟨rooted, walked⟩ := private_path_walk free name confined.relative
  obtain ⟨inside, bare⟩ := scratch_made free
  refine ⟨rooted, walked, ?_, inside, bare, confined.low⟩
  intro part member
  rcases List.mem_cons.mp member with rfl | rest
  · exact temporary_file_name
  · rw [List.mem_singleton.mp rest]
    exact free.named

theorem confined_unread (free : w.ScratchFree P) (name : String) (confined : IsConfined name)
    (content : Octets) : (w.openDirectory P).2.process.files.read
      (privatePath (w.openDirectory P).1 name) ≠ .ok content := by
  obtain ⟨rooted, walked, named, inside, bare, low⟩ := confined_parts free name confined
  exact FileTree.read_confined rooted walked named inside bare low content

end scratch

-- A target that was to be made, once a run has filled it, and once it is given up. It may have never
-- come about.
def OutputTarget.filled (made : Except OsFault OutputTarget × World σ) (emissions : List Emission) :
    Except OsFault OutputTarget × World σ :=
  match made.1 with
  | .ok target => ((.ok (target.receive emissions made.2).1), (target.receive emissions made.2).2)
  | .error _ => made

section privacy

variable {P : Platform σ} {w : World σ}

end privacy

-- A host that has a file right under the root, of the name that the unit `/x` is given.
def World.settled : World Unit :=
  World.blank.setFiles ⟨[([Path.ofString "x.so"], .file 0o644 [9])], []⟩

end Fragment
