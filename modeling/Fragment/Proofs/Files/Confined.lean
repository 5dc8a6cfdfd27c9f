import Fragment.Proofs.Files.Path
/-!
Files under one directory. A path that goes down into an empty directory and never up again can only
make a file right there, and removing the directory takes away all that is under it and nothing else.
-/
namespace Fragment.FileTree

theorem walk_bare (tree : FileTree) (links : Nat) (here : Location) (names : List Octets)
    (place : Place) (inside : tree.isDirectory here = true)
    (bare : ∀ name, tree.entry? (here ++ [name]) = none) (low : Path.dotDot ∉ names)
    (reached : tree.walk links here names = .ok place) :
    place = .at here ∨ ∃ name, place = .vacant (here ++ [name]) := by
  induction names with
  | nil =>
    rw [walk] at reached
    exact .inl (Except.ok.inj reached).symm
  | cons name rest ih =>
    have lower : name ≠ Path.dotDot := fun same => low (by simp [same])
    by_cases stays : name = Path.dot
    · rw [walk] at reached
      simp only [inside, Bool.not_true, Bool.false_eq_true, if_false, if_pos stays] at reached
      exact ih (fun member => low (List.mem_cons_of_mem name member)) reached
    · rw [walk] at reached
      simp only [inside, Bool.not_true, Bool.false_eq_true, if_false, if_neg stays, if_neg lower,
        bare name] at reached
      split at reached
      · contradiction
      · split at reached
        · exact .inr ⟨name, (Except.ok.inj reached).symm⟩
        · contradiction

section confined

variable {tree : FileTree} {path : Path} {directory : Location} {names : List Octets}

theorem place_confined (rooted : path.isAbsolute = true) (walked : walkNames path = directory ++ names)
    (named : ∀ name ∈ directory, IsFileName name)
    (inside : ∀ above, above <+: directory → tree.isDirectory above = true)
    (bare : ∀ name, tree.entry? (directory ++ [name]) = none) (low : Path.dotDot ∉ names)
    (place : Place) (found : tree.place path = .ok place) :
    place = .at directory ∨ ∃ name, place = .vacant (directory ++ [name]) := by
  have walk := place_walks tree tree path place found rfl
  rw [found, rooted, if_pos rfl, walked, walk_down tree linkLimit [] directory names named inside,
    List.nil_append] at walk
  exact walk_bare tree linkLimit directory names place (inside directory List.prefix_rfl) bare low
    walk.symm

theorem read_confined (rooted : path.isAbsolute = true) (walked : walkNames path = directory ++ names)
    (named : ∀ name ∈ directory, IsFileName name)
    (inside : ∀ above, above <+: directory → tree.isDirectory above = true)
    (bare : ∀ name, tree.entry? (directory ++ [name]) = none) (low : Path.dotDot ∉ names)
    (content : Octets) : tree.read path ≠ .ok content := by
  intro held
  cases found : tree.place path with
  | error cause => simp [read, locate, found, bind, Except.bind] at held
  | ok place =>
    rcases place_confined rooted walked named inside bare low place found with rfl | ⟨name, rfl⟩
    · have here : tree.entry? directory = some .directory := by
        simpa [isDirectory] using inside directory List.prefix_rfl
      simp [read, locate, found, here, bind, Except.bind, pure, Except.pure, throw, throwThe,
        MonadExceptOf.throw] at held
    · rw [read_vacant tree path _ found] at held
      contradiction

end confined

end Fragment.FileTree
