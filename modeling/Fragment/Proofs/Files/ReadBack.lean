import Fragment.Files.Tree
/-!
Reading a file back. A file that has been written at a path is found again by walking that path,
whatever links and parent names the path goes through.
-/
namespace Fragment

theorem lookup_filter_other {α β : Type} [BEq α] [LawfulBEq α] (entries : List (α × β))
    (key other : α) (different : other ≠ key) :
    (entries.filter (·.1 != key)).lookup other = entries.lookup other := by
  induction entries with
  | nil => rfl
  | cons entry rest ih =>
    obtain ⟨found, value⟩ := entry
    by_cases same : found = key
    · have miss : (other == found) = false := by simpa [same] using different
      rw [List.filter_cons_of_neg (by simpa using same), ih, List.lookup_cons, miss]
    · rw [List.filter_cons_of_pos (by simpa using same), List.lookup_cons, List.lookup_cons, ih]

namespace FileTree

theorem entry_put_same (tree : FileTree) (location : Location) (entry : Entry)
    (below : location ≠ []) : FileTree.entry? (tree.put location entry) location = some entry := by
  simp [ entry?, put, below]

theorem entry_put_other (tree : FileTree) (location other : Location) (entry : Entry)
    (different : other ≠ location) :
    FileTree.entry? (tree.put location entry) other = tree.entry? other := by
  cases other with
  | nil => rfl
  | cons name names =>
    have miss : (name :: names == location) = false := by simpa using different
    simp [ entry?, put, List.lookup_cons, miss, lookup_filter_other tree.entries location _ different]

def Writable (tree : FileTree) (location : Location) : Prop :=
  location ≠ [] ∧ ∀ entry, tree.entry? location = some entry → ∃ mode content, entry = .file mode content

theorem writable_no_directory (tree : FileTree) (location : Location)
    (writable : Writable tree location) : tree.isDirectory location = false := by
  unfold isDirectory
  cases found : tree.entry? location with
  | none => rfl
  | some entry =>
    obtain ⟨mode, content, rfl⟩ := writable.2 entry found
    rfl

theorem directory_put (tree : FileTree) (location here : Location) (mode : Nat) (content : Octets)
    (writable : Writable tree location) (directory : tree.isDirectory here = true) :
    (tree.put location (.file mode content)).isDirectory here = true := by
  have different : here ≠ location := by
    rintro rfl
    rw [writable_no_directory tree here writable] at directory
    contradiction
  rw [isDirectory, entry_put_other tree location here _ different]
  exact directory

-- The walk ends at the written location at the latest, so until then it meets the old entries only.
theorem walk_put (tree : FileTree) (location : Location) (mode : Nat) (content : Octets)
    (writable : Writable tree location) (links : Nat) (here : Location) (names : List Octets)
    (reached : tree.walk links here names = .ok (.at location) ∨
      tree.walk links here names = .ok (.vacant location)) :
    (tree.put location (.file mode content)).walk links here names = .ok (.at location) := by
  have directory (here : Location) (found : ¬ (!tree.isDirectory here) = true) :
      (!(tree.put location (.file mode content)).isDirectory here) = false := by
    simpa using directory_put tree location here mode content writable (by simpa using found)
  fun_induction FileTree.walk tree links here names with
  | case1 links here => simpa [walk] using reached
  | case2 | case5 | case7 | case8 | case9 => simp at reached
  | case3 links here rest inside ih => simpa [walk, directory here inside] using ih reached
  | case4 links here rest inside plain ih =>
    simpa [walk, directory here inside, plain] using ih reached
  | case6 links here name rest inside plain lower short next absent last =>
    obtain rfl : next = location := by simpa using reached
    have found := entry_put_same tree next (.file mode content) writable.1
    have done : rest = [] := by simpa using last
    simp [walk, directory here inside, plain, lower, short, next, found, done]
  | case10 here name rest inside plain lower short next target linked left named ih =>
    have different : next ≠ location := by
      rintro rfl
      obtain ⟨_, _, file⟩ := writable.2 _ linked
      contradiction
    have found := entry_put_other tree location next (.file mode content) different
    rw [linked] at found
    simpa [walk, directory here inside, plain, lower, short, next, found, named] using ih reached
  | case11 links here name rest inside plain lower short next entry solid present ih =>
    by_cases same : next = location
    · have found : FileTree.entry? (tree.put location (.file mode content)) next =
          some (.file mode content) := by
        rw [same]
        exact entry_put_same tree location (.file mode content) writable.1
      simpa [walk, directory here inside, plain, lower, short, next, found] using ih reached
    · have found := entry_put_other tree location next (.file mode content) same
      rw [present] at found
      cases entry with
      | link target => exact absurd rfl (solid target)
      | file _ _ | directory =>
        simpa [walk, directory here inside, plain, lower, short, next, found] using ih reached

theorem place_walks (tree other : FileTree) (path : Path) (place : Place)
    (found : tree.place path = .ok place) (same : other.working = tree.working) :
    other.place path =
      other.walk linkLimit (if path.isAbsolute then [] else tree.working) (walkNames path) := by
  unfold FileTree.place at found ⊢
  split at found
  · simp at found
  · by_cases empty : path.isEmpty = true
    · simp [empty] at found
    · by_cases long : pathLimit < path.length
      · simp [empty, long] at found
      · simp [empty, long, same]

theorem place_put (tree : FileTree) (location : Location) (path : Path) (mode : Nat)
    (content : Octets) (writable : Writable tree location)
    (reached : tree.place path = .ok (.at location) ∨ tree.place path = .ok (.vacant location)) :
    (tree.put location (.file mode content)).place path = .ok (.at location) := by
  obtain ⟨place, found⟩ : ∃ place, tree.place path = .ok place := by
    rcases reached with found | found <;> exact ⟨_, found⟩
  rw [place_walks tree tree path place found rfl] at reached
  rw [place_walks tree (tree.put location (.file mode content)) path place found rfl]
  exact walk_put tree location mode content writable _ _ _ reached

theorem walk_file (tree : FileTree) (links mode : Nat) (name content : Octets)
    (plain : name ≠ Path.dot ∧ name ≠ Path.dotDot) (short : name.length ≤ nameLimit)
    (found : FileTree.entry? tree [name] = some (.file mode content)) :
    tree.walk links [] [name] = .ok (.at [name]) := by
  have root : tree.isDirectory [] = true := rfl
  have fits : ¬ nameLimit < name.length := by omega
  simp [walk, root, plain.1, plain.2, fits, found]

theorem walk_vacant (tree : FileTree) (links : Nat) (here location : Location)
    (names : List Octets) (ended : tree.walk links here names = .ok (.vacant location)) :
    location ≠ [] ∧ tree.entry? location = none := by
  fun_induction FileTree.walk tree links here names with
  | case1 | case2 | case5 | case7 | case8 | case9 => simp at ended
  | case3 links here rest inside ih => exact ih ended
  | case4 links here rest inside plain ih => exact ih ended
  | case6 links here name rest inside plain lower short next absent last =>
    obtain rfl : next = location := by simpa using ended
    exact ⟨by simp [next], absent⟩
  | case10 here name rest inside plain lower short next target linked left named ih =>
    exact ih ended
  | case11 links here name rest inside plain lower short next entry solid present ih =>
    exact ih ended

theorem place_vacant (tree : FileTree) (path : Path) (location : Location)
    (ended : tree.place path = .ok (.vacant location)) :
    location ≠ [] ∧ tree.entry? location = none := by
  rw [place_walks tree tree path _ ended rfl] at ended
  exact walk_vacant tree _ _ location _ ended

theorem target_writable (tree : FileTree) (path : Path) (location : Location) (mode : Nat)
    (aimed : tree.target path = .ok (location, mode)) :
    Writable tree location ∧
      (tree.place path = .ok (.at location) ∨ tree.place path = .ok (.vacant location)) := by
  unfold target at aimed
  rcases reached : tree.place path with cause | ⟨place | place⟩
  · simp [reached, bind, Except.bind] at aimed
  · simp only [reached, bind, Except.bind] at aimed
    split at aimed
    · rename_i mode' content found
      simp only [pure, Except.pure, Except.ok.injEq, Prod.mk.injEq] at aimed
      obtain ⟨rfl, rfl⟩ := aimed
      refine ⟨⟨?_, fun entry present => ⟨mode', content, ?_⟩⟩, .inl rfl⟩
      · rintro rfl
        simp [ entry?] at found
      · exact Option.some.inj (present.symm.trans found)
    · simp [throw, throwThe, MonadExceptOf.throw] at aimed
  · simp only [reached, bind, Except.bind, pure, Except.pure, Except.ok.injEq, Prod.mk.injEq] at aimed
    obtain ⟨rfl, -⟩ := aimed
    obtain ⟨below, absent⟩ := place_vacant tree path place reached
    refine ⟨⟨below, fun entry present => ?_⟩, .inr rfl⟩
    rw [absent] at present
    contradiction

theorem write_target (tree written : FileTree) (path : Path) (content : Octets)
    (done : tree.write path content = .ok written) :
    path.endsInSlash = false ∧ ∃ location mode, tree.target path = .ok (location, mode) ∧
      written = tree.put location (.file mode content) := by
  unfold write at done
  cases slash : path.endsInSlash with
  | true =>
    simp only [slash, if_true, bind, Except.bind] at done
    split at done
    · contradiction
    · simp [throw, throwThe, MonadExceptOf.throw] at done
  | false =>
    cases aimed : tree.target path with
    | error cause => simp [slash, aimed, bind, Except.bind] at done
    | ok found =>
      obtain ⟨location, mode⟩ := found
      simp only [slash, aimed, bind, Except.bind, pure, Except.pure, Bool.false_eq_true, if_false,
        Except.ok.injEq] at done
      exact ⟨rfl, location, mode, rfl, done.symm⟩

theorem read_write (tree written : FileTree) (path : Path) (content : Octets)
    (done : tree.write path content = .ok written) : written.read path = .ok content := by
  obtain ⟨-, location, mode, aimed, rfl⟩ := write_target tree written path content done
  obtain ⟨writable, reached⟩ := target_writable tree path location mode aimed
  have again := place_put tree location path mode content writable reached
  have found := entry_put_same tree location (.file mode content) writable.1
  simp [read, locate, again, found, bind, Except.bind, pure, Except.pure]

end FileTree
end Fragment
