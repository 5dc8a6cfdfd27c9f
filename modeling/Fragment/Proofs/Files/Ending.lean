import Fragment.Proofs.Files.Path
/-!
Paths that can only name a directory: those that end in a slash, or in a slash and a dot. A walk
goes on into what they name, so no file is found there. A path that has a slash and is a single
component is one of them.
-/
namespace Fragment

namespace Path

def EndsInside (path : Path) : Prop := [slash] <:+ path ∨ slash :: dot <:+ path

theorem ends_inside_suffix (path longer : Path) (suffix : path <:+ longer)
    (ended : EndsInside path) : EndsInside longer := by
  cases ended with
  | inl slashed => exact .inl (slashed.trans suffix)
  | inr dotted => exact .inr (dotted.trans suffix)

theorem suffix_join (directory name : Path) : name <:+ join directory name := by
  unfold join
  split
  · exact List.suffix_rfl
  · split
    · exact ⟨directory, rfl⟩
    · exact ⟨directory ++ [slash], by simp⟩

theorem names_bare (name : Path) (something : name ≠ []) (bare : slash ∉ name) :
    names name = [name] := by
  rw [names, split_bare slash name bare]
  simp [something]

theorem relative_names (front rest : Path)
    (relative : isAbsolute (front ++ slash :: rest) = false) : names front ≠ [] := by
  cases front with
  | nil => simp [isAbsolute] at relative
  | cons o more =>
    have other : o ≠ slash := by
      intro same
      simp [isAbsolute, same] at relative
    obtain ⟨part, parts, cut⟩ := split_cons slash more
    rw [names, splitAt, if_neg other, cut]
    simp

theorem bare_component (path : Path) (bare : slash ∉ path) : path.componentCount ≤ 1 := by
  have relative : path.isAbsolute = false := by
    rw [← Bool.not_eq_true, absolute_iff_split, split_bare slash path bare]
    simp
  rw [componentCount, relative]
  by_cases something : path = []
  · simp [something, names, splitAt]
  · simp [names_bare path something bare]

theorem single_ends_inside (path : Path) (slashed : slash ∈ path)
    (single : path.componentCount ≤ 1) : EndsInside path := by
  obtain ⟨back, before, reversed, bare⟩ := List.eq_append_cons_of_mem (List.mem_reverse.mpr slashed)
  have shape : path = before.reverse ++ slash :: back.reverse := by
    simpa using congrArg List.reverse reversed
  have bare' : slash ∉ back.reverse := fun member => bare (List.mem_reverse.mp member)
  generalize before.reverse = front at shape
  generalize back.reverse = last at shape bare'
  subst shape
  by_cases something : last = []
  · exact .inl ⟨front, by rw [something]⟩
  · right
    have parts : names (front ++ slash :: last) = names front ++ [last] := by
      rw [names_join, names_bare last something bare']
    by_cases dotted : last = dot
    · exact ⟨front, by rw [dotted]⟩
    · exfalso
      have counted (parts : List Octets) : 0 < (parts ++ [last]).countP (· != dot) := by
        simp [List.countP_append, dotted]
      rw [componentCount, parts] at single
      dsimp only at single
      split at single
      · have more := counted (names front)
        omega
      · rename_i relative
        have first := relative_names front last (by simpa using relative)
        cases split : names front with
        | nil => exact first split
        | cons one others =>
          have more := counted others
          simp only [split, List.cons_append] at single
          omega

end Path

namespace FileTree

theorem walk_names_inside (path : Path) (ended : path.EndsInside) :
    (walkNames path).getLast? = some Path.dot := by
  unfold walkNames
  cases ended with
  | inl slashed =>
    obtain ⟨front, rfl⟩ := slashed
    simp [Path.endsInSlash]
  | inr dotted =>
    obtain ⟨front, rfl⟩ := dotted
    have last : Path.names Path.dot = [Path.dot] := rfl
    have solid : Path.endsInSlash (front ++ Path.slash :: Path.dot) = false := by
      simp [Path.endsInSlash, Path.dot, Path.slash]
    rw [solid, Path.names_join, last]
    simp

theorem walk_inside (tree : FileTree) (links : Nat) (here location : Location) (names : List Octets)
    (dotted : names.getLast? = some Path.dot)
    (reached : tree.walk links here names = .ok (.at location)) :
    tree.isDirectory location = true := by
  fun_induction FileTree.walk tree links here names with
  | case1 => simp at dotted
  | case2 | case5 | case6 | case7 | case8 | case9 => simp at reached
  | case3 links here rest inside ih =>
    cases rest with
    | nil =>
      obtain rfl : here = location := by simpa [walk] using reached
      simpa using inside
    | cons name more => exact ih (by simpa using dotted) reached
  | case4 links here rest inside plain ih =>
    cases rest with
    | nil => exact absurd (Option.some.inj dotted).symm (by decide)
    | cons name more => exact ih (by simpa using dotted) reached
  | case10 here name rest inside plain lower short next target linked left named ih =>
    cases rest with
    | nil => exact absurd (Option.some.inj dotted) plain
    | cons first more => exact ih (by simpa [List.getLast?_append] using dotted) reached
  | case11 links here name rest inside plain lower short next entry solid present ih =>
    cases rest with
    | nil => exact absurd (Option.some.inj dotted) plain
    | cons first more => exact ih (by simpa using dotted) reached

theorem inside_not_executable (tree : FileTree) (path : Path) (ended : path.EndsInside) :
    tree.isExecutable path = false := by
  unfold isExecutable
  rcases reached : tree.place path with cause | ⟨location | location⟩
  · simp [locate, reached, bind, Except.bind]
  · have walked := reached
    rw [place_walks tree tree path _ reached rfl] at walked
    have directory := walk_inside tree _ _ location _ (walk_names_inside path ended) walked
    have found : tree.entry? location = some .directory := by
      simpa [isDirectory] using directory
    simp [locate, reached, found, bind, Except.bind, pure, Except.pure]
  · simp [locate, reached, bind, Except.bind, throw, throwThe, MonadExceptOf.throw]

end FileTree
end Fragment
