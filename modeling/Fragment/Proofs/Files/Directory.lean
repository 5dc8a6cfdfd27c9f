import Mathlib.Data.List.Basic
import Mathlib.Data.List.Induction
import Fragment.Proofs.Files.ReadBack
import Fragment.Proofs.Text.Octets
import Fragment.Scratch
/-!
Absolute paths and the directories on their way. The path of a location leads to it if there are
directories above it, and a file can be made at its end if nothing is there.
-/
namespace Fragment

-- A name that a directory can hold a file under, and that a walk does not take for another one.
structure IsFileName (name : Octets) : Prop where
  something : name ≠ []
  plain : name ≠ Path.dot ∧ name ≠ Path.dotDot
  slashless : Path.slash ∉ name
  nulless : 0 ∉ name
  short : name.length ≤ FileTree.nameLimit

namespace Path

theorem split_run (separator : UInt8) (run rest part : Octets) (parts : List Octets)
    (bare : separator ∉ run) (cut : splitAt separator rest = part :: parts) :
    splitAt separator (run ++ rest) = (run ++ part) :: parts := by
  induction run with
  | nil => exact cut
  | cons o more ih =>
    have other : o ≠ separator := fun same => bare (by simp [same])
    have tail := ih fun member => bare (List.mem_cons_of_mem o member)
    simp only [List.cons_append, splitAt, if_neg other, tail]

end Path

namespace Scratch

theorem location_cons (name : Octets) (rest : Location) :
    ofLocation (name :: rest) = Path.slash :: name ++ ofLocation rest := by
  have shift (start : Path) (location : Location) :
      location.foldl (fun path name => path ++ Path.slash :: name) start =
        start ++ ofLocation location := by
    unfold ofLocation
    induction location generalizing start with
    | nil => simp
    | cons first more ih => rw [List.foldl_cons, List.foldl_cons, ih, ih ([] ++ _), List.nil_append,
        List.append_assoc]
  exact shift _ rest

theorem location_append (above below : Location) :
    ofLocation (above ++ below) = ofLocation above ++ ofLocation below := by
  induction above with
  | nil => rfl
  | cons name rest ih => rw [List.cons_append, location_cons, location_cons, ih, List.append_assoc]

theorem location_split (location : Location) (named : ∀ name ∈ location, Path.slash ∉ name) :
    Path.splitAt Path.slash (ofLocation location) = [] :: location := by
  induction location with
  | nil => rfl
  | cons name rest ih =>
    have tail := ih fun other member => named other (List.mem_cons_of_mem name member)
    have cut := Path.split_run Path.slash name (ofLocation rest) [] rest (named name (by simp)) tail
    rw [List.append_nil] at cut
    rw [location_cons, List.cons_append, Path.splitAt, if_pos rfl, cut]

theorem location_names (location : Location) (named : ∀ name ∈ location, IsFileName name) :
    (ofLocation location).names = location := by
  rw [Path.names, location_split location fun name member => (named name member).slashless,
    List.filter_cons_of_neg (by simp)]
  refine List.filter_eq_self.mpr fun name member => ?_
  simpa using (named name member).something

theorem location_last (above : Location) (name : Octets) (something : name ≠ [])
    (slashless : Path.slash ∉ name) : (ofLocation (above ++ [name])).endsInSlash = false := by
  obtain ⟨front, last, rfl⟩ := (List.eq_nil_or_concat name).resolve_left something
  have other : last ≠ Path.slash := fun same => slashless (by simp [same])
  have shape : ofLocation (above ++ [front ++ [last]]) =
      (ofLocation above ++ Path.slash :: front) ++ [last] := by
    rw [location_append, location_cons]
    simp [ofLocation]
  rw [List.concat_eq_append, Path.endsInSlash, shape, List.getLast?_concat]
  simpa using other

theorem location_nulless (location : Location) (named : ∀ name ∈ location, IsFileName name) :
    0 ∉ ofLocation location := by
  induction location with
  | nil => simp [ofLocation]
  | cons name rest ih =>
    have tail := ih fun other member => named other (List.mem_cons_of_mem name member)
    have own := (named name (by simp)).nulless
    simp [location_cons, Path.slash, own, tail]

end Scratch

namespace FileTree

theorem not_prefix_front (above : Location) (name : Octets) : ¬ above ++ [name] <+: above := by
  intro within
  have long := within.length_le
  rw [List.length_append, List.length_singleton] at long
  omega

theorem addDirectory_concat (tree : FileTree) (above : Location) (name : Octets) :
    tree.addDirectory (above ++ [name]) =
      if (FileTree.entry? (tree.addDirectory above) (above ++ [name])).isSome then tree.addDirectory above
      else (tree.addDirectory above).put (above ++ [name]) .directory := by
  have front (n : Nat) (inside : n ∈ List.range above.length) :
      (above ++ [name]).take (n + 1) = above.take (n + 1) :=
    List.take_append_of_le_length (List.mem_range.mp inside)
  have whole : (above ++ [name]).take (above.length + 1) = above ++ [name] :=
    List.take_of_length_le (by simp)
  have begun : (List.range above.length).foldl (fun tree n =>
      let above := (above ++ [name]).take (n + 1)
      if (tree.entry? above).isSome then tree else tree.put above .directory) tree =
      tree.addDirectory above :=
    List.foldl_ext _ _ tree fun t n inside => by rw [front n inside]
  rw [addDirectory, List.length_append, List.length_singleton, List.range_succ, List.foldl_append,
    List.foldl_cons, List.foldl_nil, whole, begun]

theorem entry_addDirectory (tree : FileTree) (location other : Location) :
    FileTree.entry? (tree.addDirectory location) other =
      if other <+: location ∧ tree.entry? other = none then some .directory
      else tree.entry? other := by
  induction location using List.reverseRecOn generalizing other with
  | nil =>
    refine (if_neg ?_).symm
    rintro ⟨above, absent⟩
    rw [List.prefix_nil.mp above] at absent
    cases absent
  | append_singleton above name ih =>
    have last := ih (above ++ [name])
    rw [if_neg fun both => not_prefix_front above name both.1] at last
    rw [addDirectory_concat, last]
    by_cases same : other = above ++ [name]
    · subst other
      cases found : tree.entry? (above ++ [name]) with
      | some entry => simp [last, found]
      | none => simp [entry_put_same]
    · have shorter : other <+: above ++ [name] ↔ other <+: above := by
        simp [List.prefix_concat_iff, same]
      simp only [shorter]
      refine Eq.trans ?_ (ih other)
      split
      · rfl
      · exact entry_put_other _ _ other _ same

theorem directory_addDirectory (tree : FileTree) (location here : Location)
    (directory : tree.isDirectory here = true) :
    (tree.addDirectory location).isDirectory here = true := by
  rw [isDirectory, entry_addDirectory]
  split
  · rfl
  · exact directory

theorem directory_write (tree written : FileTree) (path : Path) (content : Octets) (here : Location)
    (done : tree.write path content = .ok written) (directory : tree.isDirectory here = true) :
    written.isDirectory here = true := by
  obtain ⟨-, location, mode, aimed, rfl⟩ := write_target tree written path content done
  exact directory_put tree location here mode content
    (target_writable tree _ location mode aimed).1 directory

theorem entry_remove_other (tree : FileTree) (location here : Location)
    (outside : ¬ location <+: here) :
    FileTree.entry? (tree.remove location) here = tree.entry? here := by
  unfold FileTree.entry?
  split
  · rfl
  · have kept (entries : List (Location × Entry)) :
        (entries.filter fun e => !location.isPrefixOf e.1).lookup here = entries.lookup here := by
      induction entries with
      | nil => rfl
      | cons first rest ih =>
        obtain ⟨found, entry⟩ := first
        by_cases below : location <+: found
        · have other : (here == found) = false := by
            simpa using fun same : here = found => outside (same ▸ below)
          rw [List.filter_cons_of_neg (by simpa using below), ih, List.lookup_cons, other]
        · rw [List.filter_cons_of_pos (by simpa [← List.isPrefixOf_iff_prefix] using below),
            List.lookup_cons, List.lookup_cons, ih]
    exact kept tree.entries

theorem walk_directory (tree : FileTree) (links : Nat) (here : Location) (name : Octets)
    (rest : List Octets) (named : IsFileName name) (inside : tree.isDirectory here = true)
    (next : tree.entry? (here ++ [name]) = some .directory) :
    tree.walk links here (name :: rest) = tree.walk links (here ++ [name]) rest := by
  have short : ¬ nameLimit < name.length := Nat.not_lt.mpr named.short
  rw [walk]
  simp [inside, named.plain, short, next]

theorem walk_absent (tree : FileTree) (links : Nat) (here : Location) (name : Octets)
    (named : IsFileName name) (inside : tree.isDirectory here = true)
    (absent : tree.entry? (here ++ [name]) = none) :
    tree.walk links here [name] = .ok (.vacant (here ++ [name])) := by
  have short : ¬ nameLimit < name.length := Nat.not_lt.mpr named.short
  rw [walk]
  simp [inside, named.plain, short, absent]

theorem walk_down (tree : FileTree) (links : Nat) (here : Location) (names rest : List Octets)
    (named : ∀ name ∈ names, IsFileName name)
    (inside : ∀ above, above <+: names → tree.isDirectory (here ++ above) = true) :
    tree.walk links here (names ++ rest) = tree.walk links (here ++ names) rest := by
  induction names generalizing here with
  | nil => rw [List.nil_append, List.append_nil]
  | cons name more ih =>
    have start : tree.isDirectory here = true := by simpa using inside [] List.nil_prefix
    have next : tree.isDirectory (here ++ [name]) = true := inside [name] (by simp)
    rw [List.cons_append, walk_directory tree links here name _ (named name (by simp)) start
      (by simpa [isDirectory] using next)]
    rw [ih (here ++ [name]) fun other member => named other (List.mem_cons_of_mem name member)]
    · simp
    · intro above within
      have deeper := inside (name :: above) (by simpa using within)
      simpa using deeper

theorem place_walked (tree : FileTree) (path : Path) (nulless : 0 ∉ path) (something : path ≠ [])
    (short : path.length ≤ pathLimit) :
    tree.place path =
      tree.walk linkLimit (if path.isAbsolute then [] else tree.working) (walkNames path) := by
  rw [place, (Octets.nul_at_none_iff path).mpr nulless]
  simp [something, Nat.not_lt.mpr short]

theorem locate_walked (tree : FileTree) (path : Path) (names : List Octets) (location : Location)
    (proper : 0 ∉ path ∧ path ≠ [] ∧ path.length ≤ pathLimit) (parts : walkNames path = names)
    (reached : tree.walk linkLimit (if path.isAbsolute then [] else tree.working) names =
      .ok (.at location)) : tree.locate path = .ok location := by
  rw [locate, place_walked tree path proper.1 proper.2.1 proper.2.2, parts, reached]
  rfl

theorem place_absent (tree : FileTree) (directory : Location) (name : Octets)
    (named : ∀ part ∈ directory ++ [name], IsFileName part)
    (short : (Scratch.ofLocation (directory ++ [name])).length ≤ pathLimit)
    (inside : ∀ above, above <+: directory → tree.isDirectory above = true)
    (absent : tree.entry? (directory ++ [name]) = none) :
    tree.place (Scratch.ofLocation (directory ++ [name])) = .ok (.vacant (directory ++ [name])) := by
  have own : IsFileName name := named name (by simp)
  have front : ∀ part ∈ directory, IsFileName part := fun part member =>
    named part (List.mem_append_left _ member)
  have walked : walkNames (Scratch.ofLocation (directory ++ [name])) = directory ++ [name] := by
    rw [walkNames, Scratch.location_last directory name own.something own.slashless,
      Scratch.location_names _ named]
    simp
  have rooted : (Scratch.ofLocation (directory ++ [name])).isAbsolute = true := by
    cases directory with
    | nil => rfl
    | cons first more => rw [List.cons_append, Scratch.location_cons]; rfl
  have something : Scratch.ofLocation (directory ++ [name]) ≠ [] := by
    intro empty
    rw [empty] at rooted
    contradiction
  have nulless := Scratch.location_nulless (directory ++ [name]) named
  rw [place_walked tree _ nulless something short, rooted, walked, if_pos rfl]
  rw [walk_down tree linkLimit [] directory [name] front inside]
  exact walk_absent tree linkLimit directory name own (inside directory List.prefix_rfl) absent

theorem write_vacant (tree : FileTree) (path : Path) (location : Location) (content : Octets)
    (plain : path.endsInSlash = false) (free : tree.place path = .ok (.vacant location)) :
    tree.write path content = .ok (tree.put location (.file 0o644 content)) := by
  simp [write, plain, target, free, bind, Except.bind, pure, Except.pure]

theorem place_root_file (tree : FileTree) (name : Octets) (named : IsFileName name) (mode : Nat)
    (content : Octets) (found : FileTree.entry? tree [name] = some (.file mode content)) :
    tree.place (Path.slash :: name) = .ok (.at [name]) := by
  have path : Scratch.ofLocation ([] ++ [name]) = Path.slash :: name := by
    simp [Scratch.ofLocation]
  have parts : ∀ part ∈ [] ++ [name], IsFileName part := by
    intro part member
    rw [List.mem_singleton.mp member]
    exact named
  have plain := Scratch.location_last [] name named.something named.slashless
  have nulless := Scratch.location_nulless ([] ++ [name]) parts
  rw [path] at plain nulless
  have short : (Path.slash :: name).length ≤ pathLimit := by
    have bound := named.short
    rw [nameLimit] at bound
    rw [List.length_cons, pathLimit]
    omega
  have walked : walkNames (Path.slash :: name) = [name] := by
    rw [walkNames, plain, ← path, Scratch.location_names _ parts]
    rfl
  rw [place_walked tree _ nulless (List.cons_ne_nil _ _) short, walked]
  exact walk_file tree linkLimit mode name content named.plain named.short found

theorem read_root (tree : FileTree) (name : Octets) (named : IsFileName name) (mode : Nat)
    (content : Octets) (found : FileTree.entry? tree [name] = some (.file mode content)) :
    tree.read (Path.slash :: name) = .ok content := by
  simp [read, locate, place_root_file tree name named mode content found, found, bind, Except.bind,
    pure, Except.pure]

theorem place_root_absent (tree : FileTree) (name : Octets) (named : IsFileName name)
    (absent : tree.entry? [name] = none) :
    tree.place (Path.slash :: name) = .ok (.vacant [name]) := by
  have path : Scratch.ofLocation ([] ++ [name]) = Path.slash :: name := by
    simp [Scratch.ofLocation]
  have free := place_absent tree [] name
    (fun part member => by rw [List.mem_singleton.mp member]; exact named) ?_
    (fun above within => by rw [List.prefix_nil.mp within]; rfl) absent
  · rwa [path] at free
  · have bound := named.short
    rw [nameLimit] at bound
    rw [path, List.length_cons, pathLimit]
    omega

theorem write_root (tree : FileTree) (name content : Octets) (named : IsFileName name)
    (spare : Writable tree [name]) :
    ∃ mode, tree.write (Path.slash :: name) content = .ok (tree.put [name] (.file mode content)) := by
  have plain : Path.endsInSlash (Path.slash :: name) = false := by
    have last := Scratch.location_last [] name named.something named.slashless
    rwa [List.nil_append, Scratch.location_cons, Scratch.ofLocation, List.foldl_nil,
      List.append_nil] at last
  cases found : tree.entry? [name] with
  | none =>
    have free := place_root_absent tree name named found
    exact ⟨0o644, write_vacant tree _ [name] content plain free⟩
  | some entry =>
    obtain ⟨mode, old, rfl⟩ := spare.2 entry found
    have reached := place_root_file tree name named mode old found
    refine ⟨mode, ?_⟩
    simp [write, plain, target, reached, found, bind, Except.bind, pure, Except.pure]

theorem read_vacant (tree : FileTree) (path : Path) (location : Location)
    (free : tree.place path = .ok (.vacant location)) : tree.read path = .error .noSuchFile := by
  simp [read, locate, free, bind, Except.bind, throw, throwThe, MonadExceptOf.throw]

end FileTree
end Fragment
