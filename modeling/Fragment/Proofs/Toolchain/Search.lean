import Fragment.Proofs.Files.Directory
import Fragment.Proofs.Files.Path
import Fragment.Toolchain
/-!
The search for a compiler by name. Names go before directories: what is found is the first name that
any directory holds, in the first directory that holds it.
-/
namespace Fragment

namespace Path

theorem split_at_split_on (separator : UInt8) (path : Octets) :
    splitAt separator path = path.splitOn separator := by
  induction path with
  | nil => rfl
  | cons o rest ih =>
    obtain ⟨part, parts, cut⟩ := split_cons separator rest
    rw [splitAt, List.splitOn_cons_eq_if_modifyHead, ← ih, cut]
    by_cases here : o = separator
    · simp [here]
    · rw [if_neg here, if_neg (by simpa using here)]
      rfl

theorem split_parts_bare (separator : UInt8) (path part : Octets)
    (member : part ∈ splitAt separator path) : separator ∉ part := by
  induction path generalizing part with
  | nil => simp_all [splitAt]
  | cons o rest ih =>
    obtain ⟨first, more, cut⟩ := split_cons separator rest
    rw [cut] at ih
    by_cases here : o = separator
    · rw [splitAt, if_pos here, cut] at member
      cases List.mem_cons.mp member with
      | inl same => simp [same]
      | inr later => exact ih part later
    · rw [splitAt, if_neg here, cut] at member
      cases List.mem_cons.mp member with
      | inl same =>
        rw [same, List.mem_cons]
        intro inside
        cases inside with
        | inl same => exact here same.symm
        | inr inside => exact ih first (by simp) inside
      | inr later => exact ih part (List.mem_cons_of_mem first later)

theorem join_nothing (name : Path) : join [] name = name := by
  unfold join
  split
  · rfl
  · rfl

end Path

namespace Toolchain

def colon : UInt8 := 58

-- The directories are those between the colons of the search path. One that is not set is as an
-- empty one, with one directory without a name.
structure Lists (searchPath : Option Octets) (directories : List Path) : Prop where
  something : directories ≠ []
  bare : ∀ directory ∈ directories, colon ∉ directory
  joined : [colon].intercalate directories = searchPath.getD []

theorem lists_directories (searchPath : Option Octets) :
    Lists searchPath (directories searchPath) := by
  refine ⟨?_, fun directory member => Path.split_parts_bare colon _ directory member, ?_⟩
  · obtain ⟨first, more, cut⟩ := Path.split_cons colon (searchPath.getD [])
    rw [directories, show (58 : UInt8) = colon from rfl, cut]
    exact List.cons_ne_nil first more
  · rw [directories, Path.split_at_split_on]
    exact List.intercalate_splitOn colon

theorem lists_unique (searchPath : Option Octets) (listed : List Path)
    (lists : Lists searchPath listed) : listed = directories searchPath := by
  rw [directories, Path.split_at_split_on, ← lists.joined]
  exact (List.splitOn_intercalate colon lists.bare lists.something).symm

def IsFirst {α : Type} (p : α → Prop) (values : List α) (value : α) : Prop :=
  ∃ before behind, values = before ++ value :: behind ∧ p value ∧ ∀ other ∈ before, ¬ p other

def Holds (files : FileTree) (name : String) (directory : Path) : Prop :=
  files.isExecutable (directory.join (Path.ofString name)) = true

def HeldIn (files : FileTree) (directories : List Path) (name : String) : Prop :=
  ∃ directory ∈ directories, Holds files name directory

-- What a search for the names in the directories answers, whether it finds one or not.
structure InOrder (files : FileTree) (directories : List Path) (names flags : List String)
    (found : Except ToolchainFault Toolchain) : Prop where
  success : ∀ toolchain, found = .ok toolchain ↔ ∃ name directory,
    IsFirst (HeldIn files directories) names name ∧
      IsFirst (Holds files name) directories directory ∧
      toolchain = ⟨directory.join (Path.ofString name), flags⟩
  refusal : ∀ fault, found = .error fault ↔
    fault = .unavailable names ∧ ∀ name ∈ names, ¬ HeldIn files directories name

section
variable (files : FileTree) (directories : List Path)

theorem locate_found_iff (name : String) (single : (Path.ofString name).componentCount ≤ 1)
    (program : Path) :
    locate files directories (Path.ofString name) = some program ↔
      ∃ directory, IsFirst (Holds files name) directories directory ∧
        program = directory.join (Path.ofString name) := by
  rw [locate, if_neg (Nat.not_lt.mpr single), List.find?_map, Option.map_eq_some_iff]
  refine exists_congr fun directory => ?_
  rw [List.find?_eq_some_iff_append, eq_comm (a := program)]
  refine and_congr_left fun _ => ?_
  constructor
  · intro found
    obtain ⟨holds, before, behind, shape, missed⟩ := found
    refine ⟨before, behind, shape, holds, fun other member => ?_⟩
    simpa [Holds] using missed other member
  · intro first
    obtain ⟨before, behind, shape, holds, missed⟩ := first
    refine ⟨holds, before, behind, shape, fun other member => ?_⟩
    simpa [Holds] using missed other member

theorem locate_missed_iff (name : String) (single : (Path.ofString name).componentCount ≤ 1) :
    locate files directories (Path.ofString name) = none ↔ ¬ HeldIn files directories name := by
  rw [locate, if_neg (Nat.not_lt.mpr single), List.find?_eq_none]
  simp [HeldIn, Holds]

theorem located_held_iff (name : String) (single : (Path.ofString name).componentCount ≤ 1) :
    (∃ program, locate files directories (Path.ofString name) = some program) ↔
      HeldIn files directories name := by
  rw [← not_iff_not, ← locate_missed_iff files directories name single]
  simp [Option.eq_none_iff_forall_ne_some]

theorem search_found_iff (names : List String)
    (single : ∀ name ∈ names, (Path.ofString name).componentCount ≤ 1) (program : Path) :
    (names.findSome? fun name => locate files directories (Path.ofString name)) = some program ↔
      ∃ name directory, IsFirst (HeldIn files directories) names name ∧
        IsFirst (Holds files name) directories directory ∧
        program = directory.join (Path.ofString name) := by
  rw [List.findSome?_eq_some_iff]
  constructor
  · intro found
    obtain ⟨before, name, behind, shape, located, missed⟩ := found
    have single' := single name (by simp [shape])
    obtain ⟨directory, first, rfl⟩ :=
      (locate_found_iff files directories name single' program).mp located
    refine ⟨name, directory, ⟨before, behind, shape, ?_, ?_⟩, first, rfl⟩
    · exact (located_held_iff files directories name single').mp ⟨_, located⟩
    · intro other member
      have single'' := single other (by simp [shape, member])
      exact (locate_missed_iff files directories other single'').mp (missed other member)
  · intro first
    obtain ⟨name, directory, ⟨before, behind, shape, held, missed⟩, first, rfl⟩ := first
    have single' := single name (by simp [shape])
    refine ⟨before, name, behind, shape, ?_, ?_⟩
    · exact (locate_found_iff files directories name single' _).mpr ⟨directory, first, rfl⟩
    · intro other member
      have single'' := single other (by simp [shape, member])
      exact (locate_missed_iff files directories other single'').mpr (missed other member)

theorem search_missed_iff (names : List String)
    (single : ∀ name ∈ names, (Path.ofString name).componentCount ≤ 1) :
    (names.findSome? fun name => locate files directories (Path.ofString name)) = none ↔
      ∀ name ∈ names, ¬ HeldIn files directories name := by
  rw [List.findSome?_eq_none_iff]
  refine forall₂_congr fun name member => ?_
  exact locate_missed_iff files directories name (single name member)

end

theorem discover_ok_iff (files : FileTree) (searchPath : Option Octets) (compiler : Option Path)
    (flags : List String) (toolchain : Toolchain) :
    discover files searchPath compiler flags = .ok toolchain ↔
      ∃ program, ((searched compiler).findSome? fun name =>
          locate files (directories searchPath) (Path.ofString name)) = some program ∧
        toolchain = ⟨program, flags⟩ := by
  unfold discover
  split
  · rename_i found
    simp [found, eq_comm]
  · rename_i missed
    simp [missed]

theorem discover_error_iff (files : FileTree) (searchPath : Option Octets) (compiler : Option Path)
    (flags : List String) (fault : ToolchainFault) :
    discover files searchPath compiler flags = .error fault ↔
      ((searched compiler).findSome? fun name =>
          locate files (directories searchPath) (Path.ofString name)) = none ∧
        fault = .unavailable (searched compiler) := by
  unfold discover
  split
  · rename_i found
    simp [found]
  · rename_i missed
    simp [missed, eq_comm]

theorem discover_searched (files : FileTree) (searchPath : Option Octets) (compiler : Option Path)
    (flags : List String)
    (single : ∀ name ∈ searched compiler, (Path.ofString name).componentCount ≤ 1) :
    InOrder files (directories searchPath) (searched compiler) flags
      (discover files searchPath compiler flags) := by
  constructor
  · intro toolchain
    rw [discover_ok_iff]
    constructor
    · intro found
      obtain ⟨program, found, rfl⟩ := found
      obtain ⟨name, directory, first, first', rfl⟩ :=
        (search_found_iff files _ _ single program).mp found
      exact ⟨name, directory, first, first', rfl⟩
    · intro pair
      obtain ⟨name, directory, first, first', rfl⟩ := pair
      exact ⟨_, (search_found_iff files _ _ single _).mpr ⟨name, directory, first, first', rfl⟩, rfl⟩
  · intro fault
    rw [discover_error_iff, search_missed_iff files _ _ single, and_comm]

theorem discover_flags (files : FileTree) (searchPath : Option Octets) (compiler : Option Path)
    (flags : List String) (toolchain : Toolchain)
    (found : discover files searchPath compiler flags = .ok toolchain) :
    toolchain.flags = flags := by
  obtain ⟨program, -, rfl⟩ := (discover_ok_iff files searchPath compiler flags toolchain).mp found
  rfl

theorem searched_text (name : String) : searched (some (Path.ofString name)) = [name] := by
  rw [searched, Path.text_of_string]

theorem candidate_single (name : String) (listed : name ∈ candidates) :
    (Path.ofString name).componentCount ≤ 1 := by
  have all : ∀ name ∈ candidates, (Path.ofString name).componentCount ≤ 1 := by decide
  exact all name listed

theorem discover_in_order (files : FileTree) (searchPath : Option Octets) (flags : List String) :
    (∃ listed, Lists searchPath listed) ∧
      (∀ listed, Lists searchPath listed →
        InOrder files listed ["cc", "gcc", "clang"] flags (discover files searchPath none flags) ∧
          ∀ name : String, (Path.ofString name).componentCount ≤ 1 →
            InOrder files listed [name] flags
              (discover files searchPath (some (Path.ofString name)) flags)) ∧
      ∀ (compiler : Option Path) (toolchain : Toolchain),
        discover files searchPath compiler flags = .ok toolchain → toolchain.flags = flags := by
  refine ⟨⟨_, lists_directories searchPath⟩, ?_, fun compiler toolchain found =>
    discover_flags files searchPath compiler flags toolchain found⟩
  intro listed lists
  rw [lists_unique searchPath listed lists]
  constructor
  · exact discover_searched files searchPath none flags candidate_single
  · intro name single
    have answer := discover_searched files searchPath (some (Path.ofString name)) flags
    rw [searched_text] at answer
    apply answer
    intro other member
    rw [List.mem_singleton.mp member]
    exact single

-- A `cc` that cannot be run in the working directory, and one that can under the root.
def scattered : FileTree where
  entries := [([Path.ofString "a"], .directory),
    ([Path.ofString "a", Path.ofString "cc"], .file 0o644 []),
    ([Path.ofString "a", Path.ofString "gcc"], .file 0o755 []),
    ([Path.ofString "cc"], .file 0o755 [])]
  working := [Path.ofString "a"]

theorem last_cc_before_first_gcc :
    let searchPath := some (Path.ofString ":/")
    Lists searchPath [[], Path.ofString "/"] ∧ (Path.ofString "gcc").componentCount ≤ 1 ∧
      Holds scattered "gcc" [] ∧
      discover scattered searchPath none ["-O2"] = .ok ⟨Path.ofString "/cc", ["-O2"]⟩ ∧
      discover scattered searchPath (some (Path.ofString "gcc")) ["-O2"] =
        .ok ⟨Path.ofString "gcc", ["-O2"]⟩ := by
  intro searchPath
  have lists : Lists searchPath [[], Path.ofString "/"] := ⟨by decide, by decide, by decide⟩
  have single : (Path.ofString "gcc").componentCount ≤ 1 := by decide
  have rooted : Holds scattered "cc" (Path.ofString "/") := by
    have located := FileTree.locate_walked scattered (Path.ofString "/cc") [Path.ofString "cc"]
      [Path.ofString "cc"] (by decide) (by decide)
      (by simp +decide [FileTree.walk, FileTree.entry?, scattered, List.lookup_cons])
    have joined : Path.join (Path.ofString "/") (Path.ofString "cc") = Path.ofString "/cc" := by
      decide
    rw [Holds, joined, FileTree.isExecutable, located]
    decide
  have near : Holds scattered "gcc" [] := by
    have located := FileTree.locate_walked scattered (Path.ofString "gcc") [Path.ofString "gcc"]
      [Path.ofString "a", Path.ofString "gcc"] (by decide) (by decide)
      (by simp +decide [FileTree.walk, FileTree.entry?, scattered, List.lookup_cons])
    rw [Holds, Path.join_nothing, FileTree.isExecutable, located]
    decide
  have unfit : ¬ Holds scattered "cc" [] := by
    have located := FileTree.locate_walked scattered (Path.ofString "cc") [Path.ofString "cc"]
      [Path.ofString "a", Path.ofString "cc"] (by decide) (by decide)
      (by simp +decide [FileTree.walk, FileTree.entry?, scattered, List.lookup_cons])
    rw [Holds, Path.join_nothing, FileTree.isExecutable, located]
    decide
  obtain ⟨-, searches, -⟩ := discover_in_order scattered searchPath ["-O2"]
  obtain ⟨defaults, named⟩ := searches _ lists
  refine ⟨lists, single, near, (defaults.success _).mpr ?_, ((named "gcc" single).success _).mpr ?_⟩
  · have held : HeldIn scattered [[], Path.ofString "/"] "cc" := ⟨_, by simp, rooted⟩
    have last : IsFirst (Holds scattered "cc") [[], Path.ofString "/"] (Path.ofString "/") :=
      ⟨[[]], [], rfl, rooted, by simpa using unfit⟩
    exact ⟨"cc", Path.ofString "/", ⟨[], ["gcc", "clang"], rfl, held, by simp⟩, last, by decide⟩
  · have held : HeldIn scattered [[], Path.ofString "/"] "gcc" := ⟨[], by simp, near⟩
    have first : IsFirst (Holds scattered "gcc") [[], Path.ofString "/"] [] :=
      ⟨[], [Path.ofString "/"], rfl, near, by simp⟩
    exact ⟨"gcc", [], ⟨[], [], rfl, held, by simp⟩, first, by rw [Path.join_nothing]⟩

end Toolchain
end Fragment
