import Fragment.Proofs.Files.Ending
import Fragment.Proofs.Toolchain
/-!
Compilers that are given with a separator. Most of them have more than one component and are not
searched for. The others are, but can only name a directory, so that the search never finds one.
-/
namespace Fragment.Toolchain

theorem locate_single_separated (files : FileTree) (directories : List Path) (name : Path)
    (separated : Path.slash ∈ name) (single : name.componentCount ≤ 1) :
    locate files directories name = none := by
  have ended := Path.single_ends_inside name separated single
  rw [locate, if_neg (Nat.not_lt.mpr single), List.find?_eq_none]
  intro candidate member
  obtain ⟨directory, -, rfl⟩ := List.mem_map.mp member
  have ended' := Path.ends_inside_suffix name _ (Path.suffix_join directory name) ended
  simp [FileTree.inside_not_executable files _ ended']

theorem locate_separated (files : FileTree) (directories : List Path) (name : Path)
    (separated : Path.slash ∈ name) :
    locate files directories name = if files.isExecutable name then some name else none := by
  by_cases parts : 1 < name.componentCount
  · exact locate_explicit files directories name parts
  · have single := Nat.not_lt.mp parts
    have ended := Path.single_ends_inside name separated single
    rw [locate_single_separated files directories name separated single,
      FileTree.inside_not_executable files name ended]
    rfl

theorem discover_separated (files : FileTree) (searchPath : Option Octets) (compiler : Path)
    (flags : List String) (separated : Path.slash ∈ compiler) :
    discover files searchPath (some compiler) flags =
      if files.isExecutable compiler.told then .ok ⟨compiler.told, flags⟩
      else .error (.unavailable [pathText compiler]) := by
  apply discover_located
  exact locate_separated files (directories searchPath) compiler.told
    ((Path.told_slash_mem compiler).mpr separated)

theorem separated_compiler_ignores_path (files : FileTree) (compiler : String)
    (flags : List String) (separated : '/' ∈ compiler.toList) (searchPath other : Option Octets) :
    let found := discover files searchPath (some (Path.ofString compiler)) flags
    found = discover files other (some (Path.ofString compiler)) flags ∧
      found = if files.isExecutable (Path.ofString compiler) then
          .ok ⟨Path.ofString compiler, flags⟩
        else .error (.unavailable [compiler]) := by
  intro found
  have slashed : Path.slash ∈ Path.ofString compiler :=
    (Octets.ascii_mem_octets compiler '/' (by decide)).mpr separated
  have answer (searchPath : Option Octets) :=
    discover_separated files searchPath (Path.ofString compiler) flags slashed
  simp only [Path.told_text, Path.text_of_string] at answer
  exact ⟨(answer searchPath).trans (answer other).symm, answer searchPath⟩

-- The search path holds a `cc`, but not for a name that goes on into it.
theorem slash_ended_compiler_unsearched :
    let files := lone (Path.ofString "cc")
    let searchPath := some (Path.ofString "/")
    '/' ∈ "cc/.".toList ∧ '/' ∈ "/cc".toList ∧
      files.isExecutable (Path.join (Path.ofString "/") (Path.ofString "cc")) = true ∧
      discover files searchPath (some (Path.ofString "cc/.")) [] = .error (.unavailable ["cc/."]) ∧
      discover files none (some (Path.ofString "/cc")) ["-O2"] =
        .ok ⟨Path.ofString "/cc", ["-O2"]⟩ := by
  intro files searchPath
  have executable : files.isExecutable (Path.ofString "/cc") = true :=
    lone_executable _ ⟨by decide, by decide, by decide, by decide, by decide⟩
  have ended : Path.EndsInside (Path.ofString "cc/.") := .inr ⟨Path.ofString "cc", rfl⟩
  have missing := FileTree.inside_not_executable files _ ended
  obtain ⟨-, refused⟩ :=
    separated_compiler_ignores_path files "cc/." [] (by decide) searchPath none
  obtain ⟨-, found⟩ :=
    separated_compiler_ignores_path files "/cc" ["-O2"] (by decide) none searchPath
  rw [missing] at refused
  rw [if_pos executable] at found
  exact ⟨by decide, by decide, executable, refused, found⟩

end Fragment.Toolchain
