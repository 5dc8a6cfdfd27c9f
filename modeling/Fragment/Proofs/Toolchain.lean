import Fragment.Proofs.Files.Path
import Fragment.Toolchain
/-!
The search for a compiler. One that is given by more than a name is not searched for: it is found at
its own path or not at all. It is looked for as it is told, though, so a path that is not UTF-8 is
never found, and another may be found in its place.
-/
namespace Fragment.Toolchain

theorem locate_explicit (files : FileTree) (directories : List Path) (name : Path)
    (parts : 1 < name.componentCount) :
    locate files directories name = if files.isExecutable name then some name else none := by
  rw [locate, if_pos parts]

theorem discover_located (files : FileTree) (searchPath : Option Octets) (compiler : Path)
    (flags : List String)
    (located : locate files (directories searchPath) compiler.told =
      if files.isExecutable compiler.told then some compiler.told else none) :
    discover files searchPath (some compiler) flags =
      if files.isExecutable compiler.told then .ok ⟨compiler.told, flags⟩
      else .error (.unavailable [pathText compiler]) := by
  have only : ((searched (some compiler)).findSome? fun name =>
      locate files (directories searchPath) (Path.ofString name)) =
      locate files (directories searchPath) compiler.told := by
    rw [searched, List.findSome?_singleton, Path.told]
  rw [discover, only, located]
  by_cases executable : files.isExecutable compiler.told = true
  · simp only [if_pos executable]
  · simp only [if_neg executable]
    rfl

theorem discover_explicit (files : FileTree) (searchPath : Option Octets) (compiler : Path)
    (flags : List String) (parts : 1 < compiler.componentCount) :
    discover files searchPath (some compiler) flags =
      if files.isExecutable compiler.told then .ok ⟨compiler.told, flags⟩
      else .error (.unavailable [pathText compiler]) := by
  apply discover_located
  exact locate_explicit files (directories searchPath) compiler.told
    (by rwa [Path.component_count_told])

def WinsAsGiven (files : FileTree) (compiler : Path) (found : Except ToolchainFault Toolchain) :
    Prop :=
  ((∃ toolchain, found = .ok toolchain) ↔ files.isExecutable compiler = true) ∧
    ∀ toolchain, found = .ok toolchain → toolchain.program = compiler

theorem explicit_compiler_wins (files : FileTree) (searchPath : Option Octets) (compiler : Path)
    (flags : List String) (parts : 1 < compiler.componentCount) :
    let found := discover files searchPath (some compiler) flags
    found = (if files.isExecutable compiler.told then .ok ⟨compiler.told, flags⟩
      else .error (.unavailable [pathText compiler])) ∧
    ((∃ text, compiler = Path.ofString text) → WinsAsGiven files compiler found) ∧
    ((¬ ∃ text, compiler = Path.ofString text) →
      (WinsAsGiven files compiler found ↔
        files.isExecutable compiler = false ∧ files.isExecutable compiler.told = false)) := by
  intro found
  have answer : found = _ := discover_explicit files searchPath compiler flags parts
  refine ⟨answer, fun text => ?_, fun unreadable => ⟨?_, ?_⟩⟩
  · rw [answer, (Path.told_self_iff compiler).mpr text]
    by_cases executable : files.isExecutable compiler = true
    · rw [if_pos executable]
      refine ⟨by simp [executable], ?_⟩
      rintro toolchain ⟨⟩
      rfl
    · rw [if_neg executable]
      exact ⟨by simp [executable], by simp⟩
  · rintro ⟨exists_iff, same⟩
    have absent : files.isExecutable compiler.told = false := by
      rw [← Bool.not_eq_true]
      intro executable
      rw [if_pos executable] at answer
      exact unreadable ((Path.told_self_iff compiler).mp (same _ answer))
    rw [if_neg (by simp [absent])] at answer
    refine ⟨?_, absent⟩
    rw [← Bool.not_eq_true, ← exists_iff, answer]
    simp
  · rintro ⟨absent, absent'⟩
    rw [answer, if_neg (by simp [absent'])]
    exact ⟨by simp [absent], by simp⟩

-- A system with one file, an executable one right under the root.
def lone (name : Octets) : FileTree := ⟨[([name], .file 0o755 [])], []⟩

theorem lone_executable (name : Octets) (named : IsFileName name) :
    (lone name).isExecutable (Path.slash :: name) = true := by
  have found : FileTree.entry? (lone name) [name] = some (.file 0o755 []) := by
    simp [lone, FileTree.entry?]
  have reached := FileTree.place_root_file (lone name) name named 0o755 [] found
  simp [FileTree.isExecutable, FileTree.locate, reached, found, bind, Except.bind, pure, Except.pure]

theorem lone_other (name other : Octets) (named : IsFileName other) (different : other ≠ name) :
    (lone name).isExecutable (Path.slash :: other) = false := by
  have absent : FileTree.entry? (lone name) [other] = none := by
    have miss : ([other] == [name]) = false := by simpa using different
    simp [lone, FileTree.entry?, List.lookup_cons, miss]
  have reached := FileTree.place_root_absent (lone name) other named absent
  simp [FileTree.isExecutable, FileTree.locate, reached, bind, Except.bind, throw, throwThe,
    MonadExceptOf.throw]

theorem accented_compiler_wins :
    1 < Path.componentCount (Path.ofString "/é") ∧
      discover (lone (Path.ofString "é")) none (some (Path.ofString "/é")) ["-O2"] =
        .ok ⟨Path.ofString "/é", ["-O2"]⟩ ∧
      WinsAsGiven (lone (Path.ofString "é")) (Path.ofString "/é")
        (discover (lone (Path.ofString "é")) none (some (Path.ofString "/é")) ["-O2"]) := by
  have parts : 1 < Path.componentCount (Path.ofString "/é") := by decide
  have executable : (lone (Path.ofString "é")).isExecutable (Path.ofString "/é") = true :=
    lone_executable _ ⟨by decide, by decide, by decide, by decide, by decide⟩
  obtain ⟨answer, wins, -⟩ := explicit_compiler_wins (lone (Path.ofString "é")) none
    (Path.ofString "/é") ["-O2"] parts
  rw [Path.told_text, if_pos executable] at answer
  exact ⟨parts, answer, wins ⟨"/é", rfl⟩⟩

-- An octet that is no text is told as U+FFFD, and a file of that name is found in place of the compiler.
theorem unreadable_compiler_replaced :
    let compiler : Path := [47, 255]
    1 < compiler.componentCount ∧ 0 ∉ compiler ∧
      (lone (Path.ofString "\uFFFD")).isExecutable compiler = false ∧
      discover (lone (Path.ofString "\uFFFD")) none (some compiler) [] =
        .ok ⟨Path.ofString "/\uFFFD", []⟩ := by
  intro compiler
  have parts : 1 < compiler.componentCount := by decide
  have executable : (lone (Path.ofString "\uFFFD")).isExecutable (Path.ofString "/\uFFFD") = true :=
    lone_executable _ ⟨by decide, by decide, by decide, by decide, by decide⟩
  have told : compiler.told = Path.ofString "/\uFFFD" := rfl
  refine ⟨parts, by decide, ?_, ?_⟩
  · exact lone_other _ _ ⟨by decide, by decide, by decide, by decide, by decide⟩ (by decide)
  · rw [discover_explicit _ none compiler [] parts, told, if_pos executable]

end Fragment.Toolchain
