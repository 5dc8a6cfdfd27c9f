import Fragment.Proofs.Compile.Attempt
import Fragment.Proofs.Toolchain.Search
import Fragment.Proofs.Toolchain.Separator
/-!
Starting the compiler that was found. A program that is named without a separator is searched for a
second time when it is started, and elsewhere if no search path is set. So the compiler that was
found is the one that starts only if it is named with a separator or there is a search path.
-/
namespace Fragment

namespace Path

theorem absolute_slash (path : Path) (rooted : path.isAbsolute = true) : slash ∈ path := by
  cases path with
  | nil => contradiction
  | cons o rest =>
    have same : o = slash := by simpa [isAbsolute] using rooted
    simp [same]

theorem join_bare (directory name : Path) (bare : slash ∉ join directory name) :
    directory = [] ∧ slash ∉ name := by
  have bare' : slash ∉ name := fun inside => bare ((suffix_join directory name).subset inside)
  refine ⟨?_, bare'⟩
  have relative : ¬ name.isAbsolute = true := fun rooted => bare' (absolute_slash name rooted)
  rw [join, if_neg relative] at bare
  by_cases something : directory = []
  · exact something
  · exfalso
    split at bare
    · rename_i joined
      have slashed : directory.getLast? = some slash := by
        simpa [something, endsInSlash] using joined
      exact bare (List.mem_append_left name (List.mem_of_getLast? slashed))
    · simp at bare

end Path

namespace Toolchain

-- A system looks for a program in the search path or, if none is set, in its usual directories.
def startDirectories (usual : List Path) (searchPath : Option Octets) : List Path :=
  match searchPath with
  | some _ => directories searchPath
  | none => usual

-- The file that a system starts for a program. A name without a separator is looked for anew.
def started? (files : FileTree) (usual : List Path) (searchPath : Option Octets) (program : Path) :
    Option Path :=
  if Path.slash ∈ program then if files.isExecutable program then some program else none
  else ((startDirectories usual searchPath).map (·.join program)).find? files.isExecutable

-- A mere name is the first that is held, and it is first held by a directory without a name.
structure FindsBare (files : FileTree) (searchPath : Option Octets) (names : List String)
    (name : String) : Prop where
  bare : Path.slash ∉ Path.ofString name
  held : IsFirst (HeldIn files (directories searchPath)) names name
  nameless : IsFirst (Holds files name) (directories searchPath) []

def RunsOnly {σ : Type} (program : Path) (w w' : World σ) : Prop :=
  ∃ runs, w'.events = w.events ++ runs ∧
    ∀ event ∈ runs, ∃ invocation run,
      event = .spawned invocation run ∧ invocation.program = program

theorem searched_single (compiler : Option Path) (bare : ∀ path ∈ compiler, Path.slash ∉ path)
    (name : String) (member : name ∈ searched compiler) :
    (Path.ofString name).componentCount ≤ 1 := by
  cases compiler with
  | none => exact candidate_single name member
  | some path =>
    rw [List.mem_singleton.mp member]
    apply Path.bare_component
    exact (Path.told_slash_mem path).not.mpr (bare path rfl)

theorem discover_bare (files : FileTree) (searchPath : Option Octets) (compiler : Option Path)
    (flags : List String) (name : String)
    (finds : FindsBare files searchPath (searched compiler) name) :
    discover files searchPath compiler flags = .ok ⟨Path.ofString name, flags⟩ := by
  have single := searched_single compiler fun path member slashed => by
    obtain ⟨before, behind, shape, -⟩ := finds.held
    obtain rfl : compiler = some path := member
    have listed : name ∈ searched (some path) := by simp [shape]
    obtain rfl := List.mem_singleton.mp listed
    exact finds.bare ((Path.told_slash_mem path).mpr slashed)
  have answer := discover_searched files searchPath compiler flags single
  refine (answer.success _).mpr ⟨name, [], finds.held, finds.nameless, ?_⟩
  rw [Path.join_nothing]

theorem discover_found (files : FileTree) (searchPath : Option Octets) (compiler : Option Path)
    (flags : List String) (toolchain : Toolchain)
    (found : discover files searchPath compiler flags = .ok toolchain) :
    files.isExecutable toolchain.program = true ∧
      (Path.slash ∈ toolchain.program ∨ ∃ name,
        FindsBare files searchPath (searched compiler) name ∧
          toolchain.program = Path.ofString name) := by
  by_cases separated : ∃ path ∈ compiler, Path.slash ∈ path
  · obtain ⟨path, rfl, slashed⟩ := separated
    rw [discover_separated files searchPath path flags slashed] at found
    split at found
    · rename_i executable
      obtain rfl := Except.ok.inj found
      exact ⟨executable, .inl ((Path.told_slash_mem path).mpr slashed)⟩
    · contradiction
  · have single := searched_single compiler
      fun path member slashed => separated ⟨path, member, slashed⟩
    have answer := discover_searched files searchPath compiler flags single
    obtain ⟨name, directory, held, first, rfl⟩ := (answer.success toolchain).mp found
    have holds : Holds files name directory := by
      obtain ⟨_, _, _, holds, _⟩ := first
      exact holds
    refine ⟨holds, ?_⟩
    by_cases slashed : Path.slash ∈ directory.join (Path.ofString name)
    · exact .inl slashed
    · obtain ⟨rfl, bare⟩ := Path.join_bare directory (Path.ofString name) slashed
      exact .inr ⟨name, ⟨bare, held, first⟩, Path.join_nothing _⟩

-- The second search goes through the same directories if there is a search path, and it never leads
-- to a mere name if there is none.
theorem started_bare_iff (files : FileTree) (usual : List Path) (searchPath : Option Octets)
    (names : List String) (name : String)
    (rooted : ∀ directory ∈ usual, directory.isAbsolute = true)
    (finds : FindsBare files searchPath names name) :
    started? files usual searchPath (Path.ofString name) = some (Path.ofString name) ↔
      searchPath ≠ none := by
  have single := Path.bare_component (Path.ofString name) finds.bare
  rw [started?, if_neg finds.bare]
  cases searchPath with
  | some path =>
    have located := (locate_found_iff files (directories (some path)) name single _).mpr
      ⟨[], finds.nameless, rfl⟩
    rw [Path.join_nothing, locate, if_neg (Nat.not_lt.mpr single)] at located
    simp [startDirectories, located]
  | none =>
    simp only [startDirectories, ne_eq, not_true_eq_false, iff_false]
    intro found
    obtain ⟨directory, member, joined⟩ := List.mem_map.mp (List.mem_of_find?_eq_some found)
    have bare := finds.bare
    rw [← joined] at bare
    obtain ⟨rfl, -⟩ := Path.join_bare directory (Path.ofString name) bare
    exact absurd (rooted [] member) (by decide)

theorem compile_runs_only {σ : Type} (P : Platform σ) (toolchain : Toolchain) (mode : ScratchMode)
    (unit : SourceUnit) (store : Store) (w : World σ) :
    RunsOnly toolchain.program w (compile P toolchain mode unit store w).2.2 := by
  obtain ⟨runs, recorded, only⟩ := compile_runs P toolchain mode unit store w
  refine ⟨runs, recorded, fun event member => ?_⟩
  obtain ⟨target, run, same⟩ := only event member
  exact ⟨_, run, same, rfl⟩

theorem found_compiler_starts {σ : Type} (P : Platform σ) (files : FileTree) (usual : List Path)
    (searchPath : Option Octets) (compiler : Option Path) (flags : List String)
    (toolchain : Toolchain) (rooted : ∀ directory ∈ usual, directory.isAbsolute = true)
    (found : discover files searchPath compiler flags = .ok toolchain) :
    files.isExecutable toolchain.program = true ∧
      (Path.slash ∉ toolchain.program ↔
        ∃ name, FindsBare files searchPath (searched compiler) name) ∧
      (started? files usual searchPath toolchain.program = some toolchain.program ↔
        Path.slash ∈ toolchain.program ∨ searchPath ≠ none) ∧
      ∀ (mode : ScratchMode) (unit : SourceUnit) (store : Store) (w : World σ),
        RunsOnly toolchain.program w (compile P toolchain mode unit store w).2.2 := by
  obtain ⟨executable, shape⟩ := discover_found files searchPath compiler flags toolchain found
  refine ⟨executable, ?_, ?_, compile_runs_only P toolchain⟩
  · constructor
    · intro bare
      obtain ⟨name, finds, -⟩ := shape.resolve_left bare
      exact ⟨name, finds⟩
    · intro bare
      obtain ⟨name, finds⟩ := bare
      have mere := discover_bare files searchPath compiler flags name finds
      obtain rfl := Except.ok.inj (found.symm.trans mere)
      exact finds.bare
  · by_cases separated : Path.slash ∈ toolchain.program
    · simp [started?, separated, executable]
    · obtain ⟨name, finds, same⟩ := shape.resolve_left separated
      simp only [separated, false_or]
      rw [same]
      exact started_bare_iff files usual searchPath _ name rooted finds

-- Two compilers of one name: one in the working directory, and one where a system looks by itself.
def twins : FileTree where
  entries := [([Path.ofString "cc"], .file 0o755 [1]), ([Path.ofString "bin"], .directory),
    ([Path.ofString "bin", Path.ofString "cc"], .file 0o755 [2])]
  working := []

theorem twin_located :
    FileTree.locate twins (Path.ofString "cc") = .ok [Path.ofString "cc"] := by
  apply FileTree.locate_walked twins _ [Path.ofString "cc"] _ (by decide) (by decide)
  simp +decide [FileTree.walk, FileTree.entry?, twins]

theorem twin_found (searchPath : Option Octets) (listed : directories searchPath = [[]]) :
    discover twins searchPath none [] = .ok ⟨Path.ofString "cc", []⟩ := by
  have holds : Holds twins "cc" [] := by
    rw [Holds, Path.join_nothing, FileTree.isExecutable, twin_located]
    decide
  have finds : FindsBare twins searchPath candidates "cc" := by
    refine ⟨by decide, ⟨[], ["gcc", "clang"], rfl, ⟨[], ?_, holds⟩, by simp⟩, ?_⟩
    · simp [listed]
    · exact ⟨[], [], listed, holds, by simp⟩
  exact discover_bare twins searchPath none [] "cc" finds

theorem nameless_compiler_starts :
    let usual := [Path.ofString "/bin", Path.ofString "/usr/bin"]
    let toolchain : Toolchain := ⟨Path.ofString "cc", []⟩
    (∀ directory ∈ usual, directory.isAbsolute = true) ∧
      discover twins (some []) none [] = .ok toolchain ∧
      (∃ name, FindsBare twins (some []) ["cc", "gcc", "clang"] name) ∧
      started? twins usual (some []) toolchain.program = some toolchain.program ∧
      RunsOnly toolchain.program World.blank (compile (.steady .quiet 0) toolchain .memory
        ⟨"Main", "int x;"⟩ .empty World.blank).2.2 := by
  intro usual toolchain
  have rooted : ∀ directory ∈ usual, directory.isAbsolute = true := by decide
  have found : discover twins (some []) none [] = .ok toolchain := twin_found (some []) rfl
  obtain ⟨-, bare, started, runs⟩ := found_compiler_starts (.steady .quiet 0) twins usual (some [])
    none [] toolchain rooted found
  exact ⟨rooted, found, bare.mp (by decide), started.mpr (.inr (by simp)), runs _ _ _ _⟩

-- Without a search path the compiler of the working directory is found, and the other one starts.
theorem unset_path_starts_another :
    let usual := [Path.ofString "/bin", Path.ofString "/usr/bin"]
    let program := Path.ofString "cc"
    discover twins none none [] = .ok ⟨program, []⟩ ∧ Path.slash ∉ program ∧
      started? twins usual none program = some (Path.ofString "/bin/cc") ∧
      twins.read program = .ok [1] ∧ twins.read (Path.ofString "/bin/cc") = .ok [2] := by
  intro usual program
  have bare : Path.slash ∉ program := by decide
  have located : twins.locate (Path.ofString "/bin/cc") =
      .ok [Path.ofString "bin", Path.ofString "cc"] := by
    apply FileTree.locate_walked twins _ [Path.ofString "bin", Path.ofString "cc"] _ (by decide)
      (by decide)
    simp +decide [FileTree.walk, FileTree.entry?, twins, List.lookup_cons]
  have executable : twins.isExecutable (Path.ofString "/bin/cc") = true := by
    rw [FileTree.isExecutable, located]
    decide
  have tried : (startDirectories usual none).map (·.join program) =
      [Path.ofString "/bin/cc", Path.ofString "/usr/bin/cc"] := by decide
  refine ⟨twin_found none rfl, bare, ?_, ?_, ?_⟩
  · rw [started?, if_neg bare, tried, List.find?_cons_of_pos executable]
  · rw [FileTree.read, twin_located]
    decide
  · rw [FileTree.read, located]
    decide

end Toolchain
end Fragment
