import Fragment.Launch
import Fragment.Proofs.Files.ReadBack
import Fragment.Proofs.Skeleton
/-!
The name that the stages of a launch agree on. A launcher made from a configuration names its unit
after the entry point, whichever template it reads, so what it compiles lies in the store under the
name that the scope is asked for.
-/
namespace Fragment

theorem except_map_error_ok {ε ε' α : Type} {x : Except ε α} {f : ε → ε'} {a : α}
    (done : x.mapError f = .ok a) : x = .ok a := by
  cases x with
  | error fault => cases done
  | ok b =>
    cases done
    rfl

theorem skeleton_file_unit (files : FileTree) (unit : String) (path : Path) (skeleton : Skeleton)
    (made : Skeleton.ofFile files unit path = .ok skeleton) : skeleton.unit = unit := by
  unfold Skeleton.ofFile at made
  split at made
  · cases made
  · split at made
    · cases made
    · exact skeleton_parse_unit _ _ skeleton (except_map_error_ok made)

-- The one name that every later stage goes by: the template never sets it, the entry point does.
theorem of_config_unit (files : FileTree) (searchPath : Option Octets) (config : Config)
    (launcher : Launcher) (made : Launcher.ofConfig files searchPath config = .ok launcher) :
    launcher.skeleton.unit = launcher.entry.unit := by
  unfold Launcher.ofConfig at made
  obtain ⟨toolchain, -, made⟩ := except_bind_ok made
  obtain ⟨skeleton, read, made⟩ := except_bind_ok made
  cases made
  have read := except_map_error_ok read
  split at read
  · exact skeleton_file_unit _ _ _ skeleton read
  · exact skeleton_parse_unit _ _ skeleton (except_map_error_ok read)

theorem of_config_entry (files : FileTree) (searchPath : Option Octets) (config : Config)
    (launcher : Launcher) (made : Launcher.ofConfig files searchPath config = .ok launcher) :
    launcher.entry = config.entry := by
  unfold Launcher.ofConfig at made
  obtain ⟨toolchain, -, made⟩ := except_bind_ok made
  obtain ⟨skeleton, -, made⟩ := except_bind_ok made
  cases made
  rfl

-- Made from a configuration; the host's units are whatever the host has registered since.
def Launcher.Built (launcher : Launcher) : Prop :=
  ∃ files searchPath config base, Launcher.ofConfig files searchPath config = .ok base ∧
    launcher = { base with registry := launcher.registry }

theorem built_unit (launcher : Launcher) (built : launcher.Built) :
    launcher.skeleton.unit = launcher.entry.unit := by
  obtain ⟨files, searchPath, config, base, made, same⟩ := built
  rw [same]
  exact of_config_unit files searchPath config base made

-- Files among which there are a compiler and a template.
def FileTree.plain : FileTree where
  entries := [([Path.ofString "cc"], .file 0o755 []),
    ([Path.ofString "gap"], .file 0o644 (Octets.ofString "%s\n"))]
  working := []

def Config.plain : Config where
  compiler := some (Path.ofString "/cc")
  flags := []
  template := some (Path.ofString "/gap")
  entry := .default
  scratch := .memory

def Launcher.plain (registry : Registry) : Launcher :=
  ⟨⟨Path.ofString "/cc", []⟩, .memory, ⟨"Main", "", "\n"⟩, .default, registry⟩

theorem plain_discover (flags : List String) :
    Toolchain.discover .plain none Config.plain.compiler flags = .ok ⟨Path.ofString "/cc", flags⟩ := by
  have placed : FileTree.plain.place (Path.ofString "/cc") = .ok (.at [Path.ofString "cc"]) :=
    FileTree.walk_file .plain FileTree.linkLimit 0o755 (Path.ofString "cc") [] (by decide)
      (by decide) rfl
  have executable : FileTree.plain.isExecutable (Path.ofString "/cc") = true := by
    rw [FileTree.isExecutable, FileTree.locate, placed]
    rfl
  have named : Path.ofString (pathText (Path.ofString "/cc")) = Path.ofString "/cc" := rfl
  simp only [Config.plain, Toolchain.discover, Toolchain.searched, List.findSome?_cons, named,
    Toolchain.locate]
  rw [executable]
  rfl

theorem plain_skeleton (unit : String) :
    Skeleton.ofFile .plain unit (Path.ofString "/gap") = .ok ⟨unit, "", "\n"⟩ := by
  have placed : FileTree.plain.place (Path.ofString "/gap") = .ok (.at [Path.ofString "gap"]) :=
    FileTree.walk_file .plain FileTree.linkLimit 0o644 (Path.ofString "gap")
      (Octets.ofString "%s\n") (by decide) (by decide) rfl
  rw [Skeleton.ofFile, FileTree.read, FileTree.locate, placed]
  rfl

theorem configured_built (flags : List String) (mode : ScratchMode) (entry : EntryPoint)
    (registry : Registry) :
    Launcher.Built ⟨⟨Path.ofString "/cc", flags⟩, mode, ⟨entry.unit, "", "\n"⟩, entry, registry⟩ := by
  let config : Config := { Config.plain with flags, entry, scratch := mode }
  refine ⟨.plain, none, config,
    ⟨⟨Path.ofString "/cc", flags⟩, mode, ⟨entry.unit, "", "\n"⟩, entry, .empty⟩, ?_, rfl⟩
  have found : Toolchain.discover .plain none config.compiler config.flags = _ := plain_discover flags
  rw [Launcher.ofConfig, found]
  simp only [config, Config.plain]
  rw [plain_skeleton]
  rfl

theorem plain_built (registry : Registry) : (Launcher.plain registry).Built :=
  configured_built [] .memory .default registry

end Fragment
