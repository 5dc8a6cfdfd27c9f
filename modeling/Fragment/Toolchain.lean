import Fragment.Fault.Basic
import Fragment.Files.Tree
/-!
Toolchains: a compiler program and the flags it is given, and the search for one. The search goes
by candidate first and by directory of the search path second; a name of more than one component
is not searched for.
-/
namespace Fragment

structure Toolchain where
  program : Path
  flags : List String
deriving DecidableEq, Repr

namespace Toolchain

def candidates : List String := ["cc", "gcc", "clang"]

def directories (searchPath : Option Octets) : List Path :=
  Path.splitAt 58 (searchPath.getD [])

def locate (files : FileTree) (directories : List Path) (name : Path) : Option Path :=
  if 1 < name.componentCount then
    if files.isExecutable name then some name else none
  else (directories.map (·.join name)).find? files.isExecutable

def searched (compiler : Option Path) : List String :=
  match compiler with
  | some compiler => [pathText compiler]
  | none => candidates

def discover (files : FileTree) (searchPath : Option Octets) (compiler : Option Path)
    (flags : List String) : Except ToolchainFault Toolchain :=
  match (searched compiler).findSome? fun name =>
      locate files (directories searchPath) (Path.ofString name) with
  | some program => .ok ⟨program, flags⟩
  | none => .error (.unavailable (searched compiler))

end Toolchain

def Skeleton.ofFile (files : FileTree) (unit : String) (path : Path) :
    Except ConfigFault Skeleton :=
  match files.read path with
  | .error cause => .error (.templateUnreadable path cause)
  | .ok content => match Utf8.decode? content with
    | none => .error (.templateUnreadable path .notUtf8)
    | some template => (Skeleton.parse unit template).mapError .template

end Fragment
