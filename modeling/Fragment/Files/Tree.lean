import Fragment.Fault.Os
import Fragment.Files.Path
/-!
File trees: files, directories and symbolic links by location. A location is the list of names that
leads from the root to it. A path is walked name by name from the root or the working directory;
symbolic links are followed, up to a limit.
-/
namespace Fragment

abbrev Location := List Octets

inductive Entry where
  | file (mode : Nat) (content : Octets)
  | directory
  | link (target : Path)
deriving DecidableEq, Repr

-- Entries by location, and the working directory. The root is a directory without an entry.
structure FileTree where
  entries : List (Location × Entry)
  working : Location
deriving Repr

-- Where a walk ends: at an entry, or at a name that a directory lacks.
inductive Place where
  | at (location : Location)
  | vacant (location : Location)
deriving DecidableEq, Repr

namespace FileTree

def empty : FileTree := ⟨[], []⟩

def entry? (tree : FileTree) (location : Location) : Option Entry :=
  if location.isEmpty then some .directory else tree.entries.lookup location

def put (tree : FileTree) (location : Location) (entry : Entry) : FileTree :=
  { tree with entries := (location, entry) :: tree.entries.filter (·.1 != location) }

def remove (tree : FileTree) (location : Location) : FileTree :=
  { tree with entries := tree.entries.filter fun e => !location.isPrefixOf e.1 }

def isDirectory (tree : FileTree) (location : Location) : Bool :=
  tree.entry? location == some .directory

def nameLimit : Nat := 255
def pathLimit : Nat := 4095
def linkLimit : Nat := 40

-- The names to walk; a path that ends in a slash goes on into the directory that it names.
def walkNames (path : Path) : List Octets :=
  path.names ++ if path.endsInSlash then [Path.dot] else []

def walk (tree : FileTree) (links : Nat) (here : Location) (names : List Octets) :
    Except OsFault Place :=
  match names with
  | [] => .ok (.at here)
  | name :: rest =>
    if !tree.isDirectory here then .error .notADirectory
    else if name = Path.dot then walk tree links here rest
    else if name = Path.dotDot then walk tree links here.dropLast rest
    else if nameLimit < name.length then .error .nameTooLong
    else
      let next := here ++ [name]
      match tree.entry? next with
      | none => if rest.isEmpty then .ok (.vacant next) else .error .noSuchFile
      | some (.link target) =>
        match links with
        | 0 => .error .tooManyLinks
        | left + 1 =>
          if target.isEmpty then .error .noSuchFile
          else walk tree left (if target.isAbsolute then [] else here) (walkNames target ++ rest)
      | some _ => walk tree links next rest
termination_by (links, names.length)

def place (tree : FileTree) (path : Path) : Except OsFault Place :=
  match path.nulAt? with
  | some _ => .error .nulInFileName
  | none =>
    if path.isEmpty then .error .noSuchFile
    else if pathLimit < path.length then .error .nameTooLong
    else tree.walk linkLimit (if path.isAbsolute then [] else tree.working) (walkNames path)

def locate (tree : FileTree) (path : Path) : Except OsFault Location := do
  match ← tree.place path with
  | .at location => return location
  | .vacant _ => throw .noSuchFile

def read (tree : FileTree) (path : Path) : Except OsFault Octets := do
  match tree.entry? (← tree.locate path) with
  | some (.file _ content) => return content
  | some .directory => throw .isADirectory
  | _ => throw .noSuchFile

def isExecutable (tree : FileTree) (path : Path) : Bool :=
  match tree.locate path with
  | .error _ => false
  | .ok location => match tree.entry? location with
    | some (.file mode _) => mode &&& 0o111 != 0
    | _ => false

def target (tree : FileTree) (path : Path) : Except OsFault (Location × Nat) := do
  match ← tree.place path with
  | .vacant location => return (location, 0o644)
  | .at location => match tree.entry? location with
    | some (.file mode _) => return (location, mode)
    | _ => throw .isADirectory

def write (tree : FileTree) (path : Path) (content : Octets) : Except OsFault FileTree := do
  let plain := if path.endsInSlash then path.dropLast else path
  let (location, mode) ← tree.target plain
  if path.endsInSlash then throw .isADirectory
  return tree.put location (.file mode content)

def addDirectory (tree : FileTree) (location : Location) : FileTree :=
  (List.range location.length).foldl
    (fun tree n =>
      let above := location.take (n + 1)
      if (tree.entry? above).isSome then tree else tree.put above .directory)
    tree

-- Puts an entry at a path from the working directory, making the directories above it.
def add (tree : FileTree) (path : Path) (entry : Entry) : FileTree :=
  let location := tree.working ++ path.names.filter (· != Path.dot)
  match entry with
  | .directory => tree.addDirectory location
  | _ =>
    let tree := tree.addDirectory location.dropLast
    match tree.place path with
    | .ok (.at place) | .ok (.vacant place) => tree.put place entry
    | .error _ => tree

end FileTree
end Fragment
