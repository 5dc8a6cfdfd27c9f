import Fragment.Text.Octets
/-!
Paths: octets with slashes between names. A path is absolute if it starts with a slash; joining an
absolute path to another replaces it.
-/
namespace Fragment

abbrev Path := Octets

namespace Path

def slash : UInt8 := 47

def ofString (text : String) : Path := Octets.ofString text

def dot : Path := [46]

def dotDot : Path := [46, 46]

-- The stretches between separators, empty ones included; there is always one.
def splitAt (separator : UInt8) : Octets → List Octets
  | [] => [[]]
  | o :: rest =>
    if o = separator then [] :: splitAt separator rest
    else match splitAt separator rest with
      | [] => [[o]]
      | part :: parts => (o :: part) :: parts

def isAbsolute (path : Path) : Bool := path.head? == some slash

def endsInSlash (path : Path) : Bool := path.getLast? == some slash

def names (path : Path) : List Octets := (splitAt slash path).filter (!·.isEmpty)

def componentCount (path : Path) : Nat :=
  let count (names : List Octets) : Nat := names.countP (· != dot)
  if path.isAbsolute then 1 + count path.names
  else match path.names with
    | [] => 0
    | _ :: rest => 1 + count rest

def join (directory name : Path) : Path :=
  if name.isAbsolute then name
  else if directory.isEmpty || directory.endsInSlash then directory ++ name
  else directory ++ slash :: name

end Path
end Fragment
