import Fragment.Fault.Basic
import Fragment.Files.Path
/-!
Object files: what a dynamic loader checks before it takes octets for a library. An object of this
library is a header and a payload behind it.
-/
namespace Fragment.Object

def identity : Octets := [0x7F, 0x45, 0x4C, 0x46, 2, 1, 1, 0, 0, 0, 0, 0, 0, 0, 0, 0]

def headerSize : Nat := 64

def magic : Octets := identity.take 4

def header : Octets :=
  identity ++ [3, 0, 62, 0, 1, 0, 0, 0] ++ List.replicate 28 0 ++ [64, 0, 56, 0] ++
    List.replicate 8 0

def mark : Octets := Octets.ofString "fragment\n"

def unlinked : Octets := header.set 16 1

def write (payload : Octets) : Octets := header ++ mark ++ payload

def octetAt (content : Octets) (n : Nat) : Nat := (content[n]?.getD 0).toNat

-- What a loader finds wrong with the header, if anything, in the order of its checks.
def headerFault? (content : Octets) : Option String :=
  let octet := octetAt content
  if content.length < headerSize then some "file too short"
  else if content.take 4 ≠ magic then some "invalid ELF header"
  else if octet 4 ≠ 2 then
    some (if octet 4 = 1 then "wrong ELF class: ELFCLASS32" else "invalid ELF header")
  else if octet 5 ≠ 1 then some "ELF file data encoding not little-endian"
  else if octet 6 ≠ 1 then some "ELF file version ident does not match current one"
  else if octet 7 ≠ 0 ∧ octet 7 ≠ 3 then some "ELF file OS ABI invalid"
  else if (content.drop 9).take 7 ≠ List.replicate 7 0 then some "nonzero padding in e_ident"
  else if (content.drop 20).take 4 ≠ [1, 0, 0, 0] then
    some "ELF file version does not match current one"
  else if octet 18 ≠ 62 ∨ octet 19 ≠ 0 then
    some "cannot open shared object file: No such file or directory"
  else if octet 17 ≠ 0 ∨ octet 16 ≠ 3 ∧ octet 16 ≠ 2 then
    some "only ET_DYN and ET_EXEC can be loaded"
  else if (content.drop 54).take 2 ≠ [56, 0] then
    some "ELF file's phentsize not the expected size"
  else none

def payload? (content : Octets) : Option Octets :=
  let body := content.drop headerSize
  if content.take headerSize = header ∧ body.take mark.length = mark then
    some (body.drop mark.length)
  else none

def read (path : Path) (content : Octets) : Except LibraryFault Octets :=
  let refuse (text : String) := .error (.refused (pathText path ++ ": " ++ text))
  match headerFault? content with
  | some text => refuse text
  | none => match payload? content with
    | some payload => .ok payload
    | none => refuse "object file has no loadable segments"

end Fragment.Object
