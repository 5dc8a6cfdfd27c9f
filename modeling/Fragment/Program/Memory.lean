import Fragment.Program.Code
/-!
Memory: blocks of octets that are numbered and never reused. An address is the number of a block and
an offset in it, so that no access can go from one block to another, and address zero is in none.
-/
namespace Fragment.Program

inductive Value where
  | integer (n : Int)
  | real (x : Float)
  | block (octets : Octets)
deriving Inhabited

namespace Value

def zero : Value := .integer 0

def toInt : Value → Int
  | .integer n => n
  | .real x => if x < 0 then x.toInt64.toInt else x.toUInt64.toNat
  | .block _ => 0

def toNat (v : Value) : Nat := (v.toInt % (Nat.pow 2 64 : Nat)).toNat

def toReal : Value → Float
  | .integer n => Float.ofInt n
  | .real x => x
  | .block _ => 0

def isTrue : Value → Bool
  | .integer n => n != 0
  | .real x => x != 0
  | .block _ => false

def convert (shape : Shape) (v : Value) : Value :=
  match shape with
  | .integer .. => match v with
    | .integer n => .integer (shape.wrap n)
    | .real x =>
      if x.isNaN then .integer (shape.wrap (-(Nat.pow 2 63 : Nat))) else .integer (shape.wrap (Value.real x).toInt)
    | v => v
  | .truth => .integer (if v.isTrue then 1 else 0)
  | .real true => .real v.toReal
  | .real false => .real v.toReal.toFloat32.toFloat
  | _ => v

end Value

def littleEndian : Nat → Nat → Octets
  | 0, _ => []
  | size + 1, n => UInt8.ofNat n :: littleEndian size (n / 256)

def ofLittleEndian : Octets → Nat
  | [] => 0
  | o :: rest => o.toNat + 256 * ofLittleEndian rest

namespace Shape

def encode (shape : Shape) (v : Value) : Octets :=
  match shape with
  | .integer size _ => littleEndian size (v.toInt % (Nat.pow 2 (8 * size) : Nat)).toNat
  | .truth => [if v.isTrue then 1 else 0]
  | .real true => littleEndian 8 v.toReal.toBits.toNat
  | .real false => littleEndian 4 v.toReal.toFloat32.toBits.toNat
  | .block size => match v with
    | .block octets => octets.take size
    | _ => []
  | .nothing => []

def decode (shape : Shape) (octets : Octets) : Value :=
  match shape with
  | .integer .. => .integer (shape.wrap (ofLittleEndian octets))
  | .truth => .integer (if ofLittleEndian octets = 0 then 0 else 1)
  | .real true => .real (Float.ofBits (ofLittleEndian octets).toUInt64)
  | .real false => .real (Float32.ofBits (ofLittleEndian octets).toUInt32).toFloat
  | .block _ => .block octets
  | .nothing => .zero

end Shape

inductive Block where
  | octets (content : Array UInt8)
  | routine (library : Nat) (name : String) (frames : List Nat)
  | standard (name : String)
  | stream (number : Nat)
  | gone
deriving Inhabited

structure Memory where
  blocks : Array Block
deriving Inhabited

namespace Memory

def blockSize : Nat := Nat.pow 2 32

-- A memory in which only the first block is taken, by nothing.
def start : Memory := ⟨#[.gone]⟩

def block (m : Memory) (address : Nat) : Block := m.blocks.getD (address / blockSize) .gone

def offset (address : Nat) : Nat := address % blockSize

def add (m : Memory) (b : Block) : Nat × Memory :=
  (m.blocks.size * blockSize, ⟨m.blocks.push b⟩)

def allocate (m : Memory) (size : Nat) : Nat × Memory :=
  m.add (.octets (Array.replicate size 0))

def free (m : Memory) (address : Nat) : Memory :=
  ⟨m.blocks.setIfInBounds (address / blockSize) .gone⟩

def behind (m : Memory) (address : Nat) : Option (Array UInt8 × Nat) :=
  match m.block address with
  | .octets content => if offset address ≤ content.size then some (content, offset address) else none
  | _ => none

def read? (m : Memory) (address count : Nat) : Option Octets :=
  match m.behind address with
  | some (content, first) =>
    if first + count ≤ content.size then some (content.extract first (first + count)).toList else none
  | none => none

def readText? (m : Memory) (address : Nat) : Option Octets :=
  match m.behind address with
  | some (content, first) =>
    let octets := content.extract first content.size
    match octets.findIdx? (· == 0) with
    | some n => some (octets.extract 0 n).toList
    | none => none
  | none => none

def overwrite (content : Array UInt8) : Nat → Octets → Array UInt8
  | _, [] => content
  | first, o :: rest => overwrite (content.setIfInBounds first o) (first + 1) rest

def write? (m : Memory) (address : Nat) (octets : Octets) : Option Memory :=
  match m.behind address with
  | some (content, first) =>
    if first + octets.length ≤ content.size then
      some ⟨m.blocks.setIfInBounds (address / blockSize) (.octets (overwrite content first octets))⟩
    else none
  | none => none

end Memory
end Fragment.Program
