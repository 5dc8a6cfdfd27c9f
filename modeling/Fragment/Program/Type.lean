/-!
Types of objects and functions, and how their values lie in memory: integers of eight to sixty-four
bits in two's complement, with the lowest octet first, and pointers of sixty-four bits.
-/
namespace Fragment.Program

inductive Rank where
  | char
  | short
  | int
  | long
  | longLong
deriving DecidableEq, Repr, Inhabited

namespace Rank

def size : Rank → Nat
  | .char => 1
  | .short => 2
  | .int => 4
  | .long | .longLong => 8

def order : Rank → Nat
  | .char => 1
  | .short => 2
  | .int => 3
  | .long => 4
  | .longLong => 5

end Rank

inductive Ty where
  -- The type of what was refused; nothing more is said about it.
  | unknown
  | void
  | bool
  | integer (rank : Rank) (signed : Bool)
  | real (double : Bool)
  | pointer (target : Ty)
  | array (element : Ty) (count : Option Nat)
  -- Without `known` the parameters were not declared.
  | function (result : Ty) (parameters : List Ty) (variadic known : Bool)
  | record (id : Nat)
  | constant (ty : Ty)
deriving BEq, Repr, Inhabited

inductive Shape where
  | integer (size : Nat) (signed : Bool)
  | truth
  | real (double : Bool)
  | block (size : Nat)
  | nothing
deriving DecidableEq, Repr, Inhabited

namespace Shape

def size : Shape → Nat
  | .integer size _ => size
  | .truth => 1
  | .real double => if double then 8 else 4
  | .block size => size
  | .nothing => 0

def address : Shape := .integer 8 false

def wrap (shape : Shape) (n : Int) : Int :=
  match shape with
  | .integer size true => Int.bmod n (Nat.pow 2 (8 * size))
  | .integer size false => n % (Nat.pow 2 (8 * size) : Nat)
  | .truth => if n = 0 then 0 else 1
  | _ => n

end Shape

structure Member where
  name : String
  ty : Ty
  offset : Nat
deriving Repr, Inhabited

-- A structure or union. Its members are not known before its definition.
structure Record where
  tag : String
  isUnion : Bool
  members : Option (List Member)
  size : Nat
  align : Nat
deriving Repr, Inhabited

abbrev Records := Array Record

namespace Ty

def int : Ty := .integer .int true
def char : Ty := .integer .char true
def unsignedLong : Ty := .integer .long false
def long : Ty := .integer .long true
def text : Ty := .pointer char

def plain : Ty → Ty
  | .constant ty => plain ty
  | ty => ty

def isConstant : Ty → Bool
  | .constant _ => true
  | .array element _ => isConstant element
  | _ => false

def isUnknown (ty : Ty) : Bool :=
  match ty.plain with
  | .unknown => true
  | _ => false

def isInteger (ty : Ty) : Bool :=
  match ty.plain with
  | .integer .. | .bool => true
  | _ => false

def isReal (ty : Ty) : Bool :=
  match ty.plain with
  | .real _ => true
  | _ => false

def isArithmetic (ty : Ty) : Bool := ty.isInteger || ty.isReal

def isPointer (ty : Ty) : Bool :=
  match ty.plain with
  | .pointer _ => true
  | _ => false

def isScalar (ty : Ty) : Bool := ty.isArithmetic || ty.isPointer

def isVoid (ty : Ty) : Bool :=
  match ty.plain with
  | .void => true
  | _ => false

def isRecord (ty : Ty) : Bool :=
  match ty.plain with
  | .record _ => true
  | _ => false

def isArray (ty : Ty) : Bool :=
  match ty.plain with
  | .array .. => true
  | _ => false

def isFunction (ty : Ty) : Bool :=
  match ty.plain with
  | .function .. => true
  | _ => false

def target? (ty : Ty) : Option Ty :=
  match ty.plain with
  | .pointer target => some target
  | .array element _ => some element
  | _ => none

def size? (records : Records) : Ty → Option Nat
  | .unknown | .void | .function .. | .bool => some 1
  | .integer rank _ => some rank.size
  | .real double => some (if double then 8 else 4)
  | .pointer _ => some 8
  | .array element count => match count, size? records element with
    | some n, some size => some (n * size)
    | _, _ => none
  | .record id => match records[id]? with
    | some r => if r.members.isSome then some r.size else none
    | none => none
  | .constant ty => size? records ty

def align (records : Records) : Ty → Nat
  | .array element _ => align records element
  | .constant ty => align records ty
  | .record id => (records[id]?.map (·.align)).getD 1
  | ty => (size? records ty).getD 1

def shape (records : Records) (ty : Ty) : Shape :=
  match ty.plain with
  | .bool => .truth
  | .integer rank signed => .integer rank.size signed
  | .real double => .real double
  | .pointer _ => .address
  | .void | .unknown | .function .. => .nothing
  | ty => .block ((size? records ty).getD 0)

def promote (ty : Ty) : Ty :=
  match ty.plain with
  | .integer rank signed => if rank.order < Rank.int.order then int else .integer rank signed
  | .bool => int
  | ty => ty

def common (a b : Ty) : Ty :=
  match a.promote, b.promote with
  | .real x, .real y => .real (x || y)
  | .real x, _ => .real x
  | _, .real y => .real y
  | .integer r x, .integer s y =>
    if x = y then .integer (if r.order < s.order then s else r) x
    else
      let (signed, unsigned) := if x then (r, s) else (s, r)
      if signed.order ≤ unsigned.order then .integer unsigned false
      else if unsigned.size < signed.size then .integer signed true
      else .integer signed false
  | a, _ => a

def agrees : Ty → Ty → Bool
  | .constant a, b => agrees a b
  | a, .constant b => agrees a b
  | .unknown, _ | _, .unknown => true
  | .void, .void | .bool, .bool => true
  | .integer r x, .integer s y => r == s && x == y
  | .real x, .real y => x == y
  | .pointer a, .pointer b => agrees a b
  | .array a n, .array b m => agrees a b && (n.isNone || m.isNone || n == m)
  | .function a ps v k, .function b qs w l =>
    agrees a b && (!k || !l || v == w && agreeAll ps qs)
  | .record i, .record j => i == j
  | _, _ => false
where
  agreeAll : List Ty → List Ty → Bool
    | [], [] => true
    | p :: ps, q :: qs => agrees p q && agreeAll ps qs
    | _, _ => false

end Ty
end Fragment.Program
