import Fragment.Text.Octets
import Fragment.Program.Type
/-!
Programs in the form in which they run: every conversion is written out, every place is an address,
and every name is that of a function or of an object that lives as long as its library.
-/
namespace Fragment.Program

inductive Op where
  | add | sub | mul | div | rem
  | shiftLeft | shiftRight
  | and | or | xor
  | equal | unequal | less | lessEqual | greater | greaterEqual
deriving DecidableEq, Repr, Inhabited

namespace Op

def isComparison : Op → Bool
  | .equal | .unequal | .less | .lessEqual | .greater | .greaterEqual => true
  | _ => false

def bitwise (size : Nat) (f : Nat → Nat → Nat) (a b : Int) : Int :=
  f (a % (Nat.pow 2 (8 * size) : Nat)).toNat (b % (Nat.pow 2 (8 * size) : Nat)).toNat

-- The result of an operation on two integers of the shape. Dividing by zero, or so that the
-- result does not fit, has none.
def result? (op : Op) (shape : Shape) (a b : Int) : Option Int :=
  let truth (p : Bool) : Option Int := some (if p then 1 else 0)
  let fits (n : Int) : Option Int := if shape.wrap n = n then some n else none
  match op with
  | .add => some (shape.wrap (a + b))
  | .sub => some (shape.wrap (a - b))
  | .mul => some (shape.wrap (a * b))
  | .div => if b = 0 then none else fits (a.tdiv b)
  | .rem => if b = 0 then none else (fits (a.tdiv b)).map fun _ => a.tmod b
  | .shiftLeft => some (shape.wrap (a * (Nat.pow 2 (b % (8 * shape.size)).toNat : Nat)))
  | .shiftRight => some (a / (Nat.pow 2 (b % (8 * shape.size)).toNat : Nat))
  | .and => some (shape.wrap (bitwise shape.size (· &&& ·) a b))
  | .or => some (shape.wrap (bitwise shape.size (· ||| ·) a b))
  | .xor => some (shape.wrap (bitwise shape.size (· ^^^ ·) a b))
  | .equal => truth (a == b)
  | .unequal => truth (a != b)
  | .less => truth (a < b)
  | .lessEqual => truth (a ≤ b)
  | .greater => truth (a > b)
  | .greaterEqual => truth (a ≥ b)

def applyReal (op : Op) (a b : Float) : Float ⊕ Bool :=
  match op with
  | .add => .inl (a + b)
  | .sub => .inl (a - b)
  | .mul => .inl (a * b)
  | .div => .inl (a / b)
  | .equal => .inr (a == b)
  | .unequal => .inr (a != b)
  | .less => .inr (a < b)
  | .lessEqual => .inr (a <= b)
  | .greater => .inr (b < a)
  | .greaterEqual => .inr (b <= a)
  | _ => .inl a

end Op

inductive Code where
  | integer (n : Int)
  | real (x : Float)
  -- The address of the place of a variable in the frame of the call, or `outer` calls further
  -- out in the text.
  | frame (outer offset : Nat)
  | symbol (name : String)
  -- A function that is defined inside another, `outer` functions further out.
  | inner (name : String) (outer : Nat)
  | text (index : Nat)
  | slots
  | load (shape : Shape) (address : Code)
  | store (shape : Shape) (address value : Code)
  | clear (size : Nat) (address : Code)
  | convert (shape : Shape) (value : Code)
  | compute (op : Op) (shape : Shape) (left right : Code)
  | both (left right : Code)
  | either (left right : Code)
  | choose (test yes no : Code)
  | sequence (first second : Code)
  | call (function : Code) (arguments : List (Shape × Code)) (result : Shape)
deriving Inhabited

inductive Statement where
  | act (code : Code)
  | block (statements : List Statement)
  | choose (test : Code) (yes no : Statement)
  -- A loop; its test comes before the body, or only before each repetition.
  | loop (testFirst : Bool) (test step : Code) (body : Statement)
  | select (value : Code) (labels : List (Int × Nat)) (other : Option Nat) (body : Statement)
  | label (n : Nat)
  | jump (n : Nat)
  | leave
  | again
  | give (value : Option Code)
deriving Inhabited

namespace Statement

def skip : Statement := .block []

def holds (n : Nat) : Statement → Bool
  | .label m => n == m
  | .block statements => anyHolds n statements
  | .choose _ yes no => holds n yes || holds n no
  | .loop _ _ _ body => holds n body
  | .select _ _ _ body => holds n body
  | _ => false
where
  anyHolds (n : Nat) : List Statement → Bool
    | [] => false
    | s :: rest => holds n s || anyHolds n rest

end Statement

structure Routine where
  name : String
  frameSize : Nat
  parameters : List (Nat × Shape)
  result : Shape
  body : Statement
deriving Inhabited

structure Datum where
  name : String
  size : Nat
  content : List Code
deriving Inhabited

structure Image where
  routines : List Routine
  data : List Datum
  texts : Array Octets
  -- Names that other libraries, and who loads this one, can look up.
  exported : List String
  -- The names under which others look up what has another name in its own text.
  linkNames : List (String × String)
  constructors : List String
  destructors : List String
  needed : List String
deriving Inhabited

def Image.linkName (image : Image) (name : String) : String :=
  (image.linkNames.lookup name).getD name

namespace Code

def constant? : Code → Option Int
  | .integer n => some n
  | .convert shape value => match shape with
    | .integer .. | .truth => (constant? value).map shape.wrap
    | _ => none
  | .compute op shape left right => match constant? left, constant? right with
    | some a, some b => match shape with
      | .integer .. => op.result? shape a b
      | _ => none
    | _, _ => none
  | .both left right => match constant? left, constant? right with
    | some a, some b => some (if a != 0 && b != 0 then 1 else 0)
    | some 0, none => some 0
    | _, _ => none
  | .either left right => match constant? left, constant? right with
    | some a, some b => some (if a != 0 || b != 0 then 1 else 0)
    | some a, none => if a != 0 then some 1 else none
    | _, _ => none
  | .choose test yes no => match constant? test with
    | some t => if t != 0 then constant? yes else constant? no
    | none => none
  | _ => none

def acts : Code → Bool
  | .store .. | .call .. => true
  | .load _ a | .convert _ a => acts a
  | .clear .. => true
  | .compute _ _ a b | .both a b | .either a b | .sequence a b => acts a || acts b
  | .choose a b c => acts a || acts b || acts c
  | _ => false

def isStatic : Code → Bool
  | .integer _ | .real _ | .symbol _ | .text _ => true
  | .convert _ value => isStatic value
  | .compute _ _ left right => isStatic left && isStatic right
  | .both left right | .either left right => isStatic left && isStatic right
  | .choose test yes no => isStatic test && isStatic yes && isStatic no
  | _ => false

end Code
end Fragment.Program
