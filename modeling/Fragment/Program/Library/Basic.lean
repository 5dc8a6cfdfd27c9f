import Fragment.Program.Format
/-!
What functions of the standard library are here: actions on the values that they are called with.
-/
namespace Fragment.Program.Library

abbrev Caller := Nat → List Value → Act Value

abbrev Function := Caller → List Value → Act Value

abbrev Functions := List (String × Function)

def argument (values : List Value) (n : Nat) : Value := values.getD n .zero

def address (values : List Value) (n : Nat) : Nat := (argument values n).toNat

def integer (values : List Value) (n : Nat) : Int := (argument values n).toInt

def text (values : List Value) (n : Nat) : Act Octets := Act.readText (address values n)

def answer (n : Int) : Act Value := return .integer n

def answerNat (n : Nat) : Act Value := return .integer n

def answerTruth (b : Bool) : Act Value := return .integer (if b then 1 else 0)

def plain (f : List Value → Act Value) : Function := fun _ values => f values

def slotsAt (first : Nat) : Act (List Value) := do
  match (← Act.machine).memory.behind first with
  | none => return []
  | some (content, offset) =>
    let count := (content.size - offset) / 8
    let rec go : Nat → Nat → Act (List Value)
      | 0, _ => return []
      | n + 1, place => do
        let v ← Act.load (.integer 8 true) place
        return v :: (← go n (place + 8))
    go count first

end Fragment.Program.Library
