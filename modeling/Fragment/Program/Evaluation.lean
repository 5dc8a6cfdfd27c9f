import Fragment.Program.Library.General
/-!
Running code. Expressions and statements are evaluated along their structure, calls to a bounded
depth. A jump is an outcome like any other: it passes outwards to a block that holds its label, which
is then entered there.
-/
namespace Fragment.Program

structure Frame where
  library : Nat
  base : Nat
  outer : List Nat
  slots : Nat

inductive Outcome where
  | next
  | leave
  | again
  | give (v : Value)
  | jump (label : Nat)
deriving Inhabited

namespace Act

def library? (n : Nat) : Act (Option Loaded) := return (← machine).libraries.lookup n

def symbol (library : Nat) (name : String) : Act Nat := do
  match (← library? library).bind (·.symbols[name]?) with
  | some address => return address
  | none => badAccess

-- The frames that a function sees which is defined in the `outer`-th function from here.
def frames (f : Frame) (outer : Nat) : List Nat := (f.base :: f.outer).drop outer

def computeReal (op : Op) (a b : Float) : Value :=
  match op.applyReal a b with
  | .inl x => .real x
  | .inr p => .integer (if p then 1 else 0)

mutual

def eval (call : Library.Caller) (f : Frame) : Code → Act Value
  | .integer n => return .integer n
  | .real x => return .real x
  | .frame outer offset => match (frames f outer).head? with
    | some base => return .integer (base + offset)
    | none => badAccess
  | .symbol name => do return .integer (← symbol f.library name)
  | .inner name outer => do return .integer (← addBlock (.routine f.library name (frames f outer)))
  | .text index => do
    match (← library? f.library).bind (·.texts[index]?) with
    | some address => return .integer address
    | none => badAccess
  | .slots => return .integer f.slots
  | .load shape address => do load shape (← eval call f address).toNat
  | .store shape address value => do
    let a := (← eval call f address).toNat
    let v ← eval call f value
    store shape a v
    return v
  | .clear size address => do
    let a := (← eval call f address).toNat
    writeOctets a (List.replicate size 0)
    return .integer a
  | .convert shape value => do return (← eval call f value).convert shape
  | .compute op shape left right => do
    let a ← eval call f left
    let b ← eval call f right
    match shape with
    | .real double =>
      let result := if op.isComparison then .integer 4 true else .real double
      return (computeReal op a.toReal b.toReal).convert result
    | _ => match op.result? shape a.toInt b.toInt with
      | some n => return .integer n
      | none => killed 8
  | .both left right => do
    if (← eval call f left).isTrue then
      return .integer (if (← eval call f right).isTrue then 1 else 0)
    else return .integer 0
  | .either left right => do
    if (← eval call f left).isTrue then return .integer 1
    else return .integer (if (← eval call f right).isTrue then 1 else 0)
  | .choose test yes no => do
    if (← eval call f test).isTrue then eval call f yes else eval call f no
  | .sequence first second => do
    let _ ← eval call f first
    eval call f second
  | .call function arguments result => do
    let a := (← eval call f function).toNat
    let values ← evalArguments call f arguments
    return (← call a values).convert result

def evalArguments (call : Library.Caller) (f : Frame) : List (Shape × Code) → Act (List Value)
  | [] => return []
  | (_, code) :: rest => do
    let others ← evalArguments call f rest
    return (← eval call f code) :: others

end

def repeatUntil (step : Act (Option Outcome)) : Nat → Act Outcome
  | 0 => killed 9
  | fuel + 1 => do
    match ← step with
    | some outcome => return outcome
    | none => repeatUntil step fuel

def repetitionLimit : Nat := Nat.pow 2 32

def afterBody (outcome : Outcome) : Option Outcome :=
  match outcome with
  | .next | .again => none
  | .leave => some .next
  | other => some other

mutual

def exec (call : Library.Caller) (f : Frame) (entry : Option Nat) : Statement → Act Outcome
  | .act code => do
    if entry.isNone then
      let _ ← eval call f code
    return .next
  | .block statements => execAll call f entry statements
  | .choose test yes no => do
    match entry with
    | some label => if yes.holds label then exec call f entry yes else exec call f entry no
    | none =>
      if (← eval call f test).isTrue then exec call f none yes else exec call f none no
  | .loop testFirst test step body => do
    let rest : Act (Option Outcome) := do
      let _ ← eval call f step
      if (← eval call f test).isTrue then return afterBody (← exec call f none body)
      else return some .next
    let first : Act (Option Outcome) := do
      if entry.isSome || !testFirst then return afterBody (← exec call f entry body)
      else if (← eval call f test).isTrue then return afterBody (← exec call f none body)
      else return some .next
    match ← first with
    | some outcome => return outcome
    | none => repeatUntil rest repetitionLimit
  | .select value labels other body => do
    let inside (label : Nat) : Act Outcome := do
      match ← exec call f (some label) body with
      | .leave => return .next
      | outcome => return outcome
    match entry with
    | some label => inside label
    | none =>
      let n := (← eval call f value).toInt
      match labels.lookup n, other with
      | some label, _ => inside label
      | none, some label => inside label
      | none, none => return .next
  | .label _ => return .next
  | .jump n => return if entry.isNone then .jump n else .next
  | .leave => return if entry.isNone then .leave else .next
  | .again => return if entry.isNone then .again else .next
  | .give value => do
    match entry, value with
    | some _, _ => return .next
    | none, some code => return .give (← eval call f code)
    | none, none => return .give .zero

def execAll (call : Library.Caller) (f : Frame) (entry : Option Nat) :
    List Statement → Act Outcome
  | [] => return .next
  | s :: rest => do
    match entry with
    | some label =>
      if s.holds label then
        match ← exec call f entry s with
        | .next => execAll call f none rest
        | outcome => return outcome
      else execAll call f entry rest
    | none =>
      match ← exec call f none s with
      | .next => execAll call f none rest
      | outcome => return outcome

end

def execBody (call : Library.Caller) (f : Frame) (body : Statement) : Nat → Option Nat → Act Value
  | 0, _ => killed 9
  | fuel + 1, entry => do
    match ← exec call f entry body with
    | .give v => return v
    | .jump label => execBody call f body fuel (some label)
    | _ => return .zero

-- Puts the arguments into the places of the parameters. The others are left over.
def passTo (base : Nat) : List (Nat × Shape) → List Value → Act (List Value)
  | [], values => return values
  | (offset, shape) :: rest, values => do
    let (v, others) := match values with
      | v :: others => (v, others)
      | [] => (.zero, [])
    store shape (base + offset) v
    passTo base rest others

def slotOctets : Value → Octets
  | .integer n => littleEndian 8 (n % (Nat.pow 2 64 : Nat)).toNat
  | .real x => littleEndian 8 x.toBits.toNat
  | .block octets => octets

def callRoutine (call : Library.Caller) (library : Nat) (r : Routine) (outer : List Nat)
    (values : List Value) : Act Value := do
  let base ← allocate r.frameSize
  let others ← passTo base r.parameters values
  let slots ← if others.isEmpty then pure 0 else allocateWith (others.flatMap slotOctets)
  let v ← execBody call ⟨library, base, outer, slots⟩ r.body repetitionLimit none
  free base
  return v.convert r.result

def call : Nat → Nat → List Value → Act Value
  | 0, _, _ => badAccess
  | depth + 1, address, values => do
    if Memory.offset address != 0 then badAccess
    else match (← machine).memory.block address with
      | .routine library name outer =>
        match (← library? library).bind (·.routines[name]?) with
        | some r => callRoutine (call depth) library r outer values
        | none => badAccess
      | .standard name =>
        match Library.allFunctions.lookup name with
        | some function => function (call depth) values
        | none => badAccess
      | _ => badAccess

def depthLimit : Nat := 2000

def enter (library address : Nat) (values : List Value) : Act Value := do
  modifyMachine fun m => { m with current := library }
  call depthLimit address values

end Act
end Fragment.Program
