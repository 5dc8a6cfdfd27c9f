import Fragment.Program.Expression
/-!
Initial values. The braces are read first, into a tree; then its values are dealt out to the parts of
the object, where inner braces may be left out.
-/
namespace Fragment.Program

inductive Designator where
  | member (name : String) (spot : Spot)
  | index (n : Nat) (spot : Spot)
deriving Inhabited

inductive Initial where
  | single (e : Typed)
  | list (items : List (List Designator × Initial)) (spot : Spot)
deriving Inhabited

def Initial.spot : Initial → Spot
  | .single e => e.spot
  | .list _ spot => spot

abbrev Item := List Designator × Initial

structure Piece where
  offset : Nat
  ty : Ty
  value : Typed

namespace Read

-- A name and a colon, which stand for a point, the name and an equals sign.
def namesMember : Read Bool := do
  return (← peek).any (·.kind == .word) && (← peekSecond).any (·.isMark ":")

def designators (nested : Nested) : Nat → List Designator → Read (List Designator)
  | 0, done => return done.reverse
  | fuel + 1, done => do
    if ← accept "." then
      match ← peek with
      | some t =>
        if t.kind == .word then
          advance
          designators nested fuel (.member t.spelling t.spot :: done)
        else
          refuse "expected identifier"
          return done.reverse
      | none =>
        refuse "expected identifier"
        return done.reverse
    else if ← accept "[" then
      let e ← nested.conditional
      requireSkipping "]"
      match e.code.constant? with
      | some n =>
        if n < 0 then complain e.spot "array index in initializer exceeds array bounds"
        designators nested fuel (.index n.toNat e.spot :: done)
      | none =>
        if !e.ty.isUnknown then complain e.spot "nonconstant array index in initializer"
        designators nested fuel (.index 0 e.spot :: done)
    else return done.reverse

mutual

def initialTree (nested : Nested) : Nat → Read Initial
  | 0 => return .list [] default
  | depth + 1 => do
    let start ← spot
    if ← accept "\x7b" then
      return .list (← initialItems nested depth ((← get).tokens.length + 1) []) start
    else return .single (← nested.assignment)

def initialItems (nested : Nested) (depth : Nat) : Nat → List Item → Read (List Item)
  | 0, done => return done.reverse
  | fuel + 1, done => do
    if ← accept "\x7d" then return done.reverse
    else
      let path ← if ← namesMember then
          let t ← peek
          advance
          advance
          pure (t.toList.map fun t => Designator.member t.spelling t.spot)
        else
          let path ← designators nested ((← get).tokens.length + 1) []
          if !path.isEmpty then
            let _ ← require "="
          pure path
      let tree ← initialTree nested depth
      let done := (path, tree) :: done
      if ← accept "," then initialItems nested depth fuel done
      else
        if !(← accept "\x7d") then
          refuse "expected '\x7d'"
          skipTo "\x7d" ((← get).tokens.length + 1) 0
        return done.reverse

end

def isTextFor (ty : Ty) (tree : Initial) : Bool :=
  match ty.plain, tree with
  | .array element _, .single e => match e.code, element.plain with
    | .text _, .integer .char _ => e.isPlace
    | _, _ => false
  | _, _ => false

def elementCount (ty : Ty) : Option Nat :=
  match ty.plain with
  | .array _ count => count
  | _ => none

def textPieces (ty : Ty) (offset : Nat) (e : Typed) : Read (List Piece × Nat) := do
  match e.code with
  | .text index =>
    let octets := ((← get).texts[index]?).getD []
    let kept := match elementCount ty with
      | some n => octets.take n
      | none => octets
    if kept.length + 1 < octets.length then
      warn "" e.spot "initializer-string for array of 'char' is too long"
    let pieces := kept.mapIdx fun i o =>
      Piece.mk (offset + i) .char (.int (Int.bmod o.toNat 256) e.spot)
    return (pieces, octets.length)
  | _ => return ([], 0)

def part? (records : Records) (ty : Ty) (i : Nat) : Option (Ty × Nat) :=
  match ty.plain with
  | .array element count =>
    let within : Bool := match count with
      | some n => i < n
      | none => true
    if within then some (element, i * (element.size? records).getD 0) else none
  | .record id =>
    match records[id]? with
    | some r =>
      match r.members with
      | some members =>
        if r.isUnion && i != 0 then none else members[i]?.map fun m => (m.ty, m.offset)
      | none => none
    | none => none
  | _ => none

def partIndex? (records : Records) (ty : Ty) (d : Designator) : Option (Nat × Option (Ty × Nat)) :=
  match d, ty.plain with
  | .index n _, .array .. => some (n, none)
  | .member name _, .record id => do
    let r ← records[id]?
    let members ← r.members
    let n ← members.findIdx? (·.name == name)
    let m ← members[n]?
    return (n, some (m.ty, m.offset))
  | _, _ => none

mutual

-- Deals out one value, or one list, to a part. What it leaves of the items goes to the next
-- one.
def dealOne (ty : Ty) (offset : Nat) : Nat → List Item → Read (List Piece × List Item)
  | 0, items => return ([], items.tail)
  | _ + 1, [] => return ([], [])
  | fuel + 1, (_, tree) :: rest => do
    let records := (← get).records
    if isTextFor ty tree then
      match tree with
      | .single e => return ((← textPieces ty offset e).1, rest)
      | _ => return ([], rest)
    else match tree with
      | .list items spot =>
        if ty.isArray || ty.isRecord then return ((← dealAll ty offset true fuel 0 items).1, rest)
        else match items with
          | (_, .single e) :: _ => return ([⟨offset, ty, e⟩], rest)
          | [] =>
            complain spot "empty scalar initializer"
            return ([], rest)
          | _ => return ([], rest)
      | .single e =>
        if ty.isArray || ty.isRecord && !(ty.agrees e.ty) then
          let first := ([], tree) :: rest
          if (part? records ty 0).isSome then
            let (pieces, left, _) ← dealAll ty offset false fuel 0 first
            return (pieces, if left.length < first.length then left else rest)
          else return ([], rest)
        else return ([⟨offset, ty, e⟩], rest)

-- Deals out items to the parts from the given one on. Without braces of its own it ends where
-- the parts do, or at a designator. The last number is how many parts there are at least.
def dealAll (ty : Ty) (offset : Nat) (braced : Bool) : Nat → Nat → List Item →
    Read (List Piece × List Item × Nat)
  | 0, i, items => return ([], items, i)
  | _ + 1, i, [] => return ([], [], i)
  | fuel + 1, i, (path, tree) :: rest => do
    let records := (← get).records
    match path with
    | d :: more =>
      if !braced then return ([], (path, tree) :: rest, i)
      else match partIndex? records ty d with
        | none =>
          match d with
          | .member name spot => complain spot ("unknown field '" ++ name ++ "' in initializer")
          | .index .. => pure ()
          dealAll ty offset braced fuel i rest
        | some (n, member) =>
          match member.or (part? records ty n) with
          | none =>
            match d with
            | .index _ spot => complain spot "array index in initializer exceeds array bounds"
            | .member .. => pure ()
            dealAll ty offset braced fuel i rest
          | some (inner, place) =>
            let (pieces, left) ← if more.isEmpty then
                dealOne inner (offset + place) fuel (([], tree) :: rest)
              else
                let (pieces, _, _) ← dealAll inner (offset + place) true fuel 0 [(more, tree)]
                pure (pieces, rest)
            let (others, left, count) ← dealAll ty offset braced fuel (n + 1) left
            return (pieces ++ others, left, max (n + 1) count)
    | [] =>
      match part? records ty i with
      | none =>
        if braced then
          warn "" (Initial.spot tree) "excess elements in initializer"
          dealAll ty offset braced fuel i rest
        else return ([], ([], tree) :: rest, i)
      | some (inner, place) =>
        let (pieces, left) ← dealOne inner (offset + place) fuel (([], tree) :: rest)
        let (others, left, count) ← dealAll ty offset braced fuel (i + 1) left
        return (pieces ++ others, left, max (i + 1) count)

end

def Initial.weight : Initial → Nat
  | .single _ => 1
  | .list items _ => 1 + weights items
where
  weights : List Item → Nat
    | [] => 0
    | (_, tree) :: rest => weight tree + 1 + weights rest

def storePieces : List Piece → Read (List (Nat × Shape × Code))
  | [] => return []
  | p :: rest => do
    let code ← assignCode p.ty p.value "initialization"
    let shape ← shapeOf p.ty
    return (p.offset, shape, code) :: (← storePieces rest)

def unbraced (ty : Ty) (tree : Initial) : Initial :=
  match tree with
  | .list [(_, .single e)] _ => if isTextFor ty (.single e) then .single e else tree
  | _ => tree

def initial (nested : Nested) (ty : Ty) : Read (Ty × (Code → List Code)) := do
  let start ← spot
  let tree ← initialTree nested 200
  let fuel := 64 * (Initial.weight tree + 4)
  let unsized := ty.isArray && (elementCount ty).isNone
  let withCount (n : Nat) : Ty :=
    match ty.plain with
    | .array element none => .array element (some n)
    | _ => ty
  let (ty, pieces) ← match unbraced ty tree with
    | .list items spot =>
      if ty.isArray || ty.isRecord then
        let (pieces, _, count) ← dealAll ty 0 true fuel 0 items
        pure (if unsized then withCount count else ty, pieces)
      else pure (ty, (← dealOne ty 0 fuel [([], .list items spot)]).1)
    | .single e =>
      if isTextFor ty (.single e) then
        let (pieces, length) ← textPieces ty 0 e
        pure (if unsized then withCount length else ty, pieces)
      else if ty.isArray || ty.isRecord && !ty.agrees e.ty then
        if !e.ty.isUnknown then complain start "invalid initializer"
        pure (if unsized then withCount 1 else ty, [])
      else pure (ty, [⟨0, ty, e⟩])
  let stores ← storePieces pieces
  let behind (address : Code) (offset : Nat) : Code :=
    if offset = 0 then address else .compute .add .address address (.integer offset)
  return (ty, fun address => stores.map fun (offset, shape, code) =>
    .store shape (behind address offset) code)

end Read
end Fragment.Program
