import Fragment.Program.Reading
/-!
Expressions with their types: how operands are converted, which operands an operator takes, and the
code that it becomes.
-/
namespace Fragment.Program

-- An expression. That of a place has the code of its address.
structure Typed where
  ty : Ty
  code : Code
  isPlace : Bool
  spot : Spot
  source : Option Nat
deriving Inhabited

namespace Typed

def unknown (spot : Spot) : Typed := ⟨.unknown, .integer 0, false, spot, none⟩

def value (ty : Ty) (code : Code) (spot : Spot) : Typed := ⟨ty, code, false, spot, none⟩

def int (n : Int) (spot : Spot) : Typed := value .int (.integer n) spot

def isNull (e : Typed) : Bool :=
  !e.isPlace && e.code.constant? == some 0 && (e.ty.isInteger || match e.ty.plain with
    | .pointer target => target.isVoid
    | _ => false)

end Typed

namespace Read

def sayUnset (id : Nat) (e : Typed) : Read Unit := do
  let s ← get
  let certain := s.bodies.head?.any fun b => !b.inLoop && b.labels.isEmpty
  if certain && e.ty.isScalar && s.unset.contains id then
    warn "uninitialized" e.spot "variable is used uninitialized"
    markSet id

def valueOf (e : Typed) : Read Typed := do
  match e.source with
  | some id =>
    markValued id
    sayUnset id e
  | none => pure ()
  if !e.isPlace then return { e with ty := e.ty.plain, source := none }
  else match e.ty.plain with
    | .function .. => return .value (.pointer e.ty.plain) e.code e.spot
    | .array element _ => return .value (.pointer element) e.code e.spot
    | ty => return .value ty (.load (ty.shape (← get).records) e.code) e.spot

def sizeOf (ty : Ty) : Read (Option Nat) := return ty.size? (← get).records

def shapeOf (ty : Ty) : Read Shape := return ty.shape (← get).records

def convertCode (wanted : Ty) (e : Typed) : Read Code := do
  let target ← shapeOf wanted
  let given ← shapeOf e.ty
  if target == given || target == .nothing then return e.code
  else match e.code, target with
    | .integer n, .integer .. => return .integer (target.wrap n)
    | code, _ => return .convert target code

def pointersAgree (wanted given : Ty) : Bool :=
  wanted.isVoid || given.isVoid || wanted.agrees given || match wanted.plain, given.plain with
    | .integer r _, .integer s _ => r == s
    | _, _ => false

def assignCode (wanted : Ty) (e : Typed) (words : String) : Read Code := do
  let e ← valueOf e
  let mismatch : Read Unit := complain e.spot ("incompatible types in " ++ words)
  if wanted.isUnknown || e.ty.isUnknown then return e.code
  else if e.ty.isVoid then
    complain e.spot "void value not ignored as it ought to be"
    return e.code
  else if wanted.isArithmetic && e.ty.isArithmetic then convertCode wanted e
  else match wanted.plain, e.ty.plain with
    | .bool, .pointer _ => convertCode wanted e
    | .pointer a, .pointer b =>
      if !pointersAgree a b && !e.isNull then
        warn "incompatible-pointer-types" e.spot (words ++ " from incompatible pointer type")
      else if b.isConstant && !a.isConstant then
        warn "discarded-qualifiers" e.spot (words ++ " discards 'const' qualifier")
      return e.code
    | .pointer _, _ =>
      if !e.ty.isInteger then mismatch
      else if !e.isNull then
        warn "int-conversion" e.spot (words ++ " makes pointer from integer without a cast")
      convertCode wanted e
    | .integer .., .pointer _ =>
      warn "int-conversion" e.spot (words ++ " makes integer from pointer without a cast")
      convertCode wanted e
    | .record i, .record j =>
      if i != j then mismatch
      return e.code
    | _, _ =>
      mismatch
      return e.code

def testCode (e : Typed) : Read Code := do
  let e ← valueOf e
  if e.ty.isUnknown then return .integer 0
  else if e.ty.isScalar then return e.code
  else
    complain e.spot (if e.ty.isVoid then "void value not ignored as it ought to be"
      else "used struct type value where scalar is required")
    return .integer 0

def offsetBy (pointer : Typed) (index : Typed) (back : Bool) (spot : Spot) : Read Typed := do
  let target := (pointer.ty.target?).getD .char
  match ← sizeOf target with
  | none =>
    complain spot "invalid use of undefined type"
    return .unknown spot
  | some size =>
    let index ← convertCode .long index
    let distance := match index with
      | .integer n => .integer (n * size)
      | _ => if size = 1 then index
        else .compute .mul (.integer 8 true) index (.integer size)
    return .value pointer.ty
      (.compute (if back then .sub else .add) .address pointer.code distance) spot

def invalidOperands (op : String) (spot : Spot) : Read Typed := do
  complain spot ("invalid operands to binary " ++ op)
  return .unknown spot

def saySigns (ty : Ty) (l r : Typed) (spot : Spot) : Read Unit := do
  let isSigned (ty : Ty) : Bool :=
    match ty.plain with
    | .integer _ signed => signed
    | _ => false
  let mayBeNegative (e : Typed) : Bool :=
    isSigned e.ty && (e.code.constant?).all (· < 0)
  if ty.isInteger && !isSigned ty && (mayBeNegative l || mayBeNegative r) then
    warn "sign-compare" spot "comparison of integer expressions of different signedness"

def arithmetic (op : Op) (name : String) (l r : Typed) (spot : Spot) : Read Typed := do
  if !l.ty.isArithmetic || !r.ty.isArithmetic then invalidOperands name spot
  else
    let isShift := op == .shiftLeft || op == .shiftRight
    let whole := isShift || op == .rem || op == .and || op == .or || op == .xor
    if whole && (l.ty.isReal || r.ty.isReal) then invalidOperands name spot
    else
      let ty := if isShift then l.ty.promote else l.ty.common r.ty
      let left ← convertCode ty l
      let right ← convertCode (if isShift then r.ty.promote else ty) r
      if op.isComparison then saySigns ty l r spot
      let code := .compute op (← shapeOf ty) left right
      if (op == .div || op == .rem) && right.constant? == some 0 then
        warn "div-by-zero" spot "division by zero"
      return .value (if op.isComparison then .int else ty) code spot

def comparePointers (op : Op) (name : String) (l r : Typed) (spot : Spot) : Read Typed := do
  let code : Read Typed := do
    let pointer := Ty.pointer .void
    return .value .int (.compute op .address (← convertCode pointer l) (← convertCode pointer r)) spot
  match l.ty.target?, r.ty.target? with
  | some a, some b =>
    if !pointersAgree a b && !l.isNull && !r.isNull then
      warn "incompatible-pointer-types" spot "comparison of distinct pointer types lacks a cast"
    code
  | some _, none | none, some _ =>
    if !(l.ty.isInteger || r.ty.isInteger) then invalidOperands name spot
    else
      if !l.isNull && !r.isNull then
        warn "int-conversion" spot "comparison between pointer and integer"
      code
  | none, none => invalidOperands name spot

def binary (op : Op) (name : String) (left right : Typed) (spot : Spot) : Read Typed := do
  let l ← valueOf left
  let r ← valueOf right
  if l.ty.isUnknown || r.ty.isUnknown then return .unknown spot
  else if op.isComparison && (l.ty.isPointer || r.ty.isPointer) then comparePointers op name l r spot
  else match op with
    | .add =>
      if l.ty.isPointer && r.ty.isInteger then offsetBy l r false spot
      else if r.ty.isPointer && l.ty.isInteger then offsetBy r l false spot
      else arithmetic op name l r spot
    | .sub =>
      if l.ty.isPointer && r.ty.isInteger then offsetBy l r true spot
      else if l.ty.isPointer && r.ty.isPointer then
        match ← sizeOf ((l.ty.target?).getD .char) with
        | some (size + 1) =>
          let signed := Shape.integer 8 true
          return .value .long (.compute .div signed
            (.compute .sub signed l.code r.code) (.integer (size + 1))) spot
        | _ => invalidOperands name spot
      else arithmetic op name l r spot
    | _ => arithmetic op name l r spot

def logical (isAnd : Bool) (left right : Typed) (spot : Spot) : Read Typed := do
  let l ← testCode left
  let r ← testCode right
  if left.ty.isUnknown || right.ty.isUnknown then return .unknown spot
  else return .value .int (if isAnd then .both l r else .either l r) spot

def requirePlace (e : Typed) (words : String) (spot : Spot) : Read Bool := do
  if e.ty.isUnknown then return false
  else if !e.isPlace || e.ty.isFunction then
    complain spot ("lvalue required as " ++ words)
    return false
  else if e.ty.isConstant then
    complain spot "assignment of read-only location"
    return false
  else if e.ty.isArray then
    complain spot "assignment to expression with array type"
    return false
  else return true

-- Computes an address once, for code that needs it twice.
def withAddress (code : Code) (use : Code → Read Code) : Read Code := do
  if simple code then use code
  else
    let place := Code.frame 0 (← allocate 8 8)
    let inside ← use (.load .address place)
    return .sequence (.store .address place code) inside
where
  simple : Code → Bool
    | .integer _ | .frame .. | .symbol _ | .text _ => true
    | .load _ a => simple a
    | .convert _ a => simple a
    | .compute _ _ a b => simple a && simple b
    | _ => false

def assign (left right : Typed) (spot : Spot) : Read Typed := do
  let ok ← requirePlace left "left operand of assignment" spot
  let value ← assignCode left.ty right "assignment"
  match left.source with
  | some id => markSet id
  | none => pure ()
  if !ok then return .unknown spot
  else
    let ty := left.ty.plain
    return .value ty (.store (← shapeOf ty) left.code value) spot

def update (op : Op) (name : String) (left right : Typed) (spot : Spot) : Read Typed := do
  if !(← requirePlace left "left operand of assignment" spot) then return .unknown spot
  else
    let ty := left.ty.plain
    let shape ← shapeOf ty
    match left.source with
    | some id =>
      markValued id
      sayUnset id left
      markSet id
    | none => pure ()
    let code ← withAddress left.code fun address => do
      let old := Typed.value ty (.load shape address) spot
      let new ← binary op name old right spot
      let new ← if new.ty.isUnknown then pure new.code else convertCode ty new
      return .store shape address new
    return .value ty code spot

def step (up before : Bool) (e : Typed) (spot : Spot) : Read Typed := do
  let words := if up then "increment operand" else "decrement operand"
  if !(← requirePlace e words spot) then return .unknown spot
  else if !e.ty.isScalar then
    complain spot ("wrong type argument to " ++ if up then "increment" else "decrement")
    return .unknown spot
  else
    let one := Typed.int 1 spot
    let new ← update (if up then .add else .sub) (if up then "+" else "-") e one spot
    if before || new.ty.isUnknown then return new
    else binary (if up then .sub else .add) (if up then "-" else "+") new one spot

def contentsOf (e : Typed) (op : String) (spot : Spot) : Read Typed := do
  let e ← valueOf e
  if e.ty.isUnknown then return .unknown spot
  else match e.ty.plain with
    | .pointer target =>
      if target.isVoid then
        return ⟨.void, e.code, false, spot, none⟩
      else return ⟨target, e.code, true, spot, none⟩
    | _ =>
      complain spot ("invalid type argument of " ++ op)
      return .unknown spot

def addressOf (e : Typed) (spot : Spot) : Read Typed := do
  match e.source with
  | some id =>
    markValued id
    markSet id
  | none => pure ()
  if e.ty.isUnknown then return .unknown spot
  else if !e.isPlace then
    complain spot "lvalue required as unary '&' operand"
    return .unknown spot
  else if e.source.any (← get).registers.contains then
    complain spot "address of register variable requested"
    return .unknown spot
  else return .value (.pointer e.ty) e.code spot

def unary (op : String) (e : Typed) (spot : Spot) : Read Typed := do
  let e ← valueOf e
  if e.ty.isUnknown then return .unknown spot
  else if op == "!" then
    if !e.ty.isScalar then
      complain spot "wrong type argument to unary exclamation mark"
      return .unknown spot
    else return .value .int (.choose e.code (.integer 0) (.integer 1)) spot
  else if !e.ty.isArithmetic || op == "~" && e.ty.isReal then
    complain spot ("wrong type argument to unary " ++ match op with
      | "-" => "minus"
      | "+" => "plus"
      | _ => "bit-complement")
    return .unknown spot
  else
    let ty := e.ty.promote
    let shape ← shapeOf ty
    let code ← convertCode ty e
    return match op with
      | "-" => match code, shape with
        | .integer n, .integer .. => .value ty (.integer (shape.wrap (-n))) spot
        | .real x, _ => .value ty (.real (-x)) spot
        | _, .real _ => .value ty (.compute .mul shape code (.real (-1.0))) spot
        | _, _ => .value ty (.compute .sub shape (.integer 0) code) spot
      | "~" => .value ty (.compute .xor shape code (.integer (shape.wrap (-1)))) spot
      | _ => .value ty code spot

def memberOf (e : Typed) (name : String) (spot : Spot) : Read Typed := do
  if e.ty.isUnknown then return .unknown spot
  else match e.ty.plain with
    | .record id =>
      let members := ((← get).records[id]?).bind (·.members)
      match members with
      | none =>
        complain spot "invalid use of undefined type"
        return .unknown spot
      | some members => match members.find? (·.name == name) with
        | none =>
          complain spot ("no member named '" ++ name ++ "'")
          return .unknown spot
        | some m =>
          let code := if m.offset = 0 then e.code
            else .compute .add .address e.code (.integer m.offset)
          let ty := if e.ty.isConstant then .constant m.ty else m.ty
          return ⟨ty, code, true, spot, e.source⟩
    | _ =>
      complain spot ("request for member '" ++ name ++ "' in something not a structure or union")
      return .unknown spot

-- A value of a structure gets a place of its own, so that its members have places.
def placed (e : Typed) : Read Typed := do
  if e.isPlace || !e.ty.isRecord then return e
  else
    let size := (← sizeOf e.ty).getD 0
    let place := Code.frame 0 (← allocate size 8)
    return { e with
      code := .sequence (.store (.block size) place e.code) place
      isPlace := true }

def cast (wanted : Ty) (e : Typed) (spot : Spot) : Read Typed := do
  if wanted.isVoid then
    match e.source with
    | some id => markValued id
    | none => pure ()
  let e ← valueOf (if wanted.isVoid then { e with source := none } else e)
  if wanted.isUnknown || e.ty.isUnknown then return .unknown spot
  else if wanted.isVoid then return .value .void e.code spot
  else if !wanted.isScalar then
    if wanted.isRecord && wanted.agrees e.ty then return e
    else
      complain spot "conversion to non-scalar type requested"
      return .unknown spot
  else if !e.ty.isScalar then
    complain spot (if e.ty.isVoid then "void value not ignored as it ought to be"
      else "aggregate value used where a scalar was expected")
    return .unknown spot
  else return .value wanted.plain (← convertCode wanted e) spot

def chooseOne (test yes no : Typed) (spot : Spot) : Read Typed := do
  let testCode ← testCode test
  let yes ← valueOf yes
  let no ← valueOf no
  if yes.ty.isUnknown || no.ty.isUnknown || test.ty.isUnknown then return .unknown spot
  else
    let result (ty : Ty) : Read Typed := do
      return .value ty (.choose testCode (← convertCode ty yes) (← convertCode ty no)) spot
    if yes.ty.isArithmetic && no.ty.isArithmetic then result (yes.ty.common no.ty)
    else if yes.ty.isVoid || no.ty.isVoid then
      return .value .void (.choose testCode yes.code no.code) spot
    else match yes.ty.plain, no.ty.plain with
      | .pointer a, .pointer b =>
        if yes.isNull then result no.ty
        else if no.isNull then result yes.ty
        else
          if !pointersAgree a b then
            warn "incompatible-pointer-types" spot "pointer type mismatch in conditional expression"
          result (if a.isVoid then yes.ty else if b.isVoid then no.ty else yes.ty)
      | .pointer _, _ =>
        if !no.isNull then
          warn "int-conversion" spot "pointer/integer type mismatch in conditional expression"
        result yes.ty
      | _, .pointer _ =>
        if !yes.isNull then
          warn "int-conversion" spot "pointer/integer type mismatch in conditional expression"
        result no.ty
      | .record i, .record j =>
        if i == j then result yes.ty
        else
          complain spot "type mismatch in conditional expression"
          return .unknown spot
      | _, _ =>
        complain spot "type mismatch in conditional expression"
        return .unknown spot

def defaultPromotion (ty : Ty) : Ty :=
  match ty.plain with
  | .real _ => .real true
  | ty => if ty.isInteger then ty.promote else ty

def passArguments (parameters : List Ty) : List Typed → Nat → Read (List (Shape × Code))
  | [], _ => return []
  | e :: rest, n => do
    match parameters with
    | ty :: more =>
      let code ← assignCode ty e ("passing argument " ++ toString n)
      let shape ← shapeOf ty
      return (shape, code) :: (← passArguments more rest (n + 1))
    | [] =>
      let e ← valueOf e
      let ty := defaultPromotion e.ty
      if e.ty.isVoid then complain e.spot "invalid use of void expression"
      let code ← convertCode ty e
      let shape ← shapeOf ty
      return (shape, code) :: (← passArguments [] rest (n + 1))

def realFunctions : List String := ["sqrt", "sin", "cos", "tan", "exp", "log", "floor", "ceil",
  "fabs", "round", "trunc", "log2", "log10", "cbrt", "asin", "acos", "atan"]

def binaryRealFunctions : List String := ["pow", "fmod", "atan2"]

-- A function on floating numbers that is called with constants needs no library.
def withoutLibrary (function : Code) (arguments : List (Shape × Code)) : Code :=
  match function with
  | .symbol name =>
    if (realFunctions.contains name || binaryRealFunctions.contains name) &&
        arguments.all (·.2.isStatic) then .symbol ("__builtin_" ++ name)
    else function
  | _ => function

def callWith (function : Typed) (arguments : List Typed) (spot : Spot) : Read Typed := do
  let f ← valueOf function
  if f.ty.isUnknown then
    for e in arguments do
      let _ ← valueOf e
    return .unknown spot
  else match f.ty.plain with
    | .pointer target => match target.plain with
      | .function result parameters variadic known =>
        if known && arguments.length < parameters.length then
          complain spot "too few arguments to function"
          return .unknown spot
        else if known && !variadic && parameters.length < arguments.length then
          complain spot "too many arguments to function"
          return .unknown spot
        else
          let passed ← passArguments (if known then parameters else []) arguments 1
          let code := withoutLibrary f.code passed
          return .value result.plain (.call code passed (← shapeOf result)) spot
      | _ =>
        complain spot "called object is not a function or function pointer"
        return .unknown spot
    | _ =>
      complain spot "called object is not a function or function pointer"
      return .unknown spot

end Read
end Fragment.Program
