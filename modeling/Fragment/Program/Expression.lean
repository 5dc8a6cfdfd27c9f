import Fragment.Program.Agreement
import Fragment.Program.Declarator
/-!
Expressions as they are written. Binary operators are read in one pass that keeps the operators
which wait for their right operand; everything else follows the nesting of the text.
-/
namespace Fragment.Program.Read

def integerType (n : Literal.IntegerText) : Ty :=
  let candidates : List (Rank × Bool) :=
    [(.int, true), (.int, false), (.long, true), (.long, false)].filter fun (rank, signed) =>
      (n.longs = 0 || rank == .long) &&
        (if n.isUnsigned then !signed else signed || !n.isDecimal)
  let fits (rank : Rank) (signed : Bool) : Bool :=
    n.value < Nat.pow 2 (8 * rank.size - if signed then 1 else 0)
  match candidates.find? fun (rank, signed) => fits rank signed with
  | some (.long, signed) => .integer (if n.longs = 2 then .longLong else .long) signed
  | some (rank, signed) => .integer rank signed
  | none => .unsignedLong

def number (t : Token) : Read Typed := do
  if Literal.isReal t.spelling then
    match Literal.real t.spelling with
    | .ok (x, single) => return .value (.real !single) (.real x) t.spot
    | .error text =>
      complain t.spot text
      return .unknown t.spot
  else match Literal.integer t.spelling with
    | .ok n => return .value (integerType n) (.integer n.value) t.spot
    | .error text =>
      complain t.spot text
      return .unknown t.spot

def textOf (octets : Octets) (spot : Spot) : Read Typed := do
  let index ← addText (octets ++ [0])
  return ⟨.array .char (some (octets.length + 1)), .text index, true, spot, none⟩

def sayFault (t : Token) : Read Unit := do
  match Literal.fault? t.spelling with
  | some text => complain t.spot text
  | none => pure ()

def textsAhead : Nat → Octets → Read Octets
  | 0, done => return done
  | fuel + 1, done => do
    match ← peek with
    | some t =>
      if t.kind == .text then
        advance
        sayFault t
        textsAhead fuel (done ++ Literal.contents t.spelling)
      else return done
    | none => return done

def placeFrom (depth : Nat) : Code → Code
  | .frame declared offset => .frame (depth - declared) offset
  | .inner name declared => .inner name (depth - declared)
  | .load shape place => .load shape (placeFrom depth place)
  | code => code

def refuseName (t : Token) : Read Typed := do
  match ← body? with
  | none =>
    complain t.spot ("'" ++ t.spelling ++ "' undeclared here (not in a function)")
    bindAt 0 t.spelling .refused t.spot
  | some b =>
    complain t.spot ("'" ++ t.spelling ++ "' undeclared (first use in this function)")
    bindAt b.outside t.spelling .refused t.spot
  return .unknown t.spot

-- The type of a function that is called before anything declares it: one on floating numbers
-- has its own, and any other gives an `int`.
def implicitType (name : String) : Ty :=
  let real : Ty := .real true
  if realFunctions.contains name then .function real [real] false true
  else if binaryRealFunctions.contains name then .function real [real, real] false true
  else .function .int [] false false

def implicitFunction (t : Token) : Read Typed := do
  let ty := implicitType t.spelling
  let place := Code.symbol t.spelling
  match ← global? t.spelling with
  | some _ => pure ()
  | none =>
    warn "implicit-function-declaration" t.spot
      ("implicit declaration of function '" ++ t.spelling ++ "'")
    setGlobal ⟨t.spelling, ty, t.spot, false, false, true, []⟩
  bindAt 0 t.spelling (.object ty place) t.spot
  refer t.spelling
  return ⟨ty, place, true, t.spot, none⟩

def name (t : Token) : Read Typed := do
  match ← lookup t.spelling with
  | none => if ← nextIs "(" then implicitFunction t else refuseName t
  | some d =>
    markNamed d.id
    match d.meaning with
    | .constant n => return .int n t.spot
    | .refused => return .unknown t.spot
    | .alias _ =>
      refuse "expected expression"
      return .unknown t.spot
    | .object ty place =>
      match place with
      | .symbol global => refer global
      | _ => pure ()
      return ⟨ty, placeFrom (← get).bodies.length place, true, t.spot, some d.id⟩

def builtin? (nested : Nested) (t : Token) : Option (Read Typed) :=
  match t.spelling with
  | "__builtin_slots" => some do
    let _ ← require "("
    requireSkipping ")"
    return .value .text .slots t.spot
  | "__builtin_inff" => some do
    let _ ← require "("
    requireSkipping ")"
    return .value (.real false) (.real (1.0 / 0.0)) t.spot
  | "__builtin_nanf" => some do
    let _ ← require "("
    let _ ← nested.assignment
    requireSkipping ")"
    return .value (.real false) (.real (0.0 / 0.0)) t.spot
  | "__builtin_expect" => some do
    let _ ← require "("
    let e ← nested.assignment
    let _ ← require ","
    let _ ← nested.assignment
    requireSkipping ")"
    cast .long e t.spot
  | _ => none

-- The types and expressions to choose from; nothing in place of a type is for any other type.
def associations (nested : Nested) : Nat → List (Option Ty × Typed) →
    Read (List (Option Ty × Typed))
  | 0, done => return done.reverse
  | fuel + 1, done => do
    let ty ← if ← acceptWord "default" then pure none
      else
        let specifiers ← nested.specifiers true
        if !specifiers.isSeen then
          refuse "expected specifier-qualifier-list"
          pure (some .unknown)
        else
          let d ← nested.declarator .unnamed true
          pure (some ((d.map (·.apply specifiers.ty)).getD .unknown))
    let _ ← require ":"
    let e ← nested.assignment
    let done := (ty, e) :: done
    if ← accept "," then associations nested fuel done else return done.reverse

def generic (nested : Nested) (spot : Spot) : Read Typed := do
  if !(← require "(") then return .unknown spot
  else
    let chooser ← valueOf (← nested.assignment)
    let _ ← require ","
    let options ← associations nested ((← get).tokens.length + 1) []
    requireSkipping ")"
    let fitting := options.find? fun (ty, _) => ty.any fun ty => !ty.isUnknown && ty.agrees chooser.ty
    match fitting.or (options.find? fun (ty, _) => ty.isNone) with
    | some (_, e) => return e
    | none =>
      if !chooser.ty.isUnknown && !options.any (fun (ty, _) => ty.any (·.isUnknown)) then
        complain spot "'_Generic' selector is not compatible with any association"
      return .unknown spot

def primary (nested : Nested) : Read Typed := do
  let missing : Read Typed := do
    refuse "expected expression"
    return .unknown (← spot)
  match ← peek with
  | none => missing
  | some t =>
    match t.kind with
    | .number =>
      advance
      number t
    | .character =>
      advance
      sayFault t
      if (Literal.contents t.spelling).isEmpty then complain t.spot "empty character constant"
      return .int (Literal.character t.spelling) t.spot
    | .text =>
      let octets ← textsAhead ((← get).tokens.length + 1) []
      textOf octets t.spot
    | .word =>
      if t.spelling == "__func__" || t.spelling == "__FUNCTION__" then
        advance
        textOf (Octets.ofString (((← body?).map (·.name)).getD "")) t.spot
      else if t.spelling == "_Generic" then
        advance
        generic nested t.spot
      else match builtin? nested t with
        | some read =>
          advance
          read
        | none =>
          if isName t && !(← isAlias t) then
            advance
            name t
          else missing
    | .mark =>
      if t.isMark "(" then
        advance
        let e ← nested.expression
        requireSkipping ")"
        return e
      else missing
    | .stray | .fault => missing

def argumentsLoop (nested : Nested) : Nat → List Typed → Read (List Typed)
  | 0, done => return done.reverse
  | fuel + 1, done => do
    let e ← nested.assignment
    if ← accept "," then argumentsLoop nested fuel (e :: done)
    else return (e :: done).reverse

def behindOperand (nested : Nested) : Nat → Typed → Read Typed
  | 0, e => return e
  | fuel + 1, e => do
    match ← peek with
    | none => return e
    | some t =>
      if t.kind != .mark then return e
      else match t.spelling with
        | "[" =>
          advance
          let index ← nested.expression
          requireSkipping "]"
          if e.ty.isUnknown || index.ty.isUnknown then behindOperand nested fuel (.unknown t.spot)
          else
            let inArray := e.isPlace && e.ty.isArray
            let base ← valueOf (if inArray then { e with source := none } else e)
            let inner ← valueOf index
            if base.ty.isPointer && inner.ty.isInteger || inner.ty.isPointer && base.ty.isInteger then
              let sum ← binary .add "+" base inner t.spot
              let element ← contentsOf sum "'[]'" t.spot
              behindOperand nested fuel { element with source := if inArray then e.source else none }
            else
              complain t.spot (if base.ty.isPointer || inner.ty.isPointer then
                "array subscript is not an integer"
                else "subscripted value is neither array nor pointer nor vector")
              behindOperand nested fuel (.unknown t.spot)
        | "(" =>
          advance
          let arguments ← if ← nextIs ")" then pure []
            else argumentsLoop nested ((← get).tokens.length + 1) []
          requireSkipping ")"
          sayFormat e arguments
          behindOperand nested fuel (← callWith e arguments e.spot)
        | "." | "->" =>
          advance
          let place ← if t.isMark "." then placed e else contentsOf e "'->'" t.spot
          match ← peek with
          | some m =>
            if m.kind == .word then
              advance
              behindOperand nested fuel (← memberOf place m.spelling m.spot)
            else
              refuse "expected identifier"
              return .unknown t.spot
          | none =>
            refuse "expected identifier"
            return .unknown t.spot
        | "++" =>
          advance
          behindOperand nested fuel (← step true false e t.spot)
        | "--" =>
          advance
          behindOperand nested fuel (← step false false e t.spot)
        | _ => return e

def postfixed (nested : Nested) (e : Typed) : Read Typed := do
  behindOperand nested ((← get).tokens.length + 1) e

def compound (nested : Nested) (ty : Ty) (spot : Spot) : Read Typed := do
  let (ty, stores) ← nested.initial ty
  let size := (← sizeOf ty).getD 0
  let place := Code.frame 0 (← allocate size (max 1 (ty.align (← get).records)))
  let code := (stores place).foldr .sequence place
  postfixed nested ⟨ty, .sequence (.clear size place) code, true, spot, none⟩

def typeInParentheses : Read Bool := do
  if ← nextIs "(" then
    match ← peekSecond with
    | some t => startsType t
    | none => return false
  else return false

-- The size of an array that is known only when the program runs; it is kept behind the address.
def runtimeSize? (e : Typed) : Option Code :=
  match e.ty.plain, e.code, e.source with
  | .array _ none, .load _ (.frame outer offset), some _ =>
    some (.load (.integer 8 false) (.frame outer (offset + 8)))
  | _, _, _ => none

def sizeOperand (nested : Nested) (word : String) (spot : Spot) : Read Typed := do
  let (ty, count) ← if ← typeInParentheses then
      advance
      let ty ← typeName nested
      requireSkipping ")"
      if ← nextIs "\x7b" then pure ((← compound nested ty spot).ty, none) else pure (ty, none)
    else
      let e ← nested.operand
      match e.source with
      | some id => markValued id
      | none => pure ()
      pure (e.ty, runtimeSize? e)
  if ty.isUnknown then return .unknown spot
  else if word != "sizeof" then
    return .value .unsignedLong (.integer (ty.align (← get).records)) spot
  else if let some code := count then return .value .unsignedLong code spot
  else match ← sizeOf ty with
    | some size => return .value .unsignedLong (.integer size) spot
    | none =>
      complain spot "invalid application of 'sizeof' to incomplete type"
      return .unknown spot

def operand (nested : Nested) : Read Typed := do
  match ← peek with
  | none => primary nested
  | some t =>
    if ← typeInParentheses then
      advance
      let ty ← typeName nested
      requireSkipping ")"
      if ← nextIs "\x7b" then compound nested ty t.spot
      else cast ty (← nested.operand) t.spot
    else if t.kind == .word then
      match t.spelling with
      | "sizeof" | "_Alignof" | "__alignof__" =>
        advance
        sizeOperand nested t.spelling t.spot
      | "__extension__" =>
        advance
        nested.operand
      | _ => postfixed nested (← primary nested)
    else if t.kind != .mark then postfixed nested (← primary nested)
    else match t.spelling with
      | "++" =>
        advance
        step true true (← nested.operand) t.spot
      | "--" =>
        advance
        step false true (← nested.operand) t.spot
      | "&" =>
        advance
        addressOf (← nested.operand) t.spot
      | "*" =>
        advance
        contentsOf (← nested.operand) "unary '*'" t.spot
      | "+" | "-" | "~" | "!" =>
        advance
        unary t.spelling (← nested.operand) t.spot
      | _ => postfixed nested (← primary nested)

inductive Binary where
  | op (op : Op)
  | and
  | or

def binary? (t : Token) : Option (Nat × Binary) :=
  if t.kind != .mark then none
  else match t.spelling with
    | "||" => some (1, .or)
    | "&&" => some (2, .and)
    | "|" => some (3, .op .or)
    | "^" => some (4, .op .xor)
    | "&" => some (5, .op .and)
    | "==" => some (6, .op .equal)
    | "!=" => some (6, .op .unequal)
    | "<" => some (7, .op .less)
    | "<=" => some (7, .op .lessEqual)
    | ">" => some (7, .op .greater)
    | ">=" => some (7, .op .greaterEqual)
    | "<<" => some (8, .op .shiftLeft)
    | ">>" => some (8, .op .shiftRight)
    | "+" => some (9, .op .add)
    | "-" => some (9, .op .sub)
    | "*" => some (10, .op .mul)
    | "/" => some (10, .op .div)
    | "%" => some (10, .op .rem)
    | _ => none

structure Waiting where
  left : Typed
  strength : Nat
  what : Binary
  token : Token

def join (w : Waiting) (right : Typed) : Read Typed :=
  match w.what with
  | .op op => binary op w.token.spelling w.left right w.token.spot
  | .and => logical true w.left right w.token.spot
  | .or => logical false w.left right w.token.spot

def joinWaiting (strength : Nat) : List Waiting → Typed → Read (List Waiting × Typed)
  | [], e => return ([], e)
  | w :: rest, e => do
    if strength ≤ w.strength then joinWaiting strength rest (← join w e)
    else return (w :: rest, e)

def binaryLoop (nested : Nested) : Nat → List Waiting → Typed → Read Typed
  | 0, _, e => return e
  | fuel + 1, waiting, e => do
    match (← peek).bind fun t => (binary? t).map (t, ·) with
    | some (t, strength, what) =>
      let (waiting, e) ← joinWaiting strength waiting e
      advance
      let right ← nested.operand
      binaryLoop nested fuel (⟨e, strength, what, t⟩ :: waiting) right
    | none => return (← joinWaiting 0 waiting e).2

def conditional (nested : Nested) : Read Typed := do
  let first ← nested.operand
  let test ← binaryLoop nested ((← get).tokens.length + 1) [] first
  let start ← spot
  if ← accept "?" then
    let yes ← if ← nextIs ":" then pure test else nested.expression
    if !(← require ":") then return .unknown start
    else
      let no ← nested.conditional
      chooseOne test yes no start
  else return test

def assignments : List (String × Option Op) := [("=", none), ("+=", some .add), ("-=", some .sub),
  ("*=", some .mul), ("/=", some .div), ("%=", some .rem), ("<<=", some .shiftLeft),
  (">>=", some .shiftRight), ("&=", some .and), ("^=", some .xor), ("|=", some .or)]

def assignment (nested : Nested) : Read Typed := do
  let left ← nested.conditional
  match ← peek with
  | none => return left
  | some t =>
    if t.kind != .mark then return left
    else match assignments.lookup t.spelling with
      | none => return left
      | some op =>
        advance
        let right ← nested.assignment
        modify fun s => { s with assigned := if op.isNone then some s.tokens.length else none }
        match op with
        | none => assign left right t.spot
        | some op => update op (String.ofList t.spelling.toList.dropLast) left right t.spot

def effectCode (e : Typed) : Read Code := do
  if e.isPlace && !e.ty.isScalar then return e.code
  else
    return (← valueOf { e with source := none }).code

def sayIdle (e : Typed) (text : String) : Read Unit := do
  if !e.ty.isVoid && !e.ty.isUnknown then
    if !e.code.acts then warn "unused-value" e.spot text
    else match e.code with
      | .both .. | .either .. => warn "unused-value" e.spot "value computed is not used"
      | _ => pure ()

def commaLoop (nested : Nested) : Nat → Typed → Read Typed
  | 0, e => return e
  | fuel + 1, e => do
    if ← accept "," then
      sayIdle e "left-hand operand of comma expression has no effect"
      let first ← effectCode e
      let next ← nested.assignment
      let value ← valueOf next
      commaLoop nested fuel { value with code := .sequence first value.code }
    else return e

def expression (nested : Nested) : Read Typed := do
  let first ← nested.assignment
  commaLoop nested ((← get).tokens.length + 1) first

end Fragment.Program.Read
