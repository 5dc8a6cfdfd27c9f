import Fragment.Program.Literal
import Fragment.Program.Typing
/-!
Types as they are written: specifiers, which give a base type, and declarators, which say what is
made of it and give it a name.
-/
namespace Fragment.Program

inductive Storage where
  | alias
  | outside
  | internal
  | automatic
  | register
deriving DecidableEq, Repr, Inhabited

structure Attribute where
  name : String
  arguments : List Token
deriving Inhabited

structure Specifiers where
  ty : Ty
  storage : Option Storage
  attributes : List Attribute
  isSeen : Bool
  hasType : Bool
  hasTag : Bool
  definesTag : Bool
  isRegister : Bool
deriving Inhabited

structure Parameter where
  name : Option (String × Spot)
  ty : Ty
deriving Inhabited

structure Declarator where
  name : Option (String × Spot)
  apply : Ty → Ty
  parameters : Option (List Parameter)
  -- The number of elements of an array, if it is only known when the program runs.
  count : Option Code
  attributes : List Attribute
deriving Inhabited

inductive NameKind where
  | named
  | unnamed
  | either
deriving DecidableEq, Repr

structure Nested where
  expression : Read Typed
  assignment : Read Typed
  conditional : Read Typed
  operand : Read Typed
  specifiers : Bool → Read Specifiers
  declarator : NameKind → Bool → Read (Option Declarator)
  initial : Ty → Read (Ty × (Code → List Code))
  declaration : Read (List Statement)
  statement : Read Statement

namespace Read

def storageWords : List (String × Storage) := [("typedef", .alias), ("extern", .outside),
  ("static", .internal), ("auto", .automatic), ("register", .register)]

def qualifierWords : List String := ["const", "__const", "__const__", "volatile", "__volatile__",
  "restrict", "__restrict", "__restrict__", "_Atomic", "inline", "__inline", "__inline__",
  "_Noreturn", "__extension__", "_Thread_local", "__thread"]

def typeWords : List String := ["void", "char", "short", "int", "long", "float", "double", "signed",
  "__signed__", "unsigned", "_Bool"]

def tagWords : List String := ["struct", "union", "enum"]

def attributeWords : List String := ["__attribute__", "__attribute"]

def assemblyWords : List String := ["asm", "__asm__", "__asm"]

def typeofWords : List String := ["typeof", "__typeof__", "__typeof"]

def isAlias (t : Token) : Read Bool := do
  if !isName t then return false
  else return match ← lookup t.spelling with
    | some d => match d.meaning with
      | .alias _ => true
      | _ => false
    | none => false

def startsType (t : Token) : Read Bool := do
  if t.kind != .word then return false
  else if typeWords.contains t.spelling || tagWords.contains t.spelling ||
      typeofWords.contains t.spelling || qualifierWords.contains t.spelling ||
      attributeWords.contains t.spelling || t.spelling == "_Alignas" then return true
  else isAlias t

def startsSpecifiers (t : Token) : Read Bool := do
  if t.kind == .word && (storageWords.lookup t.spelling).isSome then return true
  else startsType t

def startsDeclaration : Read Bool := do
  match ← peek with
  | none => return false
  | some t =>
    let second ← peekSecond
    if isName t && second.any (·.isMark ":") then return false
    else if ← startsSpecifiers t then return true
    else if t.isWord "_Static_assert" then return true
    else if isName t && second.any (fun u => isName u || u.isMark "*") then
      return (← lookup t.spelling).isNone
    else return false

def balanced : Nat → Nat → List Token → Read (List Token)
  | 0, _, done => return done.reverse
  | fuel + 1, depth, done => do
    match ← peek with
    | none => return done.reverse
    | some t =>
      advance
      if t.isMark ")" && depth == 0 then return done.reverse
      else balanced fuel (if t.isMark "(" then depth + 1 else if t.isMark ")" then depth - 1
        else depth) (t :: done)

def attributeList : Nat → List Attribute → Read (List Attribute)
  | 0, done => return done.reverse
  | fuel + 1, done => do
    if ← accept "," then attributeList fuel done
    else match ← peek with
      | some t =>
        if t.kind == .word then
          advance
          let arguments ← if ← accept "(" then balanced ((← get).tokens.length) 0 [] else pure []
          attributeList fuel (⟨t.spelling, arguments⟩ :: done)
        else return done.reverse
      | none => return done.reverse

def attributes : Read (List Attribute) := do
  match ← peek with
  | some t =>
    if attributeWords.contains t.spelling && t.kind == .word then
      advance
      if !(← require "(") then
        skipTo ")" ((← get).tokens.length + 1) 0
        return []
      else if !(← require "(") then
        skipTo ")" ((← get).tokens.length + 1) 0
        return []
      else
        let found ← attributeList ((← get).tokens.length + 1) []
        requireSkipping ")"
        requireSkipping ")"
        return found
    else return []
  | none => return []

structure Seen where
  words : List String
  ty : Option Ty
  storage : Option Storage
  isConstant : Bool
  attributes : List Attribute
  any : Bool
  hasTag : Bool
  definesTag : Bool

def spelledType? (words : List String) : Option Ty :=
  let count (w : String) : Nat := words.count w
  let unsigned := count "unsigned" != 0
  let signed := !unsigned
  if words.isEmpty then none
  else if count "void" != 0 then some .void
  else if count "_Bool" != 0 then some .bool
  else if count "float" != 0 then some (.real false)
  else if count "double" != 0 then some (.real true)
  else if count "char" != 0 then some (.integer .char signed)
  else if count "short" != 0 then some (.integer .short signed)
  else if 2 ≤ count "long" then some (.integer .longLong signed)
  else if count "long" != 0 then some (.integer .long signed)
  else some (.integer .int signed)

def Seen.hasType (s : Seen) : Bool := !s.words.isEmpty || s.ty.isSome

def conflict (words : List String) : Bool :=
  let bases := words.filter fun w =>
    ["void", "char", "int", "float", "double", "_Bool"].contains w
  1 < bases.length || words.contains "signed" && words.contains "unsigned" ||
    words.contains "short" && words.contains "long" || 2 < words.count "long" ||
    (words.contains "void" || words.contains "_Bool" || words.contains "float") && 1 < words.length ||
    words.contains "double" && words.any (["signed", "unsigned", "short"].contains ·) ||
    words.contains "char" && words.any (["short", "long"].contains ·)

def optionalName : Read (Option Token) := do
  match ← peek with
  | some t =>
    if isName t then
      advance
      return some t
    else return none
  | none => return none

/-! Structures, unions and enumerations. -/

def tag? (name : String) : Read (Option (Option Nat)) := do
  return (← get).levels.findSome? fun level => level.tags.lookup name

def tagHere? (name : String) : Read (Option (Option Nat)) := do
  return (← get).levels.head?.bind fun level => level.tags.lookup name

def bindTag (name : String) (id : Option Nat) : Read Unit := modify fun s =>
  { s with levels := match s.levels with
    | [] => [⟨[], [(name, id)]⟩]
    | level :: rest => { level with tags := (name, id) :: level.tags } :: rest }

def newRecord (tag : String) (isUnion : Bool) : Read Nat := modifyGet fun s =>
  (s.records.size, { s with records := s.records.push ⟨tag, isUnion, none, 0, 1⟩ })

def roundUp (n align : Nat) : Nat := (n + align - 1) / align * align

def layOut (records : Records) (isUnion : Bool) (fields : List (String × Ty)) :
    List Member × Nat × Nat :=
  let (members, size, align) := fields.foldl (fun (members, size, align) (name, ty) =>
    let own := ty.align records
    let offset := if isUnion then 0 else roundUp size own
    let behind := offset + (ty.size? records).getD 0
    ((⟨name, ty, offset⟩ : Member) :: members, max size behind, max align own)) ([], 0, 1)
  (members.reverse, roundUp size align, align)

def withInner (records : Records) (members : List Member) : List Member :=
  members.flatMap fun m =>
    match m.name, m.ty.plain with
    | "", .record id => ((records[id]?.bind (·.members)).getD []).map fun inner =>
        { inner with offset := m.offset + inner.offset }
    | _, _ => [m]

def memberDeclarators (nested : Nested) (base : Ty) : Nat → List (String × Ty) →
    Read (List (String × Ty))
  | 0, done => return done
  | fuel + 1, done => do
    let done ← if ← nextIs ":" then pure done
      else match ← nested.declarator .named true with
        | none => pure done
        | some d =>
          let ty := d.apply base
          match d.name with
          | some (name, start) =>
            if ty.isFunction then
              complain start ("field '" ++ name ++ "' declared as a function")
              pure done
            else if (← sizeOf ty).isNone && !ty.isArray then
              complain start ("field '" ++ name ++ "' has incomplete type")
              pure done
            else if done.any (·.1 == name) then
              complain start ("duplicate member '" ++ name ++ "'")
              pure done
            else pure (done ++ [(name, ty)])
          | none => pure done
    if ← accept ":" then
      let width ← nested.conditional
      match done.getLast?, width.code.constant? with
      | some (name, ty), some n =>
        if n < 0 then complain width.spot ("negative width in bit-field '" ++ name ++ "'")
        else if 8 * ((← sizeOf ty).getD 0) < n.toNat then
          complain width.spot ("width of '" ++ name ++ "' exceeds its type")
      | _, _ => pure ()
    let _ ← attributes
    if ← accept "," then memberDeclarators nested base fuel done
    else return done

def memberList (nested : Nested) : Nat → List (String × Ty) → Read (List (String × Ty))
  | 0, done => return done
  | fuel + 1, done => do
    match ← peek with
    | none =>
      refuse "expected '\x7d'"
      return done
    | some t =>
      if t.isMark "\x7d" then
        advance
        return done
      else if t.isMark ";" then
        advance
        memberList nested fuel done
      else
        let specifiers ← nested.specifiers true
        if !specifiers.isSeen then
          refuse "expected specifier-qualifier-list"
          skipStatement
          return done
        else
          let done ← if ← nextIs ";" then
              pure (if specifiers.ty.isRecord then done ++ [("", specifiers.ty)] else done)
            else memberDeclarators nested specifiers.ty ((← get).tokens.length + 1) done
          if ← accept ";" then memberList nested fuel done
          else if ← nextIs "\x7d" then memberList nested fuel done
          else
            refuse "expected ',', ';' or '\x7d'"
            skipStatement
            return done

def recordSpecifier (nested : Nested) (isUnion : Bool) : Read (Ty × Bool) := do
  let _ ← attributes
  let name ← optionalName
  if ← accept "\x7b" then
    let id ← match name with
      | none => newRecord "" isUnion
      | some t => match ← tagHere? t.spelling with
        | some (some id) =>
          if (((← get).records[id]?).bind (·.members)).isSome then
            complain t.spot ("redefinition of '" ++ t.spelling ++ "'")
            newRecord t.spelling isUnion
          else pure id
        | _ =>
          let id ← newRecord t.spelling isUnion
          bindTag t.spelling (some id)
          pure id
    let fields ← memberList nested ((← get).tokens.length + 1) []
    let _ ← attributes
    modify fun s =>
      let (members, size, align) := layOut s.records isUnion fields
      { s with records := s.records.modify id fun r => { r with
          members := some (withInner s.records members), size, align } }
    return (.record id, true)
  else match name with
    | none =>
      refuse "expected identifier or '\x7b'"
      return (.unknown, false)
    | some t =>
      let known ← if ← nextIs ";" then tagHere? t.spelling else tag? t.spelling
      match known with
      | some (some id) => return (.record id, false)
      | _ =>
        let id ← newRecord t.spelling isUnion
        bindTag t.spelling (some id)
        return (.record id, false)

def declareConstant (t : Token) (value : Int) : Read Unit := do
  match ← lookupHere t.spelling with
  | some d =>
    match d.meaning with
    | .constant _ => complain t.spot ("redeclaration of enumerator '" ++ t.spelling ++ "'")
    | _ => complain t.spot ("'" ++ t.spelling ++ "' redeclared as different kind of symbol")
  | none => bind t.spelling (.constant value) .other t.spot

def enumerators (nested : Nested) : Nat → Int → Read Unit
  | 0, _ => return
  | fuel + 1, next => do
    match ← peek with
    | some t =>
      if !isName t then
        refuse "expected identifier"
        skipTo "\x7d" ((← get).tokens.length + 1) 0
      else
        advance
        let value ← if ← accept "=" then
            let e ← nested.conditional
            match e.code.constant? with
            | some n => pure n
            | none =>
              if !e.ty.isUnknown then
                complain e.spot ("enumerator value for '" ++ t.spelling ++
                  "' is not an integer constant")
              pure next
          else pure next
        declareConstant t value
        if ← accept "," then
          if ← accept "\x7d" then return
          else enumerators nested fuel (value + 1)
        else if ← accept "\x7d" then return
        else
          refuse "expected ',' or '\x7d'"
          skipTo "\x7d" ((← get).tokens.length + 1) 0
    | none => refuse "expected identifier"

def enumSpecifier (nested : Nested) : Read (Ty × Bool) := do
  let _ ← attributes
  let name ← optionalName
  if ← accept "\x7b" then
    match name with
    | some t => bindTag t.spelling none
    | none => pure ()
    enumerators nested ((← get).tokens.length + 1) 0
    return (.int, true)
  else
    if name.isNone then refuse "expected identifier or '\x7b'"
    return (.int, false)

/-! Specifiers. -/

def typeofSpecifier (nested : Nested) : Read Ty := do
  if !(← require "(") then return .unknown
  else
    let isType ← match ← peek with
      | some t => startsType t
      | none => pure false
    let ty ← if isType then
        let specifiers ← nested.specifiers true
        match ← nested.declarator .unnamed true with
        | some d => pure (d.apply specifiers.ty)
        | none => pure .unknown
      else pure (← nested.expression).ty
    requireSkipping ")"
    return ty

def specifierLoop (nested : Nested) : Nat → Seen → Read Seen
  | 0, seen => return seen
  | fuel + 1, seen => do
    match ← peek with
    | none => return seen
    | some t =>
      if t.kind != .word then return seen
      else
        let word := t.spelling
        let again (seen : Seen) : Read Seen := specifierLoop nested fuel { seen with any := true }
        let typed (ty : Ty) (hasTag definesTag : Bool) : Read Seen := do
          if seen.hasType then complain t.spot "two or more data types in declaration specifiers"
          again { seen with
            ty := some (if seen.hasType then .unknown else ty)
            hasTag := seen.hasTag || hasTag
            definesTag := seen.definesTag || definesTag }
        match storageWords.lookup word with
        | some storage =>
          advance
          if seen.storage.isSome then
            complain t.spot "multiple storage classes in declaration specifiers"
          again { seen with storage := some storage }
        | none =>
          if seen.definesTag && (tagWords.contains word || typeWords.contains word) then return seen
          else if qualifierWords.contains word then
            advance
            again { seen with
              isConstant := seen.isConstant || word == "const" || word == "__const" ||
                word == "__const__" }
          else if attributeWords.contains word then
            let found ← attributes
            again { seen with attributes := seen.attributes ++ found }
          else if word == "_Alignas" then
            advance
            if ← accept "(" then
              let _ ← balanced ((← get).tokens.length) 0 []
            again seen
          else if typeWords.contains word then
            advance
            let words := (if word == "__signed__" then "signed" else word) :: seen.words
            if seen.ty.isSome || conflict words then
              complain t.spot "two or more data types in declaration specifiers"
              again { seen with ty := some .unknown }
            else again { seen with words }
          else if word == "struct" || word == "union" then
            advance
            let (ty, defines) ← recordSpecifier nested (word == "union")
            typed ty true defines
          else if word == "enum" then
            advance
            let (ty, defines) ← enumSpecifier nested
            typed ty true defines
          else if typeofWords.contains word then
            advance
            let ty ← typeofSpecifier nested
            typed ty false false
          else if !seen.hasType && (← isAlias t) then
            advance
            match ← lookup word with
            | some d => match d.meaning with
              | .alias ty =>
                markNamed d.id
                typed ty false false
              | _ => return seen
            | none => return seen
          else return seen

def specifiers (nested : Nested) (_typeAllowed : Bool) : Read Specifiers := do
  let seen ← specifierLoop nested ((← get).tokens.length + 1)
    ⟨[], none, none, false, [], false, false, false⟩
  let ty := match seen.ty with
    | some ty => ty
    | none => (spelledType? seen.words).getD .int
  return { ty := if seen.isConstant then .constant ty else ty
           storage := seen.storage
           attributes := seen.attributes
           isSeen := seen.any
           hasType := seen.hasType
           hasTag := seen.hasTag
           definesTag := seen.definesTag
           isRegister := seen.storage == some .register }

/-! Declarators. -/

def pointerQualifiers : Nat → Bool → Read Bool
  | 0, c => return c
  | fuel + 1, c => do
    match ← peek with
    | some t =>
      if t.kind == .word && qualifierWords.contains t.spelling then
        advance
        pointerQualifiers fuel (c || t.spelling == "const")
      else if t.kind == .word && attributeWords.contains t.spelling then
        let _ ← attributes
        pointerQualifiers fuel c
      else return c
    | none => return c

def passedType (ty : Ty) : Ty :=
  match ty.plain with
  | .array element _ => .pointer element
  | .function .. => .pointer ty.plain
  | _ => ty

def skipParameter : Nat → Nat → Read Unit
  | 0, _ => return
  | fuel + 1, depth => do
    match ← peek with
    | none => return
    | some t =>
      if depth == 0 && (t.isMark "," || t.isMark ")" || t.isMark ";" || t.isMark "\x7b" ||
          t.isMark "\x7d") then
        setFailing false
      else
        advance
        skipParameter fuel (if opens t then depth + 1 else if closes t then depth - 1 else depth)

def startsNames : Read Bool := do
  match ← peek with
  | some t =>
    if !isName t || (← isAlias t) then return false
    else return match ← peekSecond with
      | some u => !(u.kind == .word || u.isMark "*" || u.isMark "(" || u.isMark "[")
      | none => true
  | none => return false

def nameLoop : Nat → List Parameter → Read (Option (List Parameter × Bool))
  | 0, done => return some (done.reverse, false)
  | fuel + 1, done => do
    match ← optionalName with
    | none =>
      refuse "expected identifier"
      requireSkipping ")"
      return none
    | some t =>
      let done := ⟨some (t.spelling, t.spot), .int⟩ :: done
      if ← accept "," then nameLoop fuel done
      else if ← accept ")" then return some (done.reverse, false)
      else
        requireSkipping ")"
        return none

def refuseParameter (n : Nat) (isAlone : Bool) (p : Parameter) (spot : Spot) : Read Unit := do
  if p.ty.isVoid then
    if p.name.isSome then
      complain spot ("parameter " ++ toString n ++ " has incomplete type")
    else if !isAlone then complain spot "'void' must be the only parameter"

def parameterLoop (nested : Nested) : Nat → List Parameter → Read (Option (List Parameter × Bool))
  | 0, done => return some (done.reverse, false)
  | fuel + 1, done => do
    if ← accept "..." then
      if ← accept ")" then return some (done.reverse, true)
      else
        requireSkipping ")"
        return none
    else
      match ← peek with
      | none =>
        refuse "expected declaration specifiers or '...'"
        return none
      | some t =>
        let ok ← startsSpecifiers t
        let parameter ← if !ok then
            if isName t then
              complain t.spot ("unknown type name '" ++ t.spelling ++ "'")
              advance
              let _ ← nested.declarator .either true
              pure none
            else
              refuse "expected declaration specifiers or '...'"
              skipParameter ((← get).tokens.length + 1) 0
              pure none
          else
            let specifiers ← nested.specifiers true
            match ← nested.declarator .either true with
            | some d =>
              let _ ← attributes
              let p := Parameter.mk d.name (passedType (d.apply specifiers.ty))
              refuseParameter (done.length + 1) (done.isEmpty && (← nextIs ")")) p t.spot
              pure (some p)
            | none =>
              skipParameter ((← get).tokens.length + 1) 0
              pure none
        let done := match parameter with
          | some p => p :: done
          | none => ⟨none, .unknown⟩ :: done
        if ← accept ")" then return some (done.reverse, false)
        else if ← accept "," then parameterLoop nested fuel done
        else
          requireSkipping ")"
          return none

def suffixes (nested : Nested) (kind : NameKind) : Nat → Declarator → Read (Option Declarator)
  | 0, d => return some d
  | fuel + 1, d => do
    if ← accept "[" then
      let _ ← pointerQualifiers 8 false
      let _ ← acceptWord "static"
      let (count, code) ← if ← nextIs "]" then pure (none, none)
        else
          let e ← nested.assignment
          let e ← valueOf e
          match e.code.constant? with
          | some n =>
            if n < 0 then
              complain e.spot "size of array is negative"
            pure (some n.toNat, none)
          | none =>
            if e.ty.isUnknown then pure (some 1, none)
            else if !e.ty.isInteger then
              complain e.spot "size of array has non-integer type"
              pure (some 1, none)
            else if ← atFile then
              complain e.spot "variably modified type at file scope"
              pure (some 1, none)
            else
              let code ← convertCode .unsignedLong e
              pure (none, some code)
      requireSkipping "]"
      let rest ← suffixes nested kind fuel { d with apply := id, count := none }
      match rest with
      | none => return none
      | some rest =>
        return some { d with
          apply := fun base => d.apply (.array (rest.apply base) count)
          count := code.or d.count }
    else if ← accept "(" then
      let (parameters, variadic, known) ← if ← accept ")" then pure ([], false, false)
        else if (← nextIsWord "void") && (← peekSecond).any (·.isMark ")") then
          advance
          advance
          pure ([], false, true)
        else
          let limit := (← get).tokens.length + 1
          let bare ← startsNames
          let read ← if bare then nameLoop limit [] else parameterLoop nested limit []
          match read with
          | some (parameters, variadic) => pure (parameters, variadic, !bare)
          | none => return none
      let rest ← suffixes nested kind fuel { d with apply := id, parameters := none }
      match rest with
      | none => return none
      | some rest =>
        return some { d with
          apply := fun base => d.apply
            (.function (rest.apply base) (parameters.map (·.ty)) variadic known)
          parameters := d.parameters.or (some parameters) }
    else return some d

def plainDeclarator (name : Option (String × Spot)) : Declarator := ⟨name, id, none, none, []⟩

def opensParameters (kind : NameKind) : Read Bool := do
  match ← peekSecond with
  | some t =>
    if kind == .named then return false
    else if t.isMark ")" then return true
    else startsSpecifiers t
  | none => return false

def nameStarts (kind : NameKind) (typeSeen : Bool) (t : Token) : Read Bool := do
  if kind == .unnamed || !isName t then return false
  else if ← isAlias t then return typeSeen
  else return true

def directDeclarator (nested : Nested) (kind : NameKind) (typeSeen : Bool) :
    Read (Option Declarator) := do
  let limit := (← get).tokens.length + 1
  let missing : Read (Option Declarator) := do
    if kind == .named then
      refuse "expected identifier or '('"
      return none
    else return some (plainDeclarator none)
  match ← peek with
  | none => missing
  | some t =>
    if ← nameStarts kind typeSeen t then
      advance
      let found ← attributes
      suffixes nested kind limit
        { plainDeclarator (some (t.spelling, t.spot)) with attributes := found }
    else if t.isMark "(" then
      if ← opensParameters kind then suffixes nested kind limit (plainDeclarator none)
      else
        advance
        let _ ← attributes
        let inner ← nested.declarator kind typeSeen
        if ← accept ")" then
          match inner, ← suffixes nested kind limit (plainDeclarator none) with
          | some inner, some outer =>
            return some { inner with
              apply := fun base => inner.apply (outer.apply base)
              parameters := inner.parameters.or outer.parameters }
          | _, _ => return none
        else
          requireSkipping ")"
          return none
    else if kind != .named && t.isMark "[" then suffixes nested kind limit (plainDeclarator none)
    else missing

def declarator (nested : Nested) (kind : NameKind) (typeSeen : Bool) :
    Read (Option Declarator) := do
  if ← accept "*" then
    let isConstant ← pointerQualifiers 16 false
    match ← nested.declarator kind typeSeen with
    | none => return none
    | some d =>
      let wrap (base : Ty) : Ty := if isConstant then .constant (.pointer base) else .pointer base
      return some { d with apply := fun base => d.apply (wrap base) }
  else directDeclarator nested kind typeSeen

def typeName (nested : Nested) : Read Ty := do
  let specifiers ← nested.specifiers true
  match ← nested.declarator .unnamed true with
  | some d => return d.apply specifiers.ty
  | none => return .unknown

end Read
end Fragment.Program
