import Fragment.Program.Body
import Fragment.Program.Initial
import Fragment.Program.Reach
/-!
Declarations and definitions. A variable of a function has its place in the frame; all other objects
and all functions are global, under a name that nothing else in the file has.
-/
namespace Fragment.Program

inductive Home where
  | absent
  | global (name : String)
  | lasting (datum : String)
  | frame (offset : Nat)
  -- The address of the object is in the frame, and behind it its size, which is known only when
  -- the program runs.
  | dynamic (offset : Nat) (count : Code)
deriving Inhabited

namespace Read

def noteAttributes (name : String) (attributes : List Attribute) : Read Unit := do
  for a in attributes do
    let priority := match a.arguments with
      | t :: _ => match Literal.integer t.spelling with
        | .ok n => n.value
        | .error _ => 65535
      | [] => 65535
    let add (l : List (Nat × String)) : List (Nat × String) :=
      (priority, name) :: l.filter (·.2 != name)
    if a.name == "constructor" || a.name == "__constructor__" then
      modify fun s => { s with constructors := add s.constructors }
    else if a.name == "destructor" || a.name == "__destructor__" then
      modify fun s => { s with destructors := add s.destructors }

def refuseForm (name : String) (ty : Ty) (spot : Spot) : Read Bool := do
  let refused (text : String) : Read Bool := do
    complain spot ("'" ++ name ++ "' declared as " ++ text)
    return true
  match ty.plain with
  | .array element _ => if element.isFunction then refused "array of functions" else return false
  | .function result _ _ _ =>
    if result.isFunction then refused "function returning a function"
    else if result.isArray then refused "function returning an array"
    else return false
  | _ => return false

def refuseType (name : String) (ty : Ty) (spot : Spot) (canBeOpen : Bool) : Read Bool := do
  if ty.isUnknown then return true
  else if ← refuseForm name ty spot then return true
  else if ty.isVoid then
    complain spot ("variable or field '" ++ name ++ "' declared void")
    return true
  else if (← sizeOf ty).isNone && !canBeOpen then
    complain spot (if ty.isArray then "array size missing in '" ++ name ++ "'"
      else "storage size of '" ++ name ++ "' isn't known")
    return true
  else return false

def declareGlobal (name : String) (ty : Ty) (isStatic isOutside : Bool) (spot : Spot) :
    Read Bool := do
  match ← global? name with
  | none =>
    setGlobal ⟨name, ty, spot, isStatic, false, isOutside, []⟩
    return true
  | some g =>
    if !g.ty.agrees ty then
      complain spot ("conflicting types for '" ++ name ++ "'")
      return false
    else
      if isStatic && !g.isStatic then
        complain spot ("static declaration of '" ++ name ++ "' follows non-static declaration")
      else if !isStatic && !isOutside && g.isStatic && !g.ty.isFunction then
        complain spot ("non-static declaration of '" ++ name ++ "' follows static declaration")
      let isOpen := match g.ty.plain with
        | .array _ none => true
        | .function _ _ _ known => !known
        | _ => false
      setGlobal { g with
        ty := if isOpen then ty else g.ty
        isOutside := g.isOutside && isOutside }
      return true

def refuseAgain (name : String) (ty : Ty) (spot : Spot) : Read Bool := do
  match ← lookupHere name with
  | none => return false
  | some d =>
    match d.meaning with
    | .refused => return false
    | .object old (.frame ..) =>
      complain spot (if d.role == .parameter then
          "'" ++ name ++ "' redeclared as different kind of symbol"
        else if old.agrees ty then "redeclaration of '" ++ name ++ "' with no linkage"
        else "conflicting types for '" ++ name ++ "'")
      return true
    | .object old (.symbol _) =>
      if d.role == .variable then
        complain spot (if old.agrees ty then "redeclaration of '" ++ name ++ "' with no linkage"
          else "conflicting types for '" ++ name ++ "'")
        return true
      else return false
    | _ =>
      complain spot ("'" ++ name ++ "' redeclared as different kind of symbol")
      return true

def declareAlias (name : String) (ty : Ty) (spot : Spot) : Read Unit := do
  match ← lookupHere name with
  | some d =>
    match d.meaning with
    | .alias old =>
      if !old.agrees ty then complain spot ("conflicting types for '" ++ name ++ "'")
    | .refused => bind name (.alias ty) .other spot
    | _ => complain spot ("'" ++ name ++ "' redeclared as different kind of symbol")
  | none => bind name (.alias ty) .other spot

def isMarkedUnused (attributes : List Attribute) : Bool :=
  attributes.any fun a => ["unused", "__unused__", "used", "__used__"].contains a.name

def declare (specifiers : Specifiers) (d : Declarator) (name : String) (spot : Spot)
    (hasValue : Bool) : Read Home := do
  let ty := d.apply specifiers.ty
  let attributes := specifiers.attributes ++ d.attributes
  let isStatic := specifiers.storage == some .internal
  let isOutside := specifiers.storage == some .outside
  if specifiers.storage == some .alias then
    if hasValue then complain spot ("typedef '" ++ name ++ "' is initialized")
    declareAlias name ty spot
    return .absent
  else if ty.isFunction then
    if ← refuseForm name ty spot then return .absent
    noteAttributes name attributes
    let atFile ← atFile
    let clash ← refuseAgain name ty spot
    if !clash then
      let ok ← declareGlobal name ty (isStatic && atFile) true spot
      if ok then bind name (.object ty (.symbol name)) .other spot
    if hasValue then complain spot ("function '" ++ name ++ "' is initialized like a variable")
    return .absent
  else if ← atFile then
    match ← lookupHere name with
    | some { meaning := .object .., .. } | none =>
      if ← refuseType name ty spot (hasValue || ty.isArray || isOutside) then
        bind name .refused .other spot
        return .absent
      else
        let ok ← declareGlobal name ty isStatic (isOutside && !hasValue) spot
        if ok then
          bind name (.object ty (.symbol name)) .other spot
          return .global name
        else return .absent
    | some d =>
      match d.meaning with
      | .refused => pure ()
      | _ => complain spot ("'" ++ name ++ "' redeclared as different kind of symbol")
      return .absent
  else if isOutside then
    if hasValue then complain spot ("'" ++ name ++ "' has both 'extern' and initializer")
    let clash ← refuseAgain name ty spot
    if !clash then
      let ok ← declareGlobal name ty false true spot
      if ok then bind name (.object ty (.symbol name)) .other spot
    return .absent
  else
    let role : Role := if isMarkedUnused attributes then .other else .variable
    let clash ← refuseAgain name ty spot
    if clash then return .absent
    else if ← refuseType name ty spot (hasValue || d.count.isSome) then
      bind name .refused .other spot
      return .absent
    else if isStatic && d.count.isSome then
      complain spot ("storage size of '" ++ name ++ "' isn't constant")
      bind name .refused .other spot
      return .absent
    else if isStatic then
      let datum := name ++ "." ++ toString (← get).nextId
      bind name (.object ty (.symbol datum)) role spot
      return .lasting datum
    else
      let depth := (← get).bodies.length
      let align := ty.align (← get).records
      match d.count with
      | some count =>
        let offset ← allocate 16 8
        bind name (.object ty (.load .address (.frame depth offset))) role spot
        return .dynamic offset count
      | none =>
        let offset ← allocate ((← sizeOf ty).getD 0) (max 1 align)
        if specifiers.isRegister then
          modify fun s => { s with registers := s.nextId :: s.registers }
        if !hasValue && ty.isScalar then
          modify fun s => { s with unset := s.nextId :: s.unset }
        bind name (.object ty (.frame depth offset)) role spot
        return .frame offset

def completeType (name : String) (ty : Ty) (place : Code → Code) : Read Unit := modify fun s =>
  { s with levels := match s.levels with
    | [] => []
    | level :: rest =>
      let complete (d : Declared) : Declared :=
        match d.meaning with
        | .object _ old => if d.name == name then { d with meaning := .object ty (place old) } else d
        | _ => d
      { level with names := level.names.map complete } :: rest }

def requireStatic (codes : List Code) (spot : Spot) : Read Unit := do
  let isStatic : Code → Bool
    | .store _ _ value => value.isStatic
    | _ => true
  if !codes.all isStatic then complain spot "initializer element is not constant"

def giveInitial (nested : Nested) (home : Home) (name : String) (ty : Ty) (spot : Spot) :
    Read (List Statement) := do
  let (full, stores) ← nested.initial ty
  let size := (← sizeOf full).getD 0
  match home with
  | .absent => return []
  | .global global =>
    let content := stores (.symbol global)
    requireStatic content spot
    match ← global? global with
    | some g =>
      if g.isDefined then complain spot ("redefinition of '" ++ name ++ "'")
      setGlobal { g with ty := full, isDefined := true, isOutside := false, content }
    | none => pure ()
    completeType name full id
    return []
  | .lasting datum =>
    let content := stores (.symbol datum)
    requireStatic content spot
    modify fun s => { s with data := ⟨datum, size, content⟩ :: s.data }
    completeType name full id
    return []
  | .dynamic .. =>
    complain spot "variable-sized object may not be initialized"
    return []
  | .frame offset =>
    let grows := (← sizeOf ty).isNone
    let offset ← if grows then allocate size 8 else pure offset
    let depth := (← get).bodies.length
    if grows then completeType name full fun _ => .frame depth offset
    let place := Code.frame 0 offset
    let codes := stores place
    let clear := if full.isArray || full.isRecord then [Statement.act (.clear size place)] else []
    return clear ++ codes.map .act

def leaveBlank (home : Home) (ty : Ty) : Read (List Statement) := do
  match home with
  | .lasting datum =>
    let size := (← sizeOf ty).getD 0
    modify fun s => { s with data := ⟨datum, size, []⟩ :: s.data }
    return []
  | .dynamic offset count =>
    let element := (← sizeOf ((ty.target?).getD .char)).getD 1
    refer "alloca"
    let size := Shape.integer 8 false
    return [
      .act (.store size (.frame 0 (offset + 8)) (.compute .mul size count (.integer element))),
      .act (.store .address (.frame 0 offset)
        (.call (.symbol "alloca") [(size, .load size (.frame 0 (offset + 8)))] .address))]
  | _ => return []

/-! Functions. -/

def bindParameters : List Parameter → Read (List (Nat × Shape))
  | [] => return []
  | p :: rest => do
    let shape ← shapeOf p.ty
    let offset ← allocate shape.size (max 1 (p.ty.align (← get).records))
    match p.name with
    | some (name, spot) =>
      let depth := (← get).bodies.length
      if (← lookupHere name).isSome then complain spot ("redefinition of parameter '" ++ name ++ "'")
      bind name (.object p.ty (.frame depth offset)) .parameter spot
    | none => pure ()
    return (offset, shape) :: (← bindParameters rest)

def sayUndefinedLabels (b : Body) : Read Unit := do
  for l in b.labels do
    if !l.isDefined then complain l.spot ("label '" ++ l.name ++ "' used but not defined")
    else if !l.isUsed then
      warn "unused-label" l.spot ("label '" ++ l.name ++ "' defined but not used")

def functionBody (nested : Nested) (name link : String) (ty : Ty) (parameters : List Parameter)
    (outside : Nat) : Read Unit := do
  let (result, variadic) := match ty.plain with
    | .function result _ variadic _ => (result, variadic)
    | _ => (.int, false)
  modify fun s => { s with
    bodies := ⟨name, result, 0, [], 0, [], false, false, outside, variadic⟩ :: s.bodies }
  openLevel
  let places ← bindParameters parameters
  if !(← require "\x7b") then skipStatement
  let body ← blockRest nested
  let behind := (← get).behind
  match ← body? with
  | some b => sayUndefinedLabels b
  | none => pure ()
  closeLevel
  if !result.isVoid && !body.ends && name != "main" then
    warn "return-type" behind "control reaches end of non-void function"
  let shape ← shapeOf result
  modify fun s => { s with
    bodies := s.bodies.tail
    routines := ⟨link, ((s.bodies.head?).map (·.frameSize)).getD 0, places, shape, body⟩ ::
      s.routines }

def defineFunction (nested : Nested) (specifiers : Specifiers) (d : Declarator) (name : String)
    (spot : Spot) : Read Unit := do
  let ty := d.apply specifiers.ty
  let parameters := d.parameters.getD []
  noteAttributes name (specifiers.attributes ++ d.attributes)
  let isStatic := specifiers.storage == some .internal
  match ← lookupHere name with
  | some { meaning := .object .., .. } | none => pure ()
  | some _ => complain spot ("'" ++ name ++ "' redeclared as different kind of symbol")
  let isNew := (← global? name).isNone
  let ok ← declareGlobal name ty isStatic false spot
  match ← global? name with
  | some g =>
    if g.isDefined && ok then complain spot ("redefinition of '" ++ name ++ "'")
    setGlobal { g with
      isDefined := true
      isOutside := false
      isStatic := if isNew then isStatic else g.isStatic
      spot
      ty }
  | none => pure ()
  bind name (.object ty (.symbol name)) .other spot
  functionBody nested name name ty parameters (← get).levels.length

def defineInner (nested : Nested) (specifiers : Specifiers) (d : Declarator) (name : String)
    (spot : Spot) : Read Unit := do
  let ty := d.apply specifiers.ty
  let s ← get
  let link := name ++ "." ++ toString s.nextId
  if specifiers.storage == some .internal then
    complain spot ("invalid storage class for function '" ++ name ++ "'")
  let _ ← refuseAgain name ty spot
  bind name (.object ty (.inner link s.bodies.length)) .other spot
  functionBody nested name link ty (d.parameters.getD []) s.levels.length

/-! Declarations. -/

def staticAssertion (nested : Nested) (spot : Spot) : Read Unit := do
  if ← require "(" then
    let e ← nested.conditional
    let text ← if ← accept "," then
        match ← peek with
        | some t =>
          if t.kind == .text then advance
          pure t.spelling
        | none => pure ""
      else pure ""
    requireSkipping ")"
    requireSkipping ";"
    match e.code.constant? with
    | some n => if n = 0 then complain spot ("static assertion failed: " ++ text)
    | none =>
      if !e.ty.isUnknown then complain e.spot "expression in static assertion is not constant"

def oldParameters (nested : Nested) : Nat → List Parameter → Read (List Parameter)
  | 0, done => return done
  | fuel + 1, done => do
    if (← nextIs "\x7b") || (← peek).isNone then return done
    else
      let specifiers ← nested.specifiers true
      if !specifiers.isSeen then return done
      else
        let d ← nested.declarator .named true
        let _ ← accept ","
        let _ ← accept ";"
        match d with
        | some d =>
          let p : Parameter := ⟨d.name, passedType (d.apply specifiers.ty)⟩
          oldParameters nested fuel (done ++ [p])
        | none => return done

-- The assembler takes what stands between quotes for a name, whatever it is.
def setLinkName (name : String) (texts : List Token) : Read Unit := modify fun s =>
  let text := (Utf8.lossyChars (texts.flatMap fun t => Literal.contents t.spelling))
  let bare := if text.head? == some '"' then (text.drop 1).dropLast else text
  { s with linkNames := (name, String.ofList bare) :: s.linkNames }

def declaratorLoop (nested : Nested) (specifiers : Specifiers) :
    Nat → Bool → List Statement → Read (List Statement)
  | 0, _, done => return done
  | fuel + 1, canDefine, done => do
    let inside := !(← atFile)
    match ← nested.declarator .named specifiers.hasType with
    | none =>
      skipStatement
      return done
    | some d =>
      let (name, spot) := d.name.getD ("", default)
      let next ← peek
      let isWord (w : String) : Bool := next.any (·.isWord w)
      if next.any (fun t => t.isMark "=" || t.isMark "," || t.isMark ";") ||
          assemblyWords.any isWord || attributeWords.any isWord then
        if !specifiers.isSeen then
          warn "implicit-int" spot "data definition has no type or storage class"
        else if !specifiers.hasType then
          warn "implicit-int" spot ("type defaults to 'int' in declaration of '" ++ name ++ "'")
        if assemblyWords.any isWord then
          advance
          if ← accept "(" then setLinkName name (← balanced (← limit) 0 [])
        let behind ← attributes
        let d := { d with attributes := d.attributes ++ behind }
        let ty := d.apply specifiers.ty
        let start ← if ← accept "=" then
            let home ← declare specifiers d name spot true
            giveInitial nested home name ty spot
          else
            let home ← declare specifiers d name spot false
            leaveBlank home ty
        let done := done ++ start
        if ← accept "," then
          let _ ← attributes
          declaratorLoop nested specifiers fuel false done
        else if ← accept ";" then return done
        else
          refuse "expected ',' or ';'"
          skipStatement
          return done
      else if !canDefine then
        refuse "expected '=', ',', ';', 'asm' or '__attribute__'"
        skipStatement
        return done
      else if !(d.apply specifiers.ty).isFunction || d.parameters.isNone ||
          specifiers.storage == some .alias then
        let another ← match next with
          | some t => startsSpecifiers t
          | none => pure false
        if another then
          let _ ← require ";"
          setFailing false
        else refuse "expected '=', ',', ';', 'asm' or '__attribute__'"
        return done
      else
        let old ← oldParameters nested (← limit) []
        let named (p : Parameter) : Parameter :=
          (old.find? fun q => q.name.map (·.1) == p.name.map (·.1)).getD p
        let d := { d with parameters := d.parameters.map (·.map named) }
        if !specifiers.isSeen then warn "implicit-int" spot "return type defaults to 'int'"
        if inside then defineInner nested specifiers d name spot
        else defineFunction nested specifiers d name spot
        return done

def declaration (nested : Nested) : Read (List Statement) := do
  let inside := !(← atFile)
  let start ← peek
  if start.any fun t => assemblyWords.any t.isWord then
    advance
    assembly
    return []
  else if start.any (·.isWord "_Static_assert") then
    advance
    staticAssertion nested ((start.map (·.spot)).getD default)
    return []
  else
    let second ← peekSecond
    let unknown ← match start with
      | some t =>
        if isName t && second.any (fun u => isName u || u.isMark "*") then
          match ← lookup t.spelling with
          | some d => pure (!inside && match d.meaning with
            | .alias _ => false
            | _ => true)
          | none => pure true
        else pure false
      | none => pure false
    if unknown then
      match start with
      | some t =>
        complain t.spot ("unknown type name '" ++ t.spelling ++ "'")
        advance
      | none => pure ()
    let specifiers ← nested.specifiers true
    let specifiers := if unknown then
      { specifiers with ty := .unknown, isSeen := true, hasType := true } else specifiers
    if (← get).failing then
      skipStatement
      return []
    else if inside && !specifiers.isSeen then
      refuse "expected declaration specifiers"
      skipStatement
      return []
    else if ← accept ";" then
      return []
    else
      let next ← peek
      let lost ← match next with
        | some t =>
          if specifiers.definesTag && t.kind == .word && !isName t then startsSpecifiers t
          else pure false
        | none => pure false
      if lost then
        refuse "expected ';', identifier or '('"
        setFailing false
        return []
      else declaratorLoop nested specifiers (← limit) (!(unknown && inside)) []

end Read
end Fragment.Program
