import Fragment.Program.Expression
/-!
Statements as they are written, and the bodies of functions.
-/
namespace Fragment.Program.Read

def limit : Read Nat := return (← get).tokens.length + 1

def labelNumber (t : Token) (defines : Bool) : Read Nat := do
  match ← body? with
  | none => return 0
  | some b =>
    match b.labels.find? (·.name == t.spelling) with
    | some l =>
      if defines then
        if l.isDefined then complain t.spot ("duplicate label '" ++ t.spelling ++ "'")
      modifyBody fun b => { b with labels := b.labels.map fun m =>
        if m.name != t.spelling then m
        else if defines then { m with isDefined := true, spot := t.spot }
        else { m with isUsed := true } }
      return l.number
    | none =>
      let n ← freshLabel
      modifyBody fun b => { b with
        labels := b.labels ++ [⟨t.spelling, n, defines, !defines, t.spot⟩] }
      return n

def caseLabel (value : Option Int) (spot : Spot) : Read Statement := do
  let n ← freshLabel
  match ← body? with
  | none => return .skip
  | some b =>
    match b.switches with
    | [] =>
      complain spot (if value.isSome then "case label not within a switch statement"
        else "'default' label not within a switch statement")
      return .skip
    | chosen :: rest =>
      let chosen ← match value with
        | some v =>
          if chosen.labels.any (·.1 == v) then complain spot "duplicate case value"
          pure { chosen with labels := chosen.labels ++ [(v, n)] }
        | none =>
          if chosen.other.isSome then complain spot "multiple default labels in one switch"
          pure { chosen with other := some n }
      modifyBody fun b => { b with switches := chosen :: rest }
      return .label n

def assemblyQualifiers : Nat → Read Unit
  | 0 => return
  | fuel + 1 => do
    if (← acceptWord "volatile") || (← acceptWord "__volatile__") || (← acceptWord "inline") ||
        (← acceptWord "goto") then assemblyQualifiers fuel

-- Instructions of the processor, behind the word that begins them. They are taken as they are
-- and do nothing.
def assembly : Read Unit := do
  assemblyQualifiers 4
  if ← require "(" then
    if (← peek).any (·.kind == .text) then
      let _ ← balanced (← limit) 0 []
    else
      refuse "expected string literal"
      skipTo ")" (← limit) 0
  requireSkipping ";"

def labelNext : Read Bool := do
  match ← peek with
  | some t =>
    if t.isWord "case" || t.isWord "default" then return true
    else if isName t then return (← peekSecond).any (·.isMark ":")
    else return false
  | none => return false

def label (nested : Nested) : Read Statement := do
  match ← peek with
  | none => return .skip
  | some t =>
    advance
    if t.isWord "case" then
      let e ← nested.conditional
      let result ← match e.code.constant? with
        | some n => caseLabel (some n) t.spot
        | none =>
          if !e.ty.isUnknown then
            complain e.spot "case label does not reduce to an integer constant"
          pure .skip
      if !(← require ":") then setFailing true
      return result
    else if t.isWord "default" then
      let result ← caseLabel none t.spot
      let _ ← require ":"
      return result
    else
      advance
      let _ ← attributes
      return .label (← labelNumber t true)

def tested (nested : Nested) : Read Code := do
  let e ← nested.expression
  let s ← get
  if s.assigned == some s.tokens.length then
    warn "parentheses" e.spot "suggest parentheses around assignment used as truth value"
  testCode e

def condition (nested : Nested) : Read Code := do
  if !(← require "(") then return .integer 0
  else
    let code ← tested nested
    requireSkipping ")"
    return code

def within (inLoop : Bool) (read : Read Statement) : Read Statement := do
  match ← body? with
  | none => read
  | some b =>
    modifyBody fun b => { b with inLoop := b.inLoop || inLoop, canLeave := true }
    let s ← read
    modifyBody fun now => { now with inLoop := b.inLoop, canLeave := b.canLeave }
    return s

def blockLoop (nested : Nested) : Nat → List Statement → Read (List Statement)
  | 0, done => return done.reverse
  | fuel + 1, done => do
    match ← peek with
    | none =>
      refuse "expected declaration or statement"
      return done.reverse
    | some t =>
      if t.isMark "\x7d" then
        advance
        return done.reverse
      else if t.isWord "else" then
        if (← get).inChoice then
          complain t.spot "expected '\x7d' before 'else'"
          return done.reverse
        else
          complain t.spot "'else' without a previous 'if'"
          advance
          blockLoop nested fuel done
      else
        let read ← if ← labelNext then pure [← label nested]
          else if ← startsDeclaration then nested.declaration
          else pure [← nested.statement]
        setFailing false
        blockLoop nested fuel (read.reverse ++ done)

def blockRest (nested : Nested) : Read Statement := do
  return .block (← blockLoop nested (← limit) [])

def block (nested : Nested) : Read Statement := do
  openLevel
  let s ← blockRest nested
  closeLevel
  return s

def labelsLoop (nested : Nested) : Nat → List Statement → Read (List Statement)
  | 0, done => return done.reverse
  | fuel + 1, done => do
    if ← labelNext then
      let l ← label nested
      labelsLoop nested fuel (l :: done)
    else return done.reverse

def labelled (nested : Nested) : Read Statement := do
  match ← labelsLoop nested (← limit) [] with
  | [] => nested.statement
  | labels => return .block (labels ++ [← nested.statement])

def choice (nested : Nested) : Read Statement := do
  let test ← condition nested
  let part : Read Statement := do
    let labels ← labelsLoop nested (← limit) []
    if (← nextIs ";") && !(← peekSecond).any (·.isWord "else") then
      warn "empty-body" (← spot) "suggest braces around empty body"
    let s ← if ← accept "\x7b" then block nested else nested.statement
    return if labels.isEmpty then s else .block (labels ++ [s])
  let outer := (← get).inChoice
  modify fun s => { s with inChoice := true }
  let yes ← part
  modify fun s => { s with inChoice := outer }
  if ← acceptWord "else" then return .choose test yes (← part)
  else return .choose test yes .skip

def forLoop (nested : Nested) : Read Statement := do
  openLevel
  let mut first : List Statement := []
  let mut test : Code := .integer 1
  let mut after : Code := .integer 0
  if ← require "(" then
    if ← accept ";" then pure ()
    else if ← startsDeclaration then first ← nested.declaration
    else
      let e ← nested.expression
      first := [.act (← effectCode e)]
      requireSkipping ";"
    if ← accept ";" then pure ()
    else
      test ← tested nested
      requireSkipping ";"
    if !(← nextIs ")") then after ← effectCode (← nested.expression)
    requireSkipping ")"
  let body ← within true (labelled nested)
  closeLevel
  return .block (first ++ [.loop true test after body])

def switch (nested : Nested) : Read Statement := do
  let value ← if !(← require "(") then pure (.integer 0)
    else
      let e ← valueOf (← nested.expression)
      if !e.ty.isInteger && !e.ty.isUnknown then
        complain e.spot "switch quantity not an integer"
      requireSkipping ")"
      convertCode e.ty.promote e
  modifyBody fun b => { b with switches := ⟨[], none⟩ :: b.switches }
  let body ← within false (labelled nested)
  let chosen := ((← body?).bind (·.switches.head?)).getD ⟨[], none⟩
  modifyBody fun b => { b with switches := b.switches.tail }
  return .select value chosen.labels chosen.other body

def returned (nested : Nested) (spot : Spot) : Read Statement := do
  let result := ((← body?).map (·.result)).getD .int
  if ← accept ";" then
    if !result.isVoid then
      warn "return-mismatch" spot "'return' with no value, in function returning non-void"
    return .give none
  else
    let e ← nested.expression
    let code ← if result.isVoid then
        let e ← valueOf e
        if !e.ty.isVoid && !e.ty.isUnknown then
          warn "return-mismatch" spot "'return' with a value, in function returning void"
        pure e.code
      else assignCode result e "return"
    requireSkipping ";"
    return if result.isVoid then .block [.act code, .give none] else .give (some code)

def expressionStatement (nested : Nested) : Read Statement := do
  let e ← nested.expression
  sayIdle e "statement with no effect"
  let code ← effectCode e
  requireSkipping ";"
  return .act code

def wordStatement (nested : Nested) (t : Token) : Read Statement := do
  let leave (allowed : Bool) (text : String) (s : Statement) : Read Statement := do
    advance
    if !allowed then complain t.spot text
    requireSkipping ";"
    return s
  let b ← body?
  match t.spelling with
  | "if" =>
    advance
    choice nested
  | "while" =>
    advance
    let test ← condition nested
    let body ← within true (labelled nested)
    return .loop true test (.integer 0) body
  | "do" =>
    advance
    let body ← within true (labelled nested)
    if !(← acceptWord "while") then refuse "expected 'while'"
    let test ← condition nested
    if !(← require ";") then skipStatement
    return .loop false test (.integer 0) body
  | "for" =>
    advance
    forLoop nested
  | "switch" =>
    advance
    switch nested
  | "return" =>
    advance
    returned nested t.spot
  | "break" =>
    let allowed := (b.map (·.canLeave)).getD false
    leave allowed "break statement not within loop or switch" .leave
  | "continue" =>
    let allowed := (b.map (·.inLoop)).getD false
    leave allowed "continue statement not within a loop" .again
  | "goto" =>
    advance
    match ← optionalName with
    | some name =>
      let n ← labelNumber name false
      requireSkipping ";"
      return .jump n
    | none =>
      refuse "expected identifier or '*'"
      requireSkipping ";"
      return .skip
  | _ =>
    if attributeWords.contains t.spelling then
      let _ ← attributes
      requireSkipping ";"
      return .skip
    else if assemblyWords.contains t.spelling then
      advance
      assembly
      return .skip
    else expressionStatement nested

def statement (nested : Nested) : Read Statement := do
  let outer := (← get).inChoice
  modify fun s => { s with inChoice := false }
  let s ← match ← peek with
    | none => expressionStatement nested
    | some t =>
      if t.kind == .word then wordStatement nested t
      else if t.isMark "\x7b" then
        advance
        block nested
      else if t.isMark ";" then
        advance
        pure .skip
      else if t.isMark ")" || t.isMark "]" then
        refuse "expected statement"
        advance
        pure .skip
      else expressionStatement nested
  modify fun s => { s with inChoice := outer }
  return s

end Fragment.Program.Read
