import Fragment.Program.Code
import Fragment.Program.Message
/-!
The state in which a program is read: the tokens ahead, what is declared where, what was said, and
the parts of the image that are finished. An error is said once; what follows it is skipped up to a
place where reading can go on, and no second error is said on the way.
-/
namespace Fragment.Program

inductive Meaning where
  | object (ty : Ty) (place : Code)
  | alias (ty : Ty)
  | constant (value : Int)
  | refused
deriving Inhabited

-- What a declared name is for, if it matters that nothing uses it.
inductive Role where
  | variable
  | parameter
  | other
deriving DecidableEq, Inhabited

-- A declared name. The number tells declarations apart.
structure Declared where
  name : String
  -- Of an object in a frame, the place is given with the number of open functions.
  meaning : Meaning
  role : Role
  spot : Spot
  id : Nat
deriving Inhabited

structure Level where
  names : List Declared
  -- The numbers of structures and unions; nothing for an enumeration.
  tags : List (String × Option Nat)
deriving Inhabited

structure Global where
  name : String
  ty : Ty
  spot : Spot
  isStatic : Bool
  isDefined : Bool
  -- It is declared, but only as one that is defined elsewhere.
  isOutside : Bool
  content : List Code
deriving Inhabited

structure Label where
  name : String
  number : Nat
  isDefined : Bool
  isUsed : Bool
  spot : Spot
deriving Inhabited

structure Cases where
  labels : List (Int × Nat)
  other : Option Nat
deriving Inhabited

structure Body where
  name : String
  result : Ty
  frameSize : Nat
  labels : List Label
  nextLabel : Nat
  switches : List Cases
  inLoop : Bool
  canLeave : Bool
  outside : Nat
  variadic : Bool
deriving Inhabited

structure Reading where
  tokens : List Token
  behind : Spot
  ending : Spot
  failing : Bool
  inChoice : Bool
  messages : List Message
  levels : List Level
  records : Records
  bodies : List Body
  globals : List Global
  routines : List Routine
  data : List Datum
  texts : Array Octets
  named : List Nat
  valued : List Nat
  unset : List Nat
  assigned : Option Nat
  registers : List Nat
  nextId : Nat
  constructors : List (Nat × String)
  destructors : List (Nat × String)
  referenced : List String
  linkNames : List (String × String)
deriving Inhabited

abbrev Read := StateM Reading

namespace Read

def keywords : List String := ["auto", "break", "case", "char", "const", "continue", "default", "do",
  "double", "else", "enum", "extern", "float", "for", "goto", "if", "inline", "int", "long",
  "register", "restrict", "return", "short", "signed", "sizeof", "static", "struct", "switch",
  "typedef", "union", "unsigned", "void", "volatile", "while", "_Alignas", "_Alignof", "_Atomic",
  "_Bool", "_Noreturn", "_Static_assert", "_Thread_local", "asm", "typeof", "__attribute__",
  "__attribute", "__extension__", "__inline", "__inline__", "__const", "__const__", "__volatile__",
  "__restrict", "__restrict__", "__typeof__", "__typeof", "__signed__", "__asm__", "__asm",
  "_Generic", "__thread", "__alignof__", "__func__", "__FUNCTION__"]

def isName (t : Token) : Bool := t.kind == .word && !keywords.contains t.spelling

def peek : Read (Option Token) := return (← get).tokens.head?

def peekSecond : Read (Option Token) := return (← get).tokens.tail.head?

def advance : Read Unit := modify fun s =>
  match s.tokens with
  | [] => s
  | t :: rest =>
    { s with tokens := rest, behind := { t.spot with column := t.spot.column + t.octetCount } }

def nextIs (mark : String) : Read Bool := return (← peek).any (·.isMark mark)

def nextIsWord (word : String) : Read Bool := return (← peek).any (·.isWord word)

def accept (mark : String) : Read Bool := do
  let found ← nextIs mark
  if found then advance
  return found

def acceptWord (word : String) : Read Bool := do
  let found ← nextIsWord word
  if found then advance
  return found

def spot : Read Spot := do
  let s ← get
  return match s.tokens with
    | t :: _ => t.spot
    | [] => s.ending

def say (weight : Weight) (spot : Spot) (text : String) : Read Unit :=
  modify fun s => { s with
    messages := ⟨weight, spot, text, s.bodies.head?.map (·.name)⟩ :: s.messages }

def complain (spot : Spot) (text : String) : Read Unit := say .error spot text

def warn (group : String) (spot : Spot) (text : String) : Read Unit := say (.warning group) spot text

def beforeNext : Read String := do
  return match (← get).tokens with
    | [] => " at end of input"
    | t :: _ => match t.kind with
      | .number => " before numeric constant"
      | .text => " before string constant"
      | .mark => " before '" ++ t.spelling ++ "' token"
      | _ => " before '" ++ t.spelling ++ "'"

def setFailing (failing : Bool) : Read Unit := modify fun s => { s with failing }

-- An error of form, which is only said if none is being recovered from.
def refuseAt (spot : Spot) (text : String) : Read Unit := do
  if !(← get).failing then
    complain spot (text ++ (← beforeNext))
    setFailing true

def refuse (text : String) : Read Unit := do
  refuseAt (← spot) text

def require (mark : String) : Read Bool := do
  if ← accept mark then return true
  else
    refuseAt (← get).behind ("expected '" ++ mark ++ "'")
    return false

def opens (t : Token) : Bool := t.isMark "\x7b" || t.isMark "(" || t.isMark "["

def closes (t : Token) : Bool := t.isMark "\x7d" || t.isMark ")" || t.isMark "]"

def skipTo (mark : String) : Nat → Nat → Read Unit
  | 0, _ => return
  | fuel + 1, depth => do
    match ← peek with
    | none => return
    | some t =>
      if t.isMark mark && depth == 0 then
        advance
        setFailing false
      else if closes t && depth == 0 then setFailing false
      else
        advance
        skipTo mark fuel (if opens t then depth + 1 else if closes t then depth - 1 else depth)

def requireSkipping (mark : String) : Read Unit := do
  if !(← require mark) then skipTo mark ((← get).tokens.length + 1) 0

def skipStatementFrom : Nat → Nat → Read Unit
  | 0, _ => return
  | fuel + 1, depth => do
    match ← peek with
    | none => return
    | some t =>
      advance
      if t.isMark ";" && depth == 0 then setFailing false
      else if t.isMark "\x7d" && depth ≤ 1 then setFailing false
      else
        skipStatementFrom fuel
          (if t.isMark "\x7b" then depth + 1 else if t.isMark "\x7d" then depth - 1 else depth)

def skipStatement : Read Unit := do
  skipStatementFrom ((← get).tokens.length + 1) 0

/-! Names. -/

def lookup (name : String) : Read (Option Declared) := do
  return (← get).levels.findSome? fun level => level.names.find? (·.name == name)

def lookupHere (name : String) : Read (Option Declared) := do
  return (← get).levels.head?.bind fun level => level.names.find? (·.name == name)

def atFile : Read Bool := return (← get).bodies.isEmpty

def freshId : Read Nat := modifyGet fun s => (s.nextId, { s with nextId := s.nextId + 1 })

def bind (name : String) (meaning : Meaning) (role : Role) (spot : Spot) : Read Unit := do
  let id ← freshId
  modify fun s => { s with levels := match s.levels with
    | [] => [⟨[⟨name, meaning, role, spot, id⟩], []⟩]
    | level :: rest =>
      { level with names := ⟨name, meaning, role, spot, id⟩ :: level.names } :: rest }

def bindAt (depth : Nat) (name : String) (meaning : Meaning) (spot : Spot) : Read Unit := do
  let id ← freshId
  modify fun s =>
    let index := s.levels.length - 1 - depth
    { s with levels := s.levels.modify index fun level =>
        { level with names := ⟨name, meaning, .other, spot, id⟩ :: level.names } }

def markNamed (id : Nat) : Read Unit := modify fun s =>
  if s.named.contains id then s else { s with named := id :: s.named }

def markValued (id : Nat) : Read Unit := modify fun s =>
  if s.valued.contains id then s else { s with valued := id :: s.valued }

def markSet (id : Nat) : Read Unit := modify fun s => { s with unset := s.unset.filter (· != id) }

def openLevel : Read Unit := modify fun s => { s with levels := ⟨[], []⟩ :: s.levels }

def closeLevel : Read Unit := do
  let s ← get
  match s.levels with
  | [] => return
  | level :: rest =>
    for d in level.names.reverse do
      match d.role with
      | .variable =>
        if !s.named.contains d.id then
          warn "unused-variable" d.spot ("unused variable '" ++ d.name ++ "'")
        else if !s.valued.contains d.id then
          warn "unused-but-set-variable" d.spot ("variable '" ++ d.name ++ "' set but not used")
      | .parameter =>
        if !s.named.contains d.id then
          warn "unused-parameter" d.spot ("unused parameter '" ++ d.name ++ "'")
      | .other => pure ()
    modify fun s => { s with levels := rest }

/-! The function whose body is read. -/

def body? : Read (Option Body) := return (← get).bodies.head?

def modifyBody (f : Body → Body) : Read Unit := modify fun s =>
  { s with bodies := match s.bodies with
    | [] => []
    | b :: rest => f b :: rest }

def allocate (size align : Nat) : Read Nat := do
  match ← body? with
  | none => return 0
  | some b =>
    let offset := (b.frameSize + align - 1) / align * align
    modifyBody fun b => { b with frameSize := offset + size }
    return offset

def freshLabel : Read Nat := do
  match ← body? with
  | none => return 0
  | some b =>
    modifyBody fun b => { b with nextLabel := b.nextLabel + 1 }
    return b.nextLabel

def addText (octets : Octets) : Read Nat := modifyGet fun s =>
  match s.texts.findIdx? (· == octets) with
  | some i => (i, s)
  | none => (s.texts.size, { s with texts := s.texts.push octets })

/-! Names of the whole file. -/

def global? (name : String) : Read (Option Global) := do
  return (← get).globals.find? (·.name == name)

def setGlobal (g : Global) : Read Unit := modify fun s =>
  if s.globals.any (·.name == g.name) then
    { s with globals := s.globals.map fun h => if h.name == g.name then g else h }
  else { s with globals := g :: s.globals }

def refer (name : String) : Read Unit := modify fun s =>
  if s.referenced.contains name then s else { s with referenced := name :: s.referenced }

end Read
end Fragment.Program
