import Fragment.Program.Condition
import Fragment.Program.Header
import Fragment.Program.Macro
import Fragment.Program.Message
/-!
Directives: lines that begin with a hash mark. They define macros, include other texts, leave out
parts, and set the file name and the line number that messages show. What remains are the tokens of
the program with all macros expanded.
-/
namespace Fragment.Program

-- A text to include: the name that messages show, its characters, and whether reading it a
-- second time has an effect.
structure Included where
  name : String
  text : List Char
  again : Bool

abbrev Finder := Bool → String → Option Included

structure Branch where
  active : Bool
  decided : Bool
  outer : Bool
  isLast : Bool
  spot : Spot
deriving DecidableEq, Repr

structure Preprocessing where
  macros : Macros
  -- Tokens with macros expanded, the last one first.
  done : List Token
  waiting : List Token
  branches : List Branch
  messages : List Message
  once : List String
  ended : Bool
  file : String
  shift : Int

namespace Preprocessing

def start : Preprocessing := ⟨[], [], [], [], [], [], false, "", 0⟩

def isActive (s : Preprocessing) : Bool :=
  match s.branches with
  | [] => true
  | b :: _ => b.active

def say (s : Preprocessing) (weight : Weight) (t : Token) (text : String) : Preprocessing :=
  { s with messages := ⟨weight, t.spot, text, none⟩ :: s.messages }

def complain (s : Preprocessing) (t : Token) (text : String) : Preprocessing := s.say .error t text

def settle (s : Preprocessing) : Preprocessing :=
  if s.waiting.isEmpty then s
  else { s with done := (s.macros.expand s.waiting.reverse).reverse ++ s.done, waiting := [] }

def place (s : Preprocessing) (t : Token) : Token :=
  let line := (t.spot.line + s.shift).toNat
  { t with spot := { t.spot with file := s.file, line }, usedAt := line }

def parameters? : List Token → List String → Option (List String × Bool × List Token)
  | [], _ => none
  | t :: rest, names =>
    if t.isMark ")" then some (names.reverse, false, rest)
    else if t.isMark "," then parameters? rest names
    else if t.isMark "..." then
      match rest with
      | close :: rest =>
        if close.isMark ")" then some (("__VA_ARGS__" :: names).reverse, true, rest) else none
      | [] => none
    else if t.kind == .word then parameters? rest (t.spelling :: names)
    else none

def define (s : Preprocessing) (word : Token) (tokens : List Token) : Preprocessing :=
  match tokens with
  | [] => s.complain word "no macro name given in #define directive"
  | name :: rest =>
    if name.kind != .word then s.complain name "macro names must be identifiers"
    else if name.spelling == "defined" then
      s.complain name "\"defined\" cannot be used as a macro name"
    else
      let add (m : Macro) : Preprocessing := { s with macros := s.macros.define name.spelling m }
      match rest with
      | bracket :: more =>
        if bracket.isMark "(" && !bracket.spaced then
          match parameters? more [] with
          | some (names, variadic, body) => add ⟨some names, variadic, body⟩
          | none => s.complain name "expected parameter name in macro parameter list"
        else add ⟨none, false, rest⟩
      | [] => add ⟨none, false, []⟩

def decideDefined (macros : Macros) : List Token → List Token → List Token
  | [], done => done.reverse
  | t :: rest, done =>
    let answer (name : Token) : Token := { t with
      kind := .number
      spelling := if (macros.get? name.spelling).isSome || name.spelling == "__LINE__" ||
        name.spelling == "__FILE__" then "1" else "0" }
    if t.isWord "defined" then
      match rest with
      | bracket :: name :: close :: more =>
        if bracket.isMark "(" && close.isMark ")" then decideDefined macros more (answer name :: done)
        else decideDefined macros (name :: close :: more) (answer bracket :: done)
      | name :: more => decideDefined macros more (answer name :: done)
      | [] => (t :: done).reverse
    else decideDefined macros rest (t :: done)

def condition (s : Preprocessing) (word : Token) (tokens : List Token) : Bool × Preprocessing :=
  match Condition.holds? (s.macros.expand (decideDefined s.macros tokens [])) with
  | some b => (b, s)
  | none => (false, s.complain word ("#" ++ word.spelling ++
      (if tokens.isEmpty then " with no expression" else ": expression is not valid")))

def openBranch (s : Preprocessing) (word : Token) (holds : Preprocessing → Bool × Preprocessing) :
    Preprocessing :=
  if s.isActive then
    let (b, s) := holds s
    { s with branches := ⟨b, b, true, false, word.spot⟩ :: s.branches }
  else { s with branches := ⟨false, true, false, false, word.spot⟩ :: s.branches }

def turnBranch (s : Preprocessing) (word : Token) (isLast : Bool)
    (holds : Preprocessing → Bool × Preprocessing) : Preprocessing :=
  match s.branches with
  | [] => s.complain word ("#" ++ word.spelling ++ " without #if")
  | b :: rest =>
    let s := if b.isLast then
        let s := s.complain word ("#" ++ word.spelling ++ " after #else")
        { s with messages := ⟨.error, { b.spot with column := 0 }, "the conditional began here", none⟩ ::
            s.messages }
      else s
    let b := { b with isLast := b.isLast || isLast }
    if b.decided || !b.outer then { s with branches := { b with active := false } :: rest }
    else
      let (now, s) := holds s
      { s with branches := { b with active := now, decided := now } :: rest }

def closeBranch (s : Preprocessing) (word : Token) : Preprocessing :=
  match s.branches with
  | [] => s.complain word "#endif without #if"
  | _ :: rest => { s with branches := rest }

def isDefined (word : Token) (name : Option Token) (s : Preprocessing) : Bool × Preprocessing :=
  match name with
  | some t => ((s.macros.get? t.spelling).isSome, s)
  | none => (false, s.complain word ("no macro name given in #" ++ word.spelling ++ " directive"))

def setLine (s : Preprocessing) (word : Token) (physical : Nat) (tokens : List Token) :
    Preprocessing :=
  match s.macros.expand tokens with
  | number :: rest =>
    match number.kind, Literal.integer number.spelling with
    | .number, .ok n =>
      let file := match rest with
        | name :: _ => if name.kind == .text then
            String.ofList ((name.spelling.toList.drop 1).dropLast) else s.file
        | [] => s.file
      { s with file, shift := (n.value : Int) - (physical + 1) }
    | _, _ => s.complain word ("\"" ++ number.spelling ++ "\" after #line is not a positive integer")
  | [] => s.complain word "unexpected end of file after #line"

def includeName? (tokens : List Token) : Option (Bool × String) :=
  match tokens with
  | t :: rest =>
    if t.kind == .text then some (false, String.ofList ((t.spelling.toList.drop 1).dropLast))
    else if t.isMark "<" then
      let inside := rest.takeWhile (!·.isMark ">")
      if inside.length < rest.length then some (true, Token.spellAll inside) else none
    else none
  | [] => none

def takeIn (enter : Preprocessing → Included → Preprocessing) (find : Finder) (s : Preprocessing)
    (word : Token) (tokens : List Token) : Preprocessing :=
  match (includeName? tokens).or (includeName? (s.macros.expand tokens)) with
  | none => s.complain word "#include expects \"FILENAME\" or <FILENAME>"
  | some (angled, name) => match find angled name with
    | none => { s.say .fatal (tokens.headD word) (name ++ ": No such file or directory") with
        ended := true }
    | some text =>
      if s.once.contains text.name then s
      else
        let (file, shift) := (s.file, s.shift)
        let s := if text.again then s else { s with once := text.name :: s.once }
        { (enter { s with file := text.name, shift := 0 } text).settle with file, shift }

def directive (enter : Preprocessing → Included → Preprocessing) (find : Finder)
    (s : Preprocessing) (hash : Token) (physical : Nat) (tokens : List Token) : Preprocessing :=
  match tokens with
  | [] => s
  | name :: rest =>
    match name.spelling with
    | "if" => s.openBranch name fun s => s.condition name rest
    | "ifdef" => s.openBranch name (isDefined name rest.head?)
    | "ifndef" => s.openBranch name fun s =>
        let (b, s) := isDefined name rest.head? s
        (!b && !rest.isEmpty, s)
    | "elif" => s.turnBranch name false fun s => s.condition name rest
    | "else" => s.turnBranch name true fun s => (true, s)
    | "endif" => s.closeBranch name
    | word =>
      if !s.isActive then s
      else match word with
        | "define" => s.define name rest
        | "undef" => match rest with
          | t :: _ => { s with macros := s.macros.erase t.spelling }
          | [] => s.complain name "no macro name given in #undef directive"
        | "include" => takeIn enter find s name rest
        | "line" => s.setLine name physical rest
        | "error" => s.complain name ("#error " ++ Token.spellAll rest)
        | "warning" => s.say (.warning "cpp") name ("#warning " ++ Token.spellAll rest)
        | "pragma" =>
          if rest.head?.any (·.isWord "once") then { s with once := s.file :: s.once } else s
        | "ident" => s
        | _ =>
          if name.kind == .number then s.setLine name physical tokens
          else s.complain (if name.kind == .word then name else hash)
            ("invalid preprocessing directive #" ++ name.spelling)

def line (enter : Preprocessing → Included → Preprocessing) (find : Finder) (s : Preprocessing)
    (tokens : List Token) : Preprocessing :=
  if s.ended then s
  else match tokens with
    | [] => s
    | first :: rest =>
      if first.isMark "#" then
        directive enter find s.settle (s.place first) first.spot.line (rest.map s.place)
      else if s.isActive then { s with waiting := (tokens.map s.place).reverse ++ s.waiting }
      else s

def depthLimit : Nat := 200

def text (find : Finder) : Nat → Preprocessing → Included → Preprocessing
  | 0, s, _ => { s with ended := true }
  | depth + 1, s, t =>
    let outside := s.branches
    let s := (tokenLines t.name t.text).foldl (line (text find depth) find)
      { s with branches := [], file := t.name, shift := 0 }
    let s := s.settle
    let unclosed := s.branches.map fun b => Message.mk .error { b.spot with column := 0 } "unterminated #if" none
    { s with messages := (if s.ended then [] else unclosed) ++ s.messages, branches := outside }

end Preprocessing

structure Preprocessed where
  tokens : List Token
  messages : List Message
  cut : Bool

def dropStray (tokens : List Token) : List Token × List Message :=
  let isStray (t : Token) : Bool :=
    t.kind == .stray || t.kind == .fault || t.isMark "#" || t.isMark "##"
  let text (t : Token) : String :=
    if t.kind == .fault then t.spelling
    else match t.spelling.toList with
      | '"' :: _ => "missing terminating \" character"
      | '\'' :: _ => "missing terminating ' character"
      | '/' :: '*' :: _ => "unterminated comment"
      | _ => "stray '" ++ t.spelling ++ "' in program"
  (tokens.filter (!isStray ·),
    (tokens.filter isStray).map fun t => ⟨.error, t.spot, text t, none⟩)

def preprocess (find : Finder) (definitions : String) (name : String) (text : List Char) :
    Preprocessed :=
  let enter := Preprocessing.text find Preprocessing.depthLimit
  let s := enter .start ⟨"<built-in>", Header.predefined.toList, true⟩
  let s := enter s ⟨"<command-line>", definitions.toList, true⟩
  let s := enter s ⟨name, text, true⟩
  let (tokens, strays) := dropStray s.done.reverse
  ⟨tokens, s.messages.reverse ++ strays, s.ended⟩

end Fragment.Program
