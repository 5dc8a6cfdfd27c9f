import Fragment.Program.Token
/-!
Macros and their expansion. A token that came out of a macro is not expanded by that macro again, so
every expansion ends; the number of steps is bounded all the same, since it may grow fast.
-/
namespace Fragment.Program

structure Macro where
  parameters : Option (List String)
  variadic : Bool
  body : List Token
deriving DecidableEq, Repr

abbrev Macros := List (String × Macro)

namespace Macros

def get? (macros : Macros) (name : String) : Option Macro := macros.lookup name

def erase (macros : Macros) (name : String) : Macros := macros.filter (·.1 != name)

def define (macros : Macros) (name : String) (m : Macro) : Macros := (name, m) :: macros.erase name

end Macros

-- The tokens of an argument in quotes, with quotes and backslashes inside literals escaped.
def quoteTokens (tokens : List Token) : String :=
  let escape (c : Char) : List Char := if c == '"' || c == '\\' then ['\\', c] else [c]
  let spell (t : Token) : Token :=
    if t.kind == .text || t.kind == .character then
      { t with spelling := String.ofList (t.spelling.toList.flatMap escape) }
    else t
  "\"" ++ Token.spellAll (tokens.map spell) ++ "\""

def pasteTokens (left right : Token) : Token :=
  let spelling := left.spelling ++ right.spelling
  { left with spelling, kind := (tokenAt (spelling.toList.map fun c => ⟨c, 0, 0⟩)).1 }

-- Stands for an argument without tokens while tokens are pasted.
def nothingAt (spot : Token) : Token := { spot with kind := .stray, spelling := "" }

structure Argument where
  given : List Token
  expanded : List Token

def substitute (called : Bool) (arguments : List (String × Argument)) :
    List Token → List Token → List Token
  | [], done => done
  | t :: rest, done =>
    let given (t : Token) : List Token :=
      match arguments.lookup t.spelling with
      | some a => if a.given.isEmpty then [nothingAt t] else a.given
      | none => [t]
    let expanded (t : Token) : List Token :=
      match arguments.lookup t.spelling with
      | some a => match a.expanded with
        | [] => []
        | first :: more => { first with spaced := t.spaced } :: more
      | none => [t]
    if called && t.isMark "#" then
      match rest with
      | p :: rest => match arguments.lookup p.spelling with
        | some a => substitute called arguments rest
            ({ t with kind := .text, spelling := quoteTokens a.given } :: done)
        | none => substitute called arguments rest (p :: t :: done)
      | [] => t :: done
    else if t.isMark "##" then
      match rest with
      | [] => done
      | p :: rest => match done with
        | [] => substitute called arguments rest (p :: done)
        | left :: before =>
          if left.isMark "," && p.isWord "__VA_ARGS__" then
            match (expanded p).reverse with
            | [] => substitute called arguments rest before
            | tokens => substitute called arguments rest (tokens ++ done)
          else match given p with
            | [] => substitute called arguments rest done
            | first :: more => substitute called arguments rest
                (more.reverse ++ pasteTokens left first :: before)
    else
      let tokens := if rest.head?.any (·.isMark "##") then given t else expanded t
      substitute called arguments rest (tokens.reverse ++ done)

def argumentsOf? : List Token → Nat → List Token → List (List Token) →
    Option (List (List Token) × Token × List Token)
  | [], _, _, _ => none
  | t :: rest, depth, current, done =>
    if t.isMark "(" then argumentsOf? rest (depth + 1) (t :: current) done
    else if t.isMark ")" then
      match depth with
      | 0 => some ((current.reverse :: done).reverse, t, rest)
      | depth + 1 => argumentsOf? rest depth (t :: current) done
    else if t.isMark "," && depth == 0 then argumentsOf? rest 0 [] (current.reverse :: done)
    else argumentsOf? rest depth (t :: current) done

def joinArguments (count : Nat) (arguments : List (List Token)) (comma : Token) :
    List (List Token) :=
  arguments.take count ++ match arguments.drop count with
    | [] => [[]]
    | more => [List.intercalate [{ comma with kind := .mark, spelling := "," }] more]

def bindArguments (m : Macro) (parameters : List String) (arguments : List (List Token))
    (close : Token) : Option (List (String × List Token)) :=
  let arguments := if parameters.isEmpty && arguments == [[]] then [] else arguments
  if m.variadic then
    if arguments.length + 1 < parameters.length then none
    else some (parameters.zip (joinArguments (parameters.length - 1) arguments close))
  else if arguments.length ≠ parameters.length then none
  else some (parameters.zip arguments)

def countFault (name : String) (m : Macro) (parameters : List String) (given : Nat) : String :=
  let plural (n : Nat) : String := if n = 1 then "" else "s"
  "macro \"" ++ name ++ "\" " ++
    if given < parameters.length then
      let needed := if m.variadic then parameters.length - 1 else parameters.length
      "requires " ++ (if m.variadic then "at least " else "") ++ toString needed ++ " argument" ++
        plural needed ++ ", but only " ++ toString given ++ " given"
    else "passed " ++ toString given ++ " argument" ++ plural given ++ ", but takes just " ++
      toString parameters.length

def faultAt (place : Token) (text : String) : Token := { place with kind := .fault, spelling := text }

-- Does the token come from a standard header, so that messages about it point elsewhere?
def isFromHeader (t : Token) : Bool := "/usr/include/".toList.isPrefixOf t.spot.file.toList

def replacement (m : Macro) (use : Token) (hidden : List String)
    (arguments : List (String × Argument)) : List Token :=
  let tokens := (substitute m.parameters.isSome arguments m.body []).reverse.filter fun t =>
    !(t.kind == .stray && t.spelling.isEmpty)
  let mark (t : Token) : Token :=
    { t with
      hidden := t.hidden ++ use.spelling :: hidden
      usedAt := use.usedAt
      spot := if isFromHeader t then use.spot else t.spot }
  match tokens.map mark with
  | [] => []
  | first :: rest => { first with spaced := use.spaced } :: rest

def expandMacros (macros : Macros) : Nat → List Token → List Token → List Token
  | 0, rest, done => done.reverse ++ rest
  | _ + 1, [], done => done.reverse
  | fuel + 1, t :: rest, done =>
    if t.kind != .word || t.hidden.contains t.spelling then expandMacros macros fuel rest (t :: done)
    else if t.spelling == "__LINE__" then
      expandMacros macros fuel rest ({ t with kind := .number, spelling := toString t.usedAt } :: done)
    else if t.spelling == "__FILE__" then
      expandMacros macros fuel rest
        ({ t with kind := .text, spelling := "\"" ++ t.spot.file ++ "\"" } :: done)
    else match macros.get? t.spelling with
      | none => expandMacros macros fuel rest (t :: done)
      | some m => match m.parameters with
        | none => expandMacros macros fuel (replacement m t t.hidden [] ++ rest) done
        | some parameters => match rest with
          | bracket :: after =>
            if !bracket.isMark "(" then expandMacros macros fuel rest (t :: done)
            else match argumentsOf? after 0 [] [] with
              | none =>
                let text := "unterminated argument list invoking macro \"" ++ t.spelling ++ "\""
                (faultAt (after.getLast?.getD bracket) text :: t :: done).reverse
              | some (arguments, close, after) =>
                match bindArguments m parameters arguments close with
                | none =>
                  let text := countFault t.spelling m parameters arguments.length
                  expandMacros macros fuel after (faultAt close text :: t :: done)
                | some bound =>
                  let hidden := t.hidden.filter close.hidden.contains
                  let arguments := bound.map fun (name, given) =>
                    (name, Argument.mk given (expandMacros macros fuel given []))
                  expandMacros macros fuel (replacement m t hidden arguments ++ after) done
          | [] => expandMacros macros fuel rest (t :: done)

def expansionLimit : Nat := 1000000

def Macros.expand (macros : Macros) (tokens : List Token) : List Token :=
  expandMacros macros expansionLimit tokens []

end Fragment.Program
