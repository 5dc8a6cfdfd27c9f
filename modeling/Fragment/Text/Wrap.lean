import Fragment.Text.Blank
import Fragment.Text.Line
import Fragment.Text.Width
/-!
Wrapping a text to a width. Words end where the Unicode line breaking rules allow a break; those of
the rules that concern letters, digits, punctuation and ideographs are kept. Each line takes as many
words as fit.
-/
namespace Fragment.Text

inductive BreakClass where
  | space
  | letter
  | number
  | opening
  | closing
  | bracket
  | quotation
  | exclamation
  | infixMark
  | slash
  | hyphen
  | breakAfter
  | currencyLike
  | percentLike
  | ideograph
  | combining
deriving DecidableEq, Repr

def breakClass (c : Char) : BreakClass :=
  if c = ' ' then .space
  else if c.isDigit then .number
  else if c = '(' ∨ c = '[' ∨ c = '\x7b' then .opening
  else if c = ')' ∨ c = ']' then .bracket
  else if c = '\x7d' then .closing
  else if c = '"' ∨ c = '\'' ∨ c = '‘' ∨ c = '’' ∨ c = '“' ∨ c = '”' then .quotation
  else if c = '!' ∨ c = '?' then .exclamation
  else if c = ',' ∨ c = '.' ∨ c = ':' ∨ c = ';' then .infixMark
  else if c = '/' then .slash
  else if c = '-' then .hyphen
  else if c = '|' ∨ c = '\t' then .breakAfter
  else if c = '$' ∨ c = '+' ∨ c = '\\' then .currencyLike
  else if c = '%' then .percentLike
  else if isCombining c then .combining
  else if isWide c then .ideograph
  else .letter

-- May a line end between the characters of these classes, of which `spaced` tells whether
-- spaces stand between them?
def mayBreak (spaced : Bool) (before after : BreakClass) : Bool :=
  if after = .space then false
  else if after = .closing || after = .bracket || after = .exclamation || after = .infixMark ||
      after = .slash then false
  else if before = .opening then false
  else if before = .quotation && after = .opening then false
  else if spaced then true
  else if after = .combining || after = .quotation || before = .quotation then false
  else if after = .breakAfter || after = .hyphen then false
  else match before, after with
    | .letter, .letter | .letter, .number | .number, .letter | .number, .number => false
    | .number, .percentLike | .number, .currencyLike => false
    | .bracket, .percentLike | .closing, .percentLike => false
    | .bracket, .currencyLike | .closing, .currencyLike => false
    | .currencyLike, .letter | .currencyLike, .number | .currencyLike, .opening => false
    | .percentLike, .letter | .percentLike, .number | .percentLike, .opening => false
    | .letter, .currencyLike | .letter, .percentLike => false
    | .currencyLike, .ideograph | .ideograph, .percentLike => false
    | .hyphen, .number | .infixMark, .number | .slash, .number => false
    | .infixMark, .letter => false
    | .letter, .opening | .number, .opening | .bracket, .letter | .bracket, .number => false
    | .combining, _ => false
    | _, _ => true

-- The stretches between the places where a line may end, other than those after a hyphen.
-- `before` is the class of the last character that is no space.
def breakable (before : Option BreakClass) (spaced : Bool) (current : List Char) :
    List Char → List (List Char)
  | [] => if current.isEmpty then [] else [current.reverse]
  | c :: rest =>
    let class' := breakClass c
    let breaks := match before with
      | none => false
      | some before => mayBreak spaced before class' && current.head? != some '-'
    let before' := if class' = .space then before
      else if class' = .combining then (before <|> some .letter) else some class'
    if breaks then current.reverse :: breakable before' (class' = .space) [c] rest
    else breakable before' (class' = .space) (c :: current) rest

def atHyphens (previous : Option Char) (current : List Char) : List Char → List (List Char)
  | [] => if current.isEmpty then [] else [current.reverse]
  | c :: rest =>
    let inside := c = '-' && (previous.any Char.isAlphanum) && (rest.head?.any Char.isAlphanum)
    if inside then (c :: current).reverse :: atHyphens (some c) [] rest
    else atHyphens (some c) (c :: current) rest

structure SpacedWord where
  text : List Char
  spaces : Nat
deriving DecidableEq, Repr

namespace SpacedWord

def ofChars (chars : List Char) : SpacedWord :=
  let spaces := (chars.reverse.takeWhile (· = ' ')).length
  ⟨chars.take (chars.length - spaces), spaces⟩

def width (w : SpacedWord) : Nat := columns w.text

def cut (limit : Nat) (current : List Char) : List Char → List (List Char)
  | [] => if current.isEmpty then [] else [current.reverse]
  | c :: rest =>
    if !current.isEmpty ∧ limit < columns current + Text.width c then
      current.reverse :: cut limit [c] rest
    else cut limit (c :: current) rest

def fit (limit : Nat) (w : SpacedWord) : List SpacedWord :=
  if w.width ≤ limit then [w]
  else
    let parts := cut limit [] w.text
    (parts.dropLast.map fun p => ⟨p, 0⟩) ++ (parts.getLast?.toList.map fun p => ⟨p, w.spaces⟩)

end SpacedWord

def wordsToWrap (limit : Nat) (line : List Char) : List SpacedWord :=
  let stretches := (breakable none false [] line).map SpacedWord.ofChars
  let parts := stretches.flatMap fun w =>
    match atHyphens none [] w.text with
    | [] => [w]
    | ps => (ps.dropLast.map fun p => ⟨p, 0⟩) ++ (ps.getLast?.toList.map fun p => ⟨p, w.spaces⟩)
  ⟨[], 0⟩ :: parts.flatMap (SpacedWord.fit limit)

def fillLines (limit used : Nat) (line : List SpacedWord) : List SpacedWord → List (List SpacedWord)
  | [] => [line.reverse]
  | w :: rest =>
    if limit < used + w.width && !line.isEmpty then
      line.reverse :: fillLines limit (w.width + w.spaces) [w] rest
    else fillLines limit (used + w.width + w.spaces) (w :: line) rest

def joinWords : List SpacedWord → List Char
  | [] => []
  | [w] => w.text
  | w :: rest => w.text ++ List.replicate w.spaces ' ' ++ joinWords rest

def wrapLine (limit : Nat) (line : List Char) : List (List Char) :=
  (fillLines limit 0 [] (wordsToWrap limit line)).map joinWords

def splitLines : List Char → List (List Char)
  | [] => [[]]
  | '\n' :: rest => [] :: splitLines rest
  | c :: rest => match splitLines rest with
    | [] => [[c]]
    | line :: more => (c :: line) :: more

-- Wraps to `limit` columns, and sets the first line behind one indent and all others behind the
-- other.
def wrap (limit : Nat) (first other : String) (text : List Char) : String :=
  let wrapped := (splitLines text).flatMap (wrapLine limit)
  let indented := wrapped.zipIdx.map fun (line, n) =>
    (if n = 0 then first else other) ++ String.ofList line
  "\n".intercalate indented

end Fragment.Text
