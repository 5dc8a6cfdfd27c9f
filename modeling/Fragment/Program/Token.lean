import Fragment.Text.Octets
/-!
Tokens of a program text, line by line. A backslash at the end of a line joins it to the next one;
comments count as blanks. The longest token is taken at every place. What begins no token is kept as
a stray one, because it is only an error where it is not skipped.
-/
namespace Fragment.Program

-- A place in a file that a message can point to. Columns count from one; zero stands for the
-- whole line.
structure Spot where
  file : String
  line : Nat
  column : Nat
deriving DecidableEq, Repr, Inhabited

inductive TokenKind where
  | word
  | number
  | character
  | text
  | mark
  | stray
  -- No token: a macro was used wrongly here, and the spelling says how.
  | fault
deriving DecidableEq, Repr, Inhabited

structure Token where
  kind : TokenKind
  spelling : String
  spot : Spot
  -- The line where the token stands, or the outermost macro that it comes from.
  usedAt : Nat
  spaced : Bool
  hidden : List String
deriving DecidableEq, Repr, Inhabited

namespace Token

def isMark (t : Token) (spelling : String) : Bool := t.kind == .mark && t.spelling == spelling

def isWord (t : Token) (spelling : String) : Bool := t.kind == .word && t.spelling == spelling

def octetCount (t : Token) : Nat := t.spelling.utf8ByteSize

def spellAll (tokens : List Token) : String :=
  match tokens with
  | [] => ""
  | first :: rest => first.spelling ++
      String.join (rest.map fun t => (if t.spaced then " " else "") ++ t.spelling)

end Token

structure Letter where
  char : Char
  line : Nat
  column : Nat
deriving DecidableEq, Repr, Inhabited

namespace Letter

def ofText (text : List Char) : List Letter :=
  go text 1 1 []
where
  go : List Char → Nat → Nat → List Letter → List Letter
    | [], line, column, done => (⟨'\n', line, column⟩ :: done).reverse
    | '\\' :: '\n' :: rest, line, _, done => go rest (line + 1) 1 done
    | '\\' :: '\r' :: '\n' :: rest, line, _, done => go rest (line + 1) 1 done
    | '\n' :: rest, line, column, done => go rest (line + 1) 1 (⟨'\n', line, column⟩ :: done)
    | c :: rest, line, column, done =>
      go rest line (column + c.utf8Size) (⟨c, line, column⟩ :: done)

def spell (letters : List Letter) : String := String.ofList (letters.map (·.char))

end Letter

def wordRanges : List (Nat × Nat) := [
  (0xA8, 0xA8), (0xAA, 0xAA), (0xAD, 0xAD), (0xAF, 0xAF), (0xB2, 0xB5), (0xB7, 0xBA), (0xBC, 0xBE),
  (0xC0, 0xD6), (0xD8, 0xF6), (0xF8, 0xFF), (0x100, 0x167F), (0x1681, 0x180D), (0x180F, 0x1FFF),
  (0x200B, 0x200D), (0x202A, 0x202E), (0x203F, 0x2040), (0x2054, 0x2054), (0x2060, 0x206F),
  (0x2070, 0x218F), (0x2460, 0x24FF), (0x2776, 0x2793), (0x2C00, 0x2DFF), (0x2E80, 0x2FFF),
  (0x3004, 0x3007), (0x3021, 0x302F), (0x3031, 0x303F), (0x3040, 0xD7FF), (0xF900, 0xFD3D),
  (0xFD40, 0xFDCF), (0xFDF0, 0xFE44), (0xFE47, 0xFFFD)]

def combiningRanges : List (Nat × Nat) := [
  (0x300, 0x36F), (0x1DC0, 0x1DFF), (0x20D0, 0x20FF), (0xFE20, 0xFE2F)]

def isWordChar (c : Char) : Bool :=
  if c.toNat < 128 then c.isAlphanum || c == '_' || c == '$'
  else wordRanges.any (fun (first, last) => first ≤ c.toNat && c.toNat ≤ last) ||
    (0x10000 ≤ c.toNat && c.toNat < 0xF0000 && c.toNat % 0x10000 ≤ 0xFFFD)

def isWordStart (c : Char) : Bool :=
  isWordChar c && !c.isDigit &&
    !combiningRanges.any (fun (first, last) => first ≤ c.toNat && c.toNat ≤ last)

def isBlankChar (c : Char) : Bool :=
  c == ' ' || c == '\t' || c == '\r' || c == '\x0b' || c == '\x0c'

def marks : List String := ["...", "<<=", ">>=", "->", "++", "--", "<<", ">>", "<=", ">=", "==", "!=",
  "&&", "||", "*=", "/=", "%=", "+=", "-=", "&=", "^=", "|=", "##", "[", "]", "(", ")", "\x7b",
  "\x7d", ".", "&", "*", "+", "-", "~", "!", "/", "%", "<", ">", "^", "|", "?", ":", ";", "=", ",",
  "#"]

def numberLength : List Letter → Nat
  | [] => 0
  | [l] => if isWordChar l.char || l.char == '.' then 1 else 0
  | l :: sign :: rest =>
    if "eEpP".contains l.char && (sign.char == '+' || sign.char == '-') then 2 + numberLength rest
    else if isWordChar l.char || l.char == '.' then 1 + numberLength (sign :: rest)
    else 0

-- How far a literal goes behind its first delimiter; nothing if it is not closed on its line.
def literalLength? (delimiter : Char) : List Letter → Option Nat
  | [] => none
  | [l] => if l.char == delimiter then some 1 else none
  | l :: next :: rest =>
    if l.char == '\n' then none
    else if l.char == delimiter then some 1
    else if l.char == '\\' then
      if next.char == '\n' then none else (literalLength? delimiter rest).map (· + 2)
    else (literalLength? delimiter (next :: rest)).map (· + 1)

def literalAt (delimiter : Char) (before : Nat) (letters : List Letter) : TokenKind × Nat :=
  match literalLength? delimiter (letters.drop (before + 1)) with
  | some n => (if delimiter == '"' then .text else .character, before + 1 + n)
  | none => (.stray, (letters.takeWhile (·.char != '\n')).length)

def tokenAt (letters : List Letter) : TokenKind × Nat :=
  match letters with
  | [] => (.stray, 0)
  | l :: rest =>
    if isWordStart l.char then
      let word := letters.takeWhile fun l => isWordChar l.char
      let next := ((letters.drop word.length).head?.map (·.char)).getD ' '
      if (next == '"' || next == '\'') && ["L", "u", "U", "u8"].contains (Letter.spell word) then
        literalAt next word.length letters
      else (.word, word.length)
    else if l.char.isDigit || l.char == '.' && rest.head?.any (·.char.isDigit) then
      (.number, numberLength letters)
    else if l.char == '"' || l.char == '\'' then literalAt l.char 0 letters
    else
      let ahead := (letters.take 3).map (·.char)
      match marks.find? fun m => m.toList.isPrefixOf ahead with
      | some m => (.mark, m.length)
      | none => (.stray, 1)

def afterComment? : List Letter → Option (List Letter)
  | [] => none
  | star :: rest =>
    if star.char == '*' && rest.head?.any (·.char == '/') then some rest.tail else afterComment? rest

def scan (file : String) : Nat → List Letter → Bool → List Token → List (List Token) →
    List (List Token)
  | 0, _, _, line, lines => (line.reverse :: lines).reverse
  | _ + 1, [], _, line, lines =>
    (if line.isEmpty then lines else line.reverse :: lines).reverse
  | fuel + 1, l :: rest, spaced, line, lines =>
    if l.char == '\n' then scan file fuel rest false [] (line.reverse :: lines)
    else if isBlankChar l.char then scan file fuel rest true line lines
    else
      let next := rest.head?.map (·.char)
      let token (kind : TokenKind) (spelling : String) : Token :=
        ⟨kind, spelling, ⟨file, l.line, l.column⟩, l.line, spaced, []⟩
      if l.char == '/' && next == some '/' then
        scan file fuel (rest.dropWhile (·.char != '\n')) true line lines
      else if l.char == '/' && next == some '*' then
        match afterComment? rest.tail with
        | some rest => scan file fuel rest true line lines
        | none => ((token .stray "/*" :: line).reverse :: lines).reverse
      else
        let (kind, length) := tokenAt (l :: rest)
        let spelling := Letter.spell ((l :: rest).take length)
        scan file fuel (rest.drop (length - 1)) false (token kind spelling :: line) lines

def tokenLines (file : String) (text : List Char) : List (List Token) :=
  let letters := Letter.ofText text
  scan file (letters.length + 1) letters false [] []

end Fragment.Program
