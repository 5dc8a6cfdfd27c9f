import Fragment.Program.Token
/-!
What literals stand for: integers with a suffix, floating constants, characters and texts.
-/
namespace Fragment.Program.Literal

-- An integer as written: its value, whether it is unsigned by its suffix, how many times it is
-- long, and whether it was written in decimal.
structure IntegerText where
  value : Nat
  isUnsigned : Bool
  longs : Nat
  isDecimal : Bool
deriving DecidableEq, Repr

def digitValue (c : Char) : Nat :=
  if c.isDigit then c.toNat - 48
  else if 'a' ≤ c && c ≤ 'f' then c.toNat - 87
  else if 'A' ≤ c && c ≤ 'F' then c.toNat - 55
  else 36

def valueOf (base : Nat) (digits : List Char) : Nat :=
  digits.foldl (fun n c => base * n + digitValue c) 0

def lower (text : List Char) : List Char := text.map Char.toLower

def isReal (spelling : String) : Bool :=
  let text := lower spelling.toList
  if ['0', 'x'].isPrefixOf text then text.contains 'p'
  else text.contains '.' || text.contains 'e'

def suffix? (text : List Char) : Option (Bool × Nat) :=
  match String.ofList (lower text) with
  | "" => some (false, 0)
  | "u" => some (true, 0)
  | "l" => some (false, 1)
  | "ll" => some (false, 2)
  | "ul" | "lu" => some (true, 1)
  | "ull" | "llu" => some (true, 2)
  | _ => none

def integer (spelling : String) : Except String IntegerText :=
  let text := spelling.toList
  let (base, digits) : Nat × List Char := match text with
    | '0' :: x :: rest =>
      if x == 'x' || x == 'X' then (16, rest)
      else if x == 'b' || x == 'B' then (2, rest)
      else (8, x :: rest)
    | _ => (10, text)
  let body := digits.takeWhile fun c => digitValue c < max base 10
  let rest := if body.isEmpty && base != 8 then text.drop 1 else digits.drop body.length
  match body.find? fun c => base ≤ digitValue c, suffix? rest with
  | some c, _ => .error ("invalid digit \"" ++ String.singleton c ++ "\" in " ++
      (if base = 8 then "octal" else "binary") ++ " constant")
  | none, none => .error ("invalid suffix \"" ++ String.ofList rest ++ "\" on integer constant")
  | none, some (isUnsigned, longs) => .ok ⟨valueOf base body, isUnsigned, longs, base = 10⟩

def isHex (c : Char) : Bool := digitValue c < 16

def exponent? (text : List Char) : Option (Int × List Char) :=
  let (sign, text) : Int × List Char := match text with
    | '-' :: more => (-1, more)
    | '+' :: more => (1, more)
    | _ => (1, text)
  let digits := text.takeWhile Char.isDigit
  if digits.isEmpty then none else some (sign * valueOf 10 digits, text.drop digits.length)

def scaled (hex : Bool) (significand : Nat) (power : Int) : Float :=
  if hex then
    let x := Float.ofNat significand
    if power < 0 then x / Float.ofNat (Nat.pow 2 power.natAbs) else x * Float.ofNat (Nat.pow 2 power.natAbs)
  else Float.ofScientific significand (power < 0) power.natAbs

def real (spelling : String) : Except String (Float × Bool) :=
  let text := lower spelling.toList
  let hex := ['0', 'x'].isPrefixOf text
  let text := if hex then text.drop 2 else text
  let isDigit := if hex then isHex else Char.isDigit
  let whole := text.takeWhile isDigit
  let rest := text.drop whole.length
  let (fraction, rest) := match rest with
    | '.' :: more =>
      let digits := more.takeWhile isDigit
      (digits, more.drop digits.length)
    | _ => ([], rest)
  let power : Option (Int × List Char) := match rest with
    | 'e' :: more | 'p' :: more => exponent? more
    | _ => some (0, rest)
  match power with
  | none => .error "exponent has no digits"
  | some (power, rest) =>
    let value := scaled hex (valueOf (if hex then 16 else 10) (whole ++ fraction))
      (power - (if hex then 4 else 1) * fraction.length)
    match rest with
    | [] | ['l'] => .ok (value, false)
    | ['f'] => .ok (value, true)
    | _ => .error ("invalid suffix \"" ++ String.ofList rest ++ "\" on floating constant")

def simpleEscape? (c : Char) : Option UInt8 :=
  match c with
  | 'n' => some 10
  | 't' => some 9
  | 'r' => some 13
  | 'a' => some 7
  | 'b' => some 8
  | 'f' => some 12
  | 'v' => some 11
  | 'e' => some 27
  | '\\' | '\'' | '"' | '?' => some c.toNat.toUInt8
  | _ => none

def isOctal (c : Char) : Bool := '0' ≤ c && c ≤ '7'

def octetsOf : Nat → List Char → Octets
  | 0, _ => []
  | _ + 1, [] => []
  | fuel + 1, '\\' :: c :: rest =>
    let coded (base count : Nat) (isDigit : Char → Bool) (text : List Char) : Nat × List Char :=
      let digits := (text.take count).takeWhile isDigit
      (valueOf base digits, text.drop digits.length)
    if isOctal c then
      let (value, rest) := coded 8 3 isOctal (c :: rest)
      value.toUInt8 :: octetsOf fuel rest
    else if c == 'x' then
      let (value, rest) := coded 16 rest.length isHex rest
      value.toUInt8 :: octetsOf fuel rest
    else if c == 'u' || c == 'U' then
      let (value, rest) := coded 16 (if c == 'u' then 4 else 8) isHex rest
      Octets.ofString (String.singleton (Char.ofNat value)) ++ octetsOf fuel rest
    else match simpleEscape? c with
      | some o => o :: octetsOf fuel rest
      | none => Octets.ofString (String.singleton c) ++ octetsOf fuel rest
  | fuel + 1, c :: rest => Octets.ofString (String.singleton c) ++ octetsOf fuel rest

def contents (spelling : String) : Octets :=
  let inside := ((spelling.toList.dropWhile isWordChar).drop 1).dropLast
  octetsOf inside.length inside

def escapeFault? : List Char → Option String
  | [] => none
  | '\\' :: c :: rest =>
    if c == 'x' && !rest.head?.any isHex then some "\\x used with no following hex digits"
    else if c == 'u' && (rest.takeWhile isHex).length < 4 then
      some "incomplete universal character name \\u"
    else if c == 'U' && (rest.takeWhile isHex).length < 8 then
      some "incomplete universal character name \\U"
    else escapeFault? rest
  | _ :: rest => escapeFault? rest

def fault? (spelling : String) : Option String :=
  escapeFault? ((spelling.toList.dropWhile isWordChar).drop 1).dropLast

def character (spelling : String) : Int :=
  match contents spelling with
  | [] => 0
  | [o] => Int.bmod o.toNat 256
  | octets => Int.bmod (octets.foldl (fun n o => 256 * n + o.toNat) 0) (Nat.pow 2 32)

end Fragment.Program.Literal
