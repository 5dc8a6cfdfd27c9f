import Fragment.Program.Literal
import Fragment.Program.Machine
import Fragment.Text.Decimal
/-!
Format texts: output with values put in, and input taken apart. A directive begins with a percent
sign; flags, a width, a precision and the size of the value may stand before its letter.
-/
namespace Fragment.Program.Format

open Fragment.Text

structure Directive where
  left : Bool
  plus : Bool
  space : Bool
  alternate : Bool
  zero : Bool
  width : Nat
  precision : Option Nat
  size : Nat
  letter : Char
deriving DecidableEq, Repr, Inhabited

def pad (d : Directive) (mark body : List Char) (zeros : Bool) : List Char :=
  let missing := d.width - (mark.length + body.length)
  if d.left then mark ++ body ++ List.replicate missing ' '
  else if zeros then mark ++ List.replicate missing '0' ++ body
  else List.replicate missing ' ' ++ mark ++ body

def signOf (d : Directive) (negative : Bool) : List Char :=
  if negative then ['-'] else if d.plus then ['+'] else if d.space then [' '] else []

def digitsIn (base : Nat) (upper : Bool) (n : Nat) : List Char :=
  let digits := Nat.toDigits base n
  if upper then digits.map Char.toUpper else digits

def integer (d : Directive) (n : Int) : List Char :=
  let signed := d.letter == 'd' || d.letter == 'i'
  let value := (Shape.integer d.size signed).wrap n
  let base := if d.letter == 'o' then 8 else if d.letter == 'x' || d.letter == 'X' then 16 else 10
  let digits := digitsIn base (d.letter == 'X') value.natAbs
  let digits := if d.precision == some 0 && value = 0 then [] else digits
  let digits := Decimal.padLeft (d.precision.getD 1) digits
  let mark : List Char :=
    if signed then signOf d (value < 0)
    else if d.alternate && base = 16 && value != 0 then ['0', d.letter]
    else if d.alternate && base = 8 && digits.head? != some '0' then ['0']
    else []
  pad d mark digits (d.zero && d.precision.isNone)

def real (d : Directive) (x : Float) : List Char :=
  let (negative, magnitude) := Decimal.decode x.toBits.toNat
  let upper := d.letter.isUpper
  let precision := d.precision.getD 6
  let name (text : String) : List Char :=
    pad d (signOf d negative) (if upper then text.toUpper else text).toList false
  match magnitude with
  | .infinite => name "inf"
  | .notANumber => name "nan"
  | .finite significand exponent =>
    let body := match d.letter.toLower with
      | 'f' => Decimal.fixed significand exponent precision d.alternate
      | 'e' => Decimal.scientific significand exponent precision d.alternate upper
      | _ => Decimal.general significand exponent precision d.alternate upper
    pad d (signOf d negative) body d.zero

def number? (text : List Char) : Nat × List Char :=
  let digits := text.takeWhile Char.isDigit
  (digits.foldl (fun n c => 10 * n + (c.toNat - 48)) 0, text.drop digits.length)

def take : List Value → Value × List Value
  | [] => (.zero, [])
  | v :: rest => (v, rest)

def flags (d : Directive) : List Char → Directive × List Char
  | [] => (d, [])
  | c :: rest =>
    match c with
    | '-' => flags { d with left := true } rest
    | '+' => flags { d with plus := true } rest
    | ' ' => flags { d with space := true } rest
    | '#' => flags { d with alternate := true } rest
    | '0' => flags { d with zero := true } rest
    | _ => (d, c :: rest)

def sizeLetters : List Char → Nat × List Char
  | 'h' :: 'h' :: rest => (1, rest)
  | 'h' :: rest => (2, rest)
  | 'l' :: 'l' :: rest => (8, rest)
  | c :: rest => if "lzjtqL".contains c then (8, rest) else (4, c :: rest)
  | [] => (4, [])

def place? (text : List Char) : Option (Nat × List Char) :=
  match number? text with
  | (n + 1, '$' :: rest) => some (n, rest)
  | _ => none

def directive (text : List Char) (values : List Value) : Directive × List Char × List Value :=
  let (d, text) := flags ⟨false, false, false, false, false, 0, none, 4, '%'⟩ text
  let (d, text, values) := match text with
    | '*' :: rest =>
      let (v, values) := take values
      let n := v.toInt
      ({ d with width := n.natAbs, left := d.left || n < 0 }, rest, values)
    | _ =>
      let (n, rest) := number? text
      ({ d with width := n }, rest, values)
  let (d, text, values) := match text with
    | '.' :: '*' :: rest =>
      let (v, values) := take values
      ({ d with precision := if v.toInt < 0 then none else some v.toInt.toNat }, rest, values)
    | '.' :: rest =>
      let (n, rest) := number? rest
      ({ d with precision := some n }, rest, values)
    | _ => (d, text, values)
  let (size, text) := sizeLetters text
  match text with
  | c :: rest => ({ d with size, letter := c }, rest, values)
  | [] => ({ d with size, letter := '\x00' }, [], values)

-- A value that came in a place for sixty-four bits may be a floating number.
def asReal (v : Value) : Float :=
  match v with
  | .integer n => Float.ofBits (n % (Nat.pow 2 64 : Nat)).toNat.toUInt64
  | v => v.toReal

def octetsOfText (d : Directive) (address : Nat) : Act Octets := do
  if address = 0 then
    let null := Octets.ofString "(null)"
    return if d.precision.any (· < null.length) then [] else null
  else match d.precision with
    | none => Act.readText address
    | some limit =>
      let m := (← Act.machine).memory
      match m.readText? address, m.behind address with
      | some text, _ => return text.take limit
      | none, some (content, first) =>
        if first + limit ≤ content.size then Act.readOctets address limit else Act.badAccess
      | none, none => Act.badAccess

def charsOf (octets : Octets) : List Char := octets.map fun o => Char.ofNat o.toNat

def octetsOf (text : List Char) : Octets := text.map fun c => c.toNat.toUInt8

-- Puts values into a format text, whose characters stand for octets. A directive takes the next
-- of the values, or of all of them the one that it names.
def output (all : List Value) : Nat → List Char → List Value → Octets → Act Octets
  | 0, _, _, done => return done
  | _ + 1, [], _, done => return done
  | fuel + 1, '%' :: text, values, done => do
    let (text, values) := match place? text with
      | some (n, rest) => (rest, all.drop n)
      | none => (text, values)
    let (d, rest, values) := directive text values
    let (v, others) := take values
    match d.letter with
    | '%' => output all fuel rest values (done ++ [37])
    | 'd' | 'i' | 'u' | 'o' | 'x' | 'X' =>
      output all fuel rest others (done ++ octetsOf (integer d v.toInt))
    | 'c' =>
      let body := [Char.ofNat (v.toInt % 256).toNat]
      output all fuel rest others (done ++ octetsOf (pad d [] body false))
    | 's' =>
      let text ← octetsOfText d v.toNat
      output all fuel rest others (done ++ octetsOf (pad d [] (charsOf text) false))
    | 'p' =>
      let body := if v.toNat = 0 then "(nil)".toList else '0' :: 'x' :: Nat.toDigits 16 v.toNat
      output all fuel rest others (done ++ octetsOf (pad d [] body false))
    | 'f' | 'F' | 'e' | 'E' | 'g' | 'G' =>
      output all fuel rest others (done ++ octetsOf (real d (asReal v)))
    | 'n' =>
      Act.store (.integer 4 true) v.toNat (.integer done.length)
      output all fuel rest others done
    | '\x00' => return done
    | c => output all fuel rest values (done ++ octetsOf ['%', c])
  | fuel + 1, c :: text, values, done => output all fuel text values (done ++ octetsOf [c])

def print (format : Nat) (values : List Value) : Act Octets := do
  let text ← Act.readText format
  output values (text.length + 1) (charsOf text) values []

/-! Input. -/

def isSpace (c : Char) : Bool := c == ' ' || (9 ≤ c.toNat && c.toNat ≤ 13)

def integerAt? (base : Nat) (text : List Char) : Option (Int × List Char) :=
  let text := text.dropWhile isSpace
  let (negative, text) := match text with
    | '-' :: rest => (true, rest)
    | '+' :: rest => (false, rest)
    | _ => (false, text)
  let isDigitOf (base : Nat) (c : Char) : Bool := Literal.digitValue c < base
  let value (c : Char) : Nat :=
    if c.isDigit then c.toNat - 48 else if c.isLower then c.toNat - 87 else
      if c.isUpper then c.toNat - 55 else 99
  let hex := (base = 16 || base = 0) && match text with
    | '0' :: x :: c :: _ => (x == 'x' || x == 'X') && isDigitOf 16 c
    | _ => false
  let (base, text) := if hex then (16, text.drop 2)
    else if base = 0 then (if text.head? == some '0' then 8 else 10, text)
    else (base, text)
  let digits := text.takeWhile fun c => value c < base
  if digits.isEmpty then none
  else
    let n : Nat := digits.foldl (fun n c => base * n + value c) 0
    some (if negative then -(n : Int) else n, text.drop digits.length)

def realAt? (text : List Char) : Option (Float × List Char) :=
  let text := text.dropWhile isSpace
  let (negative, text) := match text with
    | '-' :: rest => (true, rest)
    | '+' :: rest => (false, rest)
    | _ => (false, text)
  let whole := text.takeWhile Char.isDigit
  let rest := text.drop whole.length
  let (fraction, rest) := match rest with
    | '.' :: more =>
      let digits := more.takeWhile Char.isDigit
      (digits, more.drop digits.length)
    | _ => ([], rest)
  if whole.isEmpty && fraction.isEmpty then none
  else
    let power (sign : Int) (more : List Char) : Option (Int × List Char) :=
      let digits := more.takeWhile Char.isDigit
      if digits.isEmpty then none
      else some (sign * Literal.valueOf 10 digits, more.drop digits.length)
    let (exponent, rest) := match rest with
      | e :: '-' :: more => if e == 'e' || e == 'E' then (power (-1) more).getD (0, rest) else (0, rest)
      | e :: '+' :: more => if e == 'e' || e == 'E' then (power 1 more).getD (0, rest) else (0, rest)
      | e :: more => if e == 'e' || e == 'E' then (power 1 more).getD (0, rest) else (0, rest)
      | [] => (0, rest)
    let scale : Int := fraction.length - exponent
    let x := Float.ofScientific (Literal.valueOf 10 (whole ++ fraction)) (0 < scale) scale.natAbs
    some (if negative then -x else x, rest)

def input : Nat → List Char → List Char → List Value → Nat → Act (Int × List Char)
  | 0, _, text, _, count => return (count, text)
  | _ + 1, [], text, _, count => return (count, text)
  | fuel + 1, '%' :: format, text, values, count => do
    let skipped := format.head? == some '*'
    let (width, format) := number? (if skipped then format.tail else format)
    let (size, format) := sizeLetters format
    let (target, others) := if skipped then (.zero, values) else take values
    let stop : Act (Int × List Char) :=
      return (if text.isEmpty && count = 0 then -1 else count, text)
    let next (rest : List Char) (stored : Act Unit) : Act (Nat × List Char) := do
      if skipped then return (count, rest)
      else
        stored
        return (count + 1, rest)
    match format with
    | [] => return (count, text)
    | letter :: format =>
      let limited (t : List Char) : List Char := if width = 0 then t else t.take width
      match letter with
      | 'd' | 'i' | 'u' | 'x' =>
        let start := text.dropWhile isSpace
        let base := if letter == 'i' then 0 else if letter == 'x' then 16 else 10
        match integerAt? base (limited start) with
        | none => stop
        | some (n, left) =>
          let used := (limited start).length - left.length
          let (count, text) ← next (start.drop used)
            (Act.store (.integer size true) target.toNat (.integer n))
          input fuel format text others count
      | 'f' | 'g' | 'e' =>
        let start := text.dropWhile isSpace
        match realAt? (limited start) with
        | none => stop
        | some (x, left) =>
          let used := (limited start).length - left.length
          let (count, text) ← next (start.drop used)
            (Act.store (.real (size == 8)) target.toNat (.real x))
          input fuel format text others count
      | 's' =>
        let start := text.dropWhile isSpace
        let word := (limited start).takeWhile (!isSpace ·)
        if word.isEmpty then stop
        else
          let (count, text) ← next (start.drop word.length)
            (Act.writeOctets target.toNat (octetsOf word ++ [0]))
          input fuel format text others count
      | 'c' =>
        let part := text.take (max 1 width)
        if part.length < max 1 width then stop
        else
          let (count, text) ← next (text.drop part.length)
            (Act.writeOctets target.toNat (octetsOf part))
          input fuel format text others count
      | '%' =>
        match text.dropWhile isSpace with
        | '%' :: rest => input fuel format rest values count
        | _ => stop
      | _ => return (count, text)
  | fuel + 1, c :: format, text, values, count => do
    if isSpace c then input fuel format (text.dropWhile isSpace) values count
    else match text with
      | d :: rest => if c == d then input fuel format rest values count else return (count, text)
      | [] => return (if count = 0 then -1 else count, [])

end Fragment.Program.Format
