import Fragment.Program.Library.Streams
/-!
Functions of the standard library on texts, octets and single characters.
-/
namespace Fragment.Program.Library

def compareOctets (fold : Bool) : Octets → Octets → Int
  | [], [] => 0
  | [], b :: _ => -(b.toNat : Int)
  | a :: _, [] => a.toNat
  | a :: as, b :: bs =>
    let lower (o : UInt8) : Nat := if fold && 65 ≤ o.toNat && o.toNat ≤ 90 then o.toNat + 32 else o.toNat
    if lower a = lower b then compareOctets fold as bs else (lower a : Int) - lower b

def sign (n : Int) : Int := if n < 0 then -1 else if 0 < n then 1 else 0

def findText? (part : Octets) : Octets → Option Nat
  | [] => if part.isEmpty then some 0 else none
  | o :: rest =>
    if part.isPrefixOf (o :: rest) then some 0 else (findText? part rest).map (· + 1)

def lastIndexOf? (o : UInt8) (octets : Octets) : Option Nat :=
  (octets.reverse.findIdx? (· == o)).map fun n => octets.length - 1 - n

def pointInto (first : Nat) (place : Option Nat) : Act Value :=
  answerNat (match place with
    | some n => first + n
    | none => 0)

def nextWord (start : Nat) (set : Octets) : Act Value := do
  let word := (← Act.machine).word
  let first := if start = 0 then word else start
  if first = 0 then answer 0
  else
    let text ← Act.readText first
    let skipped := (text.takeWhile set.contains).length
    let word := (text.drop skipped).takeWhile (!set.contains ·)
    if word.isEmpty then
      Act.modifyMachine fun m => { m with word := 0 }
      answer 0
    else
      let behind := skipped + word.length
      if behind < text.length then
        Act.writeOctets (first + behind) [0]
        Act.modifyMachine fun m => { m with word := first + behind + 1 }
      else Act.modifyMachine fun m => { m with word := 0 }
      answerNat (first + skipped)

def test (f : Nat → Bool) : Function := plain fun v => do
  let n := integer v 0
  answerTruth (0 ≤ n && n < 256 && f n.toNat)

def isUpper (n : Nat) : Bool := 65 ≤ n && n ≤ 90
def isLower (n : Nat) : Bool := 97 ≤ n && n ≤ 122
def isDigit (n : Nat) : Bool := 48 ≤ n && n ≤ 57
def isGraph (n : Nat) : Bool := 33 ≤ n && n ≤ 126

def texts : Functions := [
  ("memcpy", plain fun v => do
    Act.writeOctets (address v 0) (← Act.readOctets (address v 1) (address v 2))
    answerNat (address v 0)),
  ("memmove", plain fun v => do
    Act.writeOctets (address v 0) (← Act.readOctets (address v 1) (address v 2))
    answerNat (address v 0)),
  ("memset", plain fun v => do
    let o := UInt8.ofNat (integer v 1 % 256).toNat
    Act.writeOctets (address v 0) (List.replicate (address v 2) o)
    answerNat (address v 0)),
  ("memcmp", plain fun v => do
    let a ← Act.readOctets (address v 0) (address v 2)
    let b ← Act.readOctets (address v 1) (address v 2)
    answer (sign (compareOctets false a b))),
  ("memchr", plain fun v => do
    let octets ← Act.readOctets (address v 0) (address v 2)
    let o := UInt8.ofNat (integer v 1 % 256).toNat
    pointInto (address v 0) (octets.findIdx? (· == o))),
  ("strlen", plain fun v => do answerNat (← text v 0).length),
  ("strnlen", plain fun v => do answerNat (min (← text v 0).length (address v 1))),
  ("strcpy", plain fun v => do
    Act.writeOctets (address v 0) ((← text v 1) ++ [0])
    answerNat (address v 0)),
  ("stpcpy", plain fun v => do
    let t ← text v 1
    Act.writeOctets (address v 0) (t ++ [0])
    answerNat (address v 0 + t.length)),
  ("strncpy", plain fun v => do
    let t := (← text v 1).take (address v 2)
    Act.writeOctets (address v 0) (t ++ List.replicate (address v 2 - t.length) 0)
    answerNat (address v 0)),
  ("strcat", plain fun v => do
    let first ← text v 0
    Act.writeOctets (address v 0 + first.length) ((← text v 1) ++ [0])
    answerNat (address v 0)),
  ("strncat", plain fun v => do
    let first ← text v 0
    Act.writeOctets (address v 0 + first.length) ((← text v 1).take (address v 2) ++ [0])
    answerNat (address v 0)),
  ("strcmp", plain fun v => do answer (sign (compareOctets false (← text v 0) (← text v 1)))),
  ("strcoll", plain fun v => do answer (sign (compareOctets false (← text v 0) (← text v 1)))),
  ("strncmp", plain fun v => do
    answer (sign (compareOctets false ((← text v 0).take (address v 2))
      ((← text v 1).take (address v 2))))),
  ("strcasecmp", plain fun v => do answer (compareOctets true (← text v 0) (← text v 1))),
  ("strncasecmp", plain fun v => do
    answer (compareOctets true ((← text v 0).take (address v 2))
      ((← text v 1).take (address v 2)))),
  ("strchr", plain fun v => do
    let o := UInt8.ofNat (integer v 1 % 256).toNat
    pointInto (address v 0) (((← text v 0) ++ [0]).findIdx? (· == o))),
  ("strrchr", plain fun v => do
    let o := UInt8.ofNat (integer v 1 % 256).toNat
    pointInto (address v 0) (lastIndexOf? o ((← text v 0) ++ [0]))),
  ("strstr", plain fun v => do pointInto (address v 0) (findText? (← text v 1) (← text v 0))),
  ("strpbrk", plain fun v => do
    let set ← text v 1
    pointInto (address v 0) ((← text v 0).findIdx? set.contains)),
  ("strspn", plain fun v => do
    let set ← text v 1
    answerNat ((← text v 0).takeWhile set.contains).length),
  ("strcspn", plain fun v => do
    let set ← text v 1
    answerNat ((← text v 0).takeWhile (!set.contains ·)).length),
  ("strtok", plain fun v => do nextWord (address v 0) (← text v 1)),
  ("strdup", plain fun v => do answerNat (← Act.allocateWith ((← text v 0) ++ [0]))),
  ("strndup", plain fun v => do
    answerNat (← Act.allocateWith ((← text v 0).take (address v 1) ++ [0]))),
  ("strerror", plain fun v => do
    answerNat (← Act.allocateWith (Octets.ofString (errorText (integer v 0)) ++ [0]))),
  ("isalpha", test fun n => isUpper n || isLower n),
  ("isdigit", test isDigit),
  ("isalnum", test fun n => isUpper n || isLower n || isDigit n),
  ("isxdigit", test fun n => isDigit n || 65 ≤ n && n ≤ 70 || 97 ≤ n && n ≤ 102),
  ("isspace", test fun n => n = 32 || 9 ≤ n && n ≤ 13),
  ("isblank", test fun n => n = 32 || n = 9),
  ("isupper", test isUpper),
  ("islower", test isLower),
  ("ispunct", test fun n => isGraph n && !(isUpper n || isLower n || isDigit n)),
  ("isprint", test fun n => n = 32 || isGraph n),
  ("isgraph", test isGraph),
  ("iscntrl", test fun n => n < 32 || n = 127),
  ("toupper", plain fun v => do
    let n := integer v 0
    answer (if 97 ≤ n && n ≤ 122 then n - 32 else n)),
  ("tolower", plain fun v => do
    let n := integer v 0
    answer (if 65 ≤ n && n ≤ 90 then n + 32 else n))]

end Fragment.Program.Library
