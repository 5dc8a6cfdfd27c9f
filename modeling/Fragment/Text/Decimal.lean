/-!
Floating numbers in decimal. A finite number is a whole number times a power of two; its digits are
those of the exact value, rounded at the last place to the nearest, and of two nearest to the even
one.
-/
namespace Fragment.Text.Decimal

inductive Magnitude where
  | finite (significand : Nat) (exponent : Int)
  | infinite
  | notANumber
deriving DecidableEq, Repr

def decode (bits : Nat) : Bool × Magnitude :=
  let negative := bits / Nat.pow 2 63 % 2 == 1
  let exponent : Nat := bits / Nat.pow 2 52 % Nat.pow 2 11
  let fraction : Nat := bits % Nat.pow 2 52
  (negative,
    if exponent = 2047 then if fraction = 0 then .infinite else .notANumber
    else if exponent = 0 then .finite fraction (-1074)
    else .finite (Nat.pow 2 52 + fraction) ((exponent : Int) - 1075))

def roundDiv (n d : Nat) : Nat :=
  let q := n / d
  let twice := 2 * (n % d)
  if twice < d then q else if d < twice then q + 1 else q + q % 2

def ratio (significand : Nat) (exponent : Int) : Nat × Nat :=
  if 0 ≤ exponent then (significand * Nat.pow 2 exponent.toNat, 1)
  else (significand, Nat.pow 2 (-exponent).toNat)

def digits (n : Nat) : List Char := Nat.toDigits 10 n

def padLeft (width : Nat) (text : List Char) : List Char :=
  List.replicate (width - text.length) '0' ++ text

def withPoint (places : Nat) (keepPoint : Bool) (n : Nat) : List Char :=
  let text := padLeft (places + 1) (digits n)
  let whole := text.take (text.length - places)
  if places = 0 then if keepPoint then whole ++ ['.'] else whole
  else whole ++ '.' :: text.drop (text.length - places)

def fixed (significand : Nat) (exponent : Int) (places : Nat) (keepPoint : Bool) : List Char :=
  let (n, d) := ratio significand exponent
  withPoint places keepPoint (roundDiv (n * Nat.pow 10 places) d)

def leading (n d : Nat) : Int :=
  if d ≤ n then (digits (n / d)).length - 1 else go 400 1 10
where
  go : Nat → Nat → Nat → Int
    | 0, k, _ => -k
    | fuel + 1, k, power => if d ≤ n * power then -k else go fuel (k + 1) (power * 10)

-- The digits to the given number of places behind the first, and the power of ten of the first.
def rounded (significand : Nat) (exponent : Int) (places : Nat) : Nat × Int :=
  let (n, d) := ratio significand exponent
  if n = 0 then (0, 0)
  else
    let first := leading n d
    let shift : Int := places - first
    let kept := if 0 ≤ shift then roundDiv (n * Nat.pow 10 shift.toNat) d
      else roundDiv n (d * Nat.pow 10 (-shift).toNat)
    if kept = Nat.pow 10 (places + 1) then (Nat.pow 10 places, first + 1) else (kept, first)

def exponentText (upper : Bool) (power : Int) : List Char :=
  (if upper then 'E' else 'e') :: (if power < 0 then '-' else '+') ::
    padLeft 2 (digits power.natAbs)

def scientific (significand : Nat) (exponent : Int) (places : Nat) (keepPoint upper : Bool) :
    List Char :=
  let (kept, power) := rounded significand exponent places
  withPoint places keepPoint kept ++ exponentText upper power

def dropZeros (text : List Char) : List Char :=
  if text.contains '.' then
    let kept := (text.reverse.dropWhile (· == '0'))
    (if kept.head? == some '.' then kept.tail else kept).reverse
  else text

def general (significand : Nat) (exponent : Int) (precision : Nat) (keepZeros upper : Bool) :
    List Char :=
  let precision := max 1 precision
  let (kept, power) := rounded significand exponent (precision - 1)
  let trim (text : List Char) : List Char := if keepZeros then text else dropZeros text
  if -4 ≤ power ∧ power < precision then
    trim (fixed significand exponent ((precision : Int) - 1 - power).toNat keepZeros)
  else trim (withPoint (precision - 1) keepZeros kept) ++ exponentText upper power

end Fragment.Text.Decimal
