import Fragment.Text.Octets
import Fragment.Text.Width
import Fragment.Text.Decode
/-!
A quoted form of octets for messages: between double quotes, with an escape for each character that
does not show as itself and for each octet that is not UTF-8.
-/
namespace Fragment.Text

def hexNumber (n : Nat) : List Char :=
  if n < 16 then [Octets.digit n] else hexNumber (n / 16) ++ [Octets.digit (n % 16)]
termination_by n

def isUnprintable (c : Char) : Bool :=
  let n := c.toNat
  isControl c || n == 0xA0 || n == 0xAD || n == 0x1680 || n == 0x180E ||
  (0x2000 ≤ n && n ≤ 0x200F) || (0x2028 ≤ n && n ≤ 0x202F) || (0x205F ≤ n && n ≤ 0x206F) ||
  n == 0x3000 || (0xE000 ≤ n && n ≤ 0xF8FF) || n == 0xFEFF || (0xFFF0 ≤ n && n ≤ 0xFFFB) ||
  0xE0000 ≤ n

def escapeChar (c : Char) : List Char :=
  if c = '\x00' then ['\\', '0']
  else if c = '\t' then ['\\', 't']
  else if c = '\r' then ['\\', 'r']
  else if c = '\n' then ['\\', 'n']
  else if c = '"' ∨ c = '\'' ∨ c = '\\' then ['\\', c]
  else if isCombining c || isUnprintable c then
    ['\\', 'u', '\x7b'] ++ hexNumber c.toNat ++ ['\x7d']
  else [c]

def quotedText (text : List Char) : String :=
  String.ofList ('"' :: text.flatMap escapeChar ++ ['"'])

end Fragment.Text
