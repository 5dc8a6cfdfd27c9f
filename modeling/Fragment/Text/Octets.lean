/-!
Octets: what files, pipes and object files hold. A text is measured in the octets of its UTF-8
form, so every offset, length and column of this library counts octets.
-/
namespace Fragment

abbrev Octets := List UInt8

namespace Octets

def ofChars (text : List Char) : Octets := text.flatMap String.utf8EncodeChar

def ofString (text : String) : Octets := ofChars text.toList

theorem ofChars_append (a b : List Char) : ofChars (a ++ b) = ofChars a ++ ofChars b := by
  simp [ofChars]

theorem ofString_append (a b : String) : ofString (a ++ b) = ofString a ++ ofString b := by
  simp [ofString, ofChars_append]

def digit (n : Nat) : Char := if n < 10 then Char.ofNat (48 + n) else Char.ofNat (87 + n)

def hex (octets : Octets) : String :=
  String.ofList (octets.flatMap fun o => [digit (o.toNat / 16), digit (o.toNat % 16)])

def digitValue? (c : Char) : Option Nat :=
  if '0' ≤ c ∧ c ≤ '9' then some (c.toNat - 48)
  else if 'a' ≤ c ∧ c ≤ 'f' then some (c.toNat - 87)
  else if 'A' ≤ c ∧ c ≤ 'F' then some (c.toNat - 55)
  else none

-- Reads pairs of hexadecimal digits; a character that is none, or a lone last one, ends it.
def ofHex : List Char → Octets
  | high :: low :: rest =>
    match digitValue? high, digitValue? low with
    | some h, some l => UInt8.ofNat (16 * h + l) :: ofHex rest
    | _, _ => []
  | _ => []

def nulAt? (octets : Octets) : Option Nat := octets.findIdx? (· == 0)

end Octets
end Fragment
