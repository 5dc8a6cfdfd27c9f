import Fragment.Text.Octets
/-!
Characters among octets. The octets of a text are its UTF-8 form, in which the octet of an ASCII
character stands for that character wherever it is.
-/
namespace Fragment.Octets

theorem of_string_utf8 (text : String) : ofString text = text.toUTF8.data.toList := by
  rw [String.toUTF8, ← String.utf8Encode_toList, List.utf8Encode, List.data_toByteArray]
  rfl

theorem of_string_inj (a b : String) : ofString a = ofString b ↔ a = b := by
  rw [of_string_utf8, of_string_utf8, ← String.toByteArray_inj]
  exact ⟨fun same => ByteArray.ext (Array.toList_inj.mp same), fun same => by rw [String.toUTF8, same]; rfl⟩

theorem octet_eq_iff (a b : Nat) (small : a < 256) (small' : b < 256) :
    UInt8.ofNat a = UInt8.ofNat b ↔ a = b := by
  rw [← UInt8.toNat_inj, UInt8.toNat_ofNat_of_lt' (by simpa using small),
    UInt8.toNat_ofNat_of_lt' (by simpa using small')]

-- Every octet of a longer encoding has its high bit set, so only the one-octet form can hold it.
theorem ascii_mem_encoded (c : Char) (n : Nat) (ascii : n < 128) :
    UInt8.ofNat n ∈ String.utf8EncodeChar c ↔ n = c.toNat := by
  have value : c.toNat = c.val.toNat := rfl
  rw [value]
  unfold String.utf8EncodeChar
  dsimp only
  split
  · rw [List.mem_singleton, octet_eq_iff _ _ (by omega) (by omega)]
  split
  · simp only [List.mem_cons, List.not_mem_nil, or_false]
    rw [octet_eq_iff _ _ (by omega) (by omega), octet_eq_iff _ _ (by omega) (by omega)]
    omega
  split
  · simp only [List.mem_cons, List.not_mem_nil, or_false]
    rw [octet_eq_iff _ _ (by omega) (by omega), octet_eq_iff _ _ (by omega) (by omega),
      octet_eq_iff _ _ (by omega) (by omega)]
    omega
  · simp only [List.mem_cons, List.not_mem_nil, or_false]
    rw [octet_eq_iff _ _ (by omega) (by omega), octet_eq_iff _ _ (by omega) (by omega),
      octet_eq_iff _ _ (by omega) (by omega), octet_eq_iff _ _ (by omega) (by omega)]
    omega

theorem ascii_mem_octets (text : String) (a : Char) (ascii : a.toNat < 128) :
    UInt8.ofNat a.toNat ∈ ofString text ↔ a ∈ text.toList := by
  simp only [ofString, ofChars, List.mem_flatMap, ascii_mem_encoded _ _ ascii, Char.toNat_inj]
  simp

theorem nul_mem_octets (text : String) : 0 ∈ ofString text ↔ '\x00' ∈ text.toList :=
  ascii_mem_octets text '\x00' (by decide)

theorem nul_at_none_iff (octets : Octets) : octets.nulAt? = none ↔ 0 ∉ octets := by
  simp only [nulAt?, List.findIdx?_eq_none_iff, beq_eq_false_iff_ne]
  constructor
  · intro all member
    exact all 0 member rfl
  · intro absent octet member zero
    exact absent (zero ▸ member)

end Fragment.Octets
