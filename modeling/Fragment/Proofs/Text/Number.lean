import Fragment.Text.Digit
/-!
Numbers in decimal: which digits spell one, and that a number which fits a word is read back from
what is written for it.
-/
namespace Fragment.Text

theorem ascii_digits_iff (digits : List Char) :
    digits.all isAsciiDigit = true ↔ ∀ c ∈ digits, c.isDigit = true := by
  have same : isAsciiDigit = Char.isDigit := rfl
  rw [same, List.all_eq_true]

theorem decimal_value (digits : List Char) : decimal digits = Nat.ofDigitChars 10 digits 0 :=
  Nat.ofDigitChars_eq_foldl.symm

theorem number_iff (digits : List Char) (n : Nat) :
    number? digits = some n ↔ digits ≠ [] ∧ (∀ c ∈ digits, c.isDigit = true) ∧
      Nat.ofDigitChars 10 digits 0 = n ∧ n < wordRange := by
  have spelled : (digits.isEmpty || !digits.all isAsciiDigit) = true ↔
      ¬ (digits ≠ [] ∧ digits.all isAsciiDigit = true) := by
    rw [Bool.or_eq_true, Decidable.not_and_iff_not_or_not]
    simp
  unfold number?
  rw [← ascii_digits_iff, ← decimal_value]
  constructor
  · intro read
    split at read
    · contradiction
    · rename_i clean
      rw [spelled, Decidable.not_not] at clean
      split at read
      · rename_i fits
        obtain rfl := Option.some.inj read
        exact ⟨clean.1, clean.2, rfl, fits⟩
      · contradiction
  · rintro ⟨something, ascii, rfl, fits⟩
    rw [if_neg fun bad => spelled.mp bad ⟨something, ascii⟩, if_pos fits]

theorem digits_of_number (n : Nat) :
    (toString n).toList ≠ [] ∧ (∀ c ∈ (toString n).toList, c.isDigit = true) ∧
      Nat.ofDigitChars 10 (toString n).toList 0 = n := by
  have written : (toString n).toList = Nat.toDigits 10 n := by
    rw [Nat.toString_eq_repr, Nat.toList_repr]
  rw [written]
  exact ⟨Nat.toDigits_ne_nil,
    fun c member => Nat.isDigit_of_mem_toDigits (by decide) (by decide) member,
    Nat.ofDigitChars_ten_toDigits⟩

theorem number_read_back (n : Nat) (fits : n < wordRange) :
    number? (toString n).toList = some n := by
  obtain ⟨something, digits, value⟩ := digits_of_number n
  exact (number_iff _ n).mpr ⟨something, digits, value, fits⟩

end Fragment.Text
