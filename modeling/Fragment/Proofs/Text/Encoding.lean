import Fragment.Proofs.Text.Decode
/-!
Texts as octets and back. Octets are read as a text, with nothing ill formed among them, exactly if
they are what that text is written as.
-/
namespace Fragment.Utf8

-- Whatever octets are still missing, they and what was begun before them are the encoding of the
-- character whose code point is then collected.
def Opens : Nat → Nat → Nat → Nat → Octets → Prop
  | 0, low, high, value, begun => ∀ o : UInt8, low ≤ o.toNat → o.toNat ≤ high →
    String.utf8EncodeChar (Char.ofNat (64 * value + (o.toNat - 0x80))) = begun ++ [o]
  | m + 1, low, high, value, begun => ∀ o : UInt8, low ≤ o.toNat → o.toNat ≤ high →
    Opens m 0x80 0xBF (64 * value + (o.toNat - 0x80)) (begun ++ [o])

def State.Began : State → Octets → Prop
  | .between, begun => begun = []
  | .inside missing low high value, begun => Opens missing low high value begun

theorem octet_value (n : Nat) (o : UInt8) (same : n = o.toNat) : UInt8.ofNat n = o := by
  rw [same, UInt8.ofNat_toNat]

section encode

variable (n : Nat) (valid : n.isValidChar)
include valid

theorem scalar_word : (Char.ofNat n).val.toNat = n := scalar_value n valid

theorem encode_one (small : n < 0x80) : String.utf8EncodeChar (Char.ofNat n) = [UInt8.ofNat n] := by
  unfold String.utf8EncodeChar
  simp only [scalar_word n valid]
  rw [if_pos (by omega)]

theorem encode_two (low : 0x80 ≤ n) (high : n < 0x800) :
    String.utf8EncodeChar (Char.ofNat n) =
      [UInt8.ofNat (n / 64 + 192), UInt8.ofNat (n % 64 + 128)] := by
  unfold String.utf8EncodeChar
  simp only [scalar_word n valid]
  rw [if_neg (by omega), if_pos (by omega), Nat.mod_eq_of_lt (show n / 64 < 32 by omega)]

theorem encode_three (low : 0x800 ≤ n) (high : n < 0x10000) :
    String.utf8EncodeChar (Char.ofNat n) =
      [UInt8.ofNat (n / 4096 + 224), UInt8.ofNat (n / 64 % 64 + 128),
        UInt8.ofNat (n % 64 + 128)] := by
  unfold String.utf8EncodeChar
  simp only [scalar_word n valid]
  rw [if_neg (by omega), if_neg (by omega), if_pos (by omega),
    Nat.mod_eq_of_lt (show n / 4096 < 16 by omega)]

theorem encode_four (low : 0x10000 ≤ n) (high : n < 0x110000) :
    String.utf8EncodeChar (Char.ofNat n) =
      [UInt8.ofNat (n / 262144 + 240), UInt8.ofNat (n / 4096 % 64 + 128),
        UInt8.ofNat (n / 64 % 64 + 128), UInt8.ofNat (n % 64 + 128)] := by
  unfold String.utf8EncodeChar
  simp only [scalar_word n valid]
  rw [if_neg (by omega), if_neg (by omega), if_neg (by omega),
    Nat.mod_eq_of_lt (show n / 262144 < 8 by omega)]

end encode

theorem opens_two (a : UInt8) (low : 0xC2 ≤ a.toNat) (high : a.toNat < 0xE0) :
    Opens 0 0x80 0xBF (a.toNat - 0xC0) [a] := by
  intro o above below
  have valid : (64 * (a.toNat - 0xC0) + (o.toNat - 0x80)).isValidChar := .inl (by omega)
  rw [encode_two _ valid (by omega) (by omega), octet_value _ a (by omega),
    octet_value _ o (by omega)]
  rfl

-- The second octet of three keeps the code point above the shorter forms and off the surrogates.
theorem opens_three (a : UInt8) (low high value : Nat)
    (lead : a.toNat = value + 0xE0 ∧ value < 16) (range : 0x80 ≤ low ∧ high ≤ 0xBF)
    (fit : (value = 0 → 0xA0 ≤ low) ∧ (value = 0xD → high ≤ 0x9F)) :
    Opens 1 low high value [a] := by
  intro p above below o above' below'
  have valid : (64 * (64 * value + (p.toNat - 0x80)) + (o.toNat - 0x80)).isValidChar := by
    unfold Nat.isValidChar
    omega
  rw [encode_three _ valid (by omega) (by omega), octet_value _ a (by omega),
    octet_value _ p (by omega), octet_value _ o (by omega)]
  rfl

theorem opens_four (a : UInt8) (low high value : Nat)
    (lead : a.toNat = value + 0xF0 ∧ value < 5) (range : 0x80 ≤ low ∧ high ≤ 0xBF)
    (fit : (value = 0 → 0x90 ≤ low) ∧ (value = 4 → high ≤ 0x8F)) :
    Opens 2 low high value [a] := by
  intro p above below q above' below' o above'' below''
  have valid : (64 * (64 * (64 * value + (p.toNat - 0x80)) + (q.toNat - 0x80)) +
      (o.toNat - 0x80)).isValidChar := by
    unfold Nat.isValidChar
    omega
  rw [encode_four _ valid (by omega) (by omega), octet_value _ a (by omega),
    octet_value _ p (by omega), octet_value _ q (by omega), octet_value _ o (by omega)]
  rfl

theorem start_began (o : UInt8) :
    (∃ c, start o.toNat = (.between, [some c]) ∧ String.utf8EncodeChar c = [o]) ∨
    start o.toNat = (.between, [none]) ∨
    ∃ state : State, start o.toNat = (state, []) ∧ state.Began [o] := by
  unfold start
  split
  · refine .inl ⟨_, rfl, ?_⟩
    rw [encode_one _ (.inl (by omega)) (by omega), UInt8.ofNat_toNat]
  split
  · exact .inr (.inl rfl)
  split
  · exact .inr (.inr ⟨_, rfl, opens_two o (by omega) (by omega)⟩)
  split
  · exact .inr (.inr ⟨_, rfl, opens_three o _ _ _ (by omega) (by omega) (by omega)⟩)
  split
  · exact .inr (.inr ⟨_, rfl, opens_three o _ _ _ (by omega) (by omega) (by omega)⟩)
  split
  · exact .inr (.inr ⟨_, rfl, opens_three o _ _ _ (by omega) (by omega) (by omega)⟩)
  split
  · exact .inr (.inr ⟨_, rfl, opens_four o _ _ _ (by omega) (by omega) (by omega)⟩)
  split
  · exact .inr (.inr ⟨_, rfl, opens_four o _ _ _ (by omega) (by omega) (by omega)⟩)
  split
  · exact .inr (.inr ⟨_, rfl, opens_four o _ _ _ (by omega) (by omega) (by omega)⟩)
  · exact .inr (.inl rfl)

theorem run_began (state : State) (begun octets : Octets) (text : List Char)
    (began : state.Began begun)
    (read : (run state octets).1 ++ finish (run state octets).2 = text.map some) :
    begun ++ octets = Octets.ofChars text := by
  induction octets generalizing state begun text with
  | nil =>
    cases state with
    | between =>
      obtain rfl : text = [] := List.map_eq_nil_iff.mp read.symm
      rw [show begun = [] from began]
      rfl
    | inside missing low high value => cases text <;> simp [run, finish] at read
  | cons o rest ih =>
    have goes : (step state o).2 ++ ((run (step state o).1 rest).1 ++
        finish (run (step state o).1 rest).2) = text.map some := by
      rw [← List.append_assoc]
      exact read
    -- A character that ends here is the first of the text, and nothing is begun behind it.
    have ended (c : Char) (whole : String.utf8EncodeChar c = begun ++ [o])
        (next : step state o = (.between, [some c])) : begun ++ o :: rest = Octets.ofChars text := by
      rw [next] at goes
      cases text with
      | nil => cases goes
      | cons d more =>
        simp only [List.cons_append, List.nil_append, List.map_cons, List.cons.injEq,
          Option.some.injEq] at goes
        obtain ⟨rfl, later⟩ := goes
        have behind := ih .between [] more rfl later
        rw [Octets.ofChars, List.flatMap_cons, ← Octets.ofChars, whole, ← behind]
        simp
    have ill (said : List (Option Char)) (next : (step state o).2 = none :: said) :
        begun ++ o :: rest = Octets.ofChars text := by
      rw [next] at goes
      cases text <;> simp at goes
    have more (next : State) (opens : next.Began (begun ++ [o])) (moved : step state o = (next, [])) :
        begun ++ o :: rest = Octets.ofChars text := by
      rw [moved] at goes
      have later := ih next (begun ++ [o]) text opens goes
      simpa using later
    cases state with
    | between =>
      obtain rfl : begun = [] := began
      rcases start_began o with ⟨c, next, whole⟩ | next | ⟨state, next, opens⟩
      · exact ended c whole next
      · exact ill [] (congrArg Prod.snd next)
      · exact more state opens next
    | inside missing low high value =>
      by_cases fits : low ≤ o.toNat ∧ o.toNat ≤ high
      · cases missing with
        | zero => exact ended _ (began o fits.1 fits.2) (by simp only [step, if_pos fits])
        | succ m =>
          exact more (.inside m 0x80 0xBF _) (began o fits.1 fits.2)
            (by simp only [step, if_pos fits])
      · exact ill (start o.toNat).2 (by simp only [step, if_neg fits])

theorem scan_iff (octets : Octets) (text : List Char) :
    scan octets = text.map some ↔ octets = Octets.ofChars text := by
  constructor
  · exact fun read => run_began .between [] octets text rfl read
  · rintro rfl
    have whole := scan_encoded text []
    rwa [List.append_nil, show scan [] = [] from rfl, List.append_nil] at whole

theorem all_some_iff {α : Type} (said : List (Option α)) (all : List α) :
    said.mapM id = some all ↔ said = all.map some := by
  induction said generalizing all with
  | nil => cases all <;> simp
  | cons first rest ih =>
    cases first with
    | none => cases all <;> simp
    | some a =>
      have step : (some a :: rest).mapM id = (rest.mapM id).map (a :: ·) := by
        rw [List.mapM_cons]
        cases rest.mapM id <;> rfl
      rw [step, Option.map_eq_some_iff]
      constructor
      · rintro ⟨more, read, rfl⟩
        rw [(ih more).mp read, List.map_cons]
      · intro same
        cases all with
        | nil => cases same
        | cons b more =>
          obtain ⟨head, tail⟩ := List.cons.inj same
          exact ⟨more, (ih more).mpr tail, by rw [Option.some.inj head]⟩

theorem decode_iff (octets : Octets) (text : String) :
    decode? octets = some text ↔ octets = Octets.ofString text := by
  rw [decode?, Option.map_eq_some_iff]
  constructor
  · rintro ⟨all, read, rfl⟩
    rw [Octets.ofString, String.toList_ofList]
    exact (scan_iff octets all).mp ((all_some_iff _ all).mp read)
  · rintro rfl
    exact ⟨text.toList, (all_some_iff _ _).mpr ((scan_iff _ _).mpr rfl), String.ofList_toList⟩

end Fragment.Utf8
