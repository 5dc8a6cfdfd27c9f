import Fragment.Proofs.Text.Octets
import Fragment.Text.Decode
/-!
ASCII among what octets are read as. A character of one octet is read only where that octet is, and
whatever was begun before it: what is on either side of it is read as if it stood alone. What is well
formed is read as what it is.
-/
namespace Fragment.Utf8

-- Whatever octets are still missing, the value that they make of what is collected is that of a
-- character beyond ASCII.
def Wide : Nat → Nat → Nat → Nat → Prop
  | 0, low, high, value => ∀ o, low ≤ o → o ≤ high →
    (64 * value + (o - 0x80)).isValidChar ∧ 0x80 ≤ 64 * value + (o - 0x80)
  | m + 1, low, high, value => ∀ o, low ≤ o → o ≤ high → Wide m 0x80 0xBF (64 * value + (o - 0x80))

def State.Wide : State → Prop
  | .between => True
  | .inside missing low high value => Utf8.Wide missing low high value

theorem start_wide (octet : Nat) : (start octet).1.Wide := by
  unfold start
  repeat' split
  all_goals
    simp only [State.Wide, Wide, Nat.isValidChar]
    try omega

theorem scalar_value (n : Nat) (valid : n.isValidChar) : (Char.ofNat n).toNat = n := by
  rw [Char.ofNat, dif_pos valid]
  rfl

theorem start_read (octet : Nat) (c : Char) (read : some c ∈ (start octet).2) :
    c.toNat = octet := by
  by_cases small : octet < 0x80
  · have valid : octet.isValidChar := by
      unfold Nat.isValidChar
      omega
    simp only [start, if_pos small, List.mem_singleton, Option.some.injEq] at read
    rw [read, scalar_value octet valid]
  · unfold start at read
    rw [if_neg small] at read
    repeat' split at read
    all_goals simp at read

theorem step_read (state : State) (o : UInt8) (wide : state.Wide) :
    (step state o).1.Wide ∧
      ∀ c : Char, c.toNat < 0x80 → some c ∈ (step state o).2 → c.toNat = o.toNat := by
  cases state with
  | between =>
    rw [step]
    exact ⟨start_wide o.toNat, fun c _ => start_read o.toNat c⟩
  | inside missing low high value =>
    by_cases fits : low ≤ o.toNat ∧ o.toNat ≤ high
    · simp only [step, if_pos fits]
      cases missing with
      | zero =>
        obtain ⟨valid, large⟩ := wide o.toNat fits.1 fits.2
        refine ⟨True.intro, ?_⟩
        intro c ascii read
        have same := Option.some.inj (List.mem_singleton.mp read)
        rw [same, scalar_value _ valid] at ascii
        omega
      | succ m => exact ⟨wide o.toNat fits.1 fits.2, by simp⟩
    · simp only [step, if_neg fits]
      refine ⟨start_wide o.toNat, fun c _ read => ?_⟩
      exact start_read o.toNat c (by simpa using read)

theorem run_read (state : State) (octets : Octets) (wide : state.Wide) (c : Char)
    (ascii : c.toNat < 0x80) (read : some c ∈ (run state octets).1) :
    UInt8.ofNat c.toNat ∈ octets := by
  induction octets generalizing state with
  | nil => contradiction
  | cons o rest ih =>
    obtain ⟨next, own⟩ := step_read state o wide
    rcases List.mem_append.mp read with here | later
    · rw [own c ascii here, UInt8.ofNat_toNat]
      exact List.mem_cons_self
    · exact List.mem_cons_of_mem o (ih (step state o).1 next later)

theorem lossy_ascii (octets : Octets) (c : Char) (ascii : c.toNat < 0x80)
    (read : c ∈ lossyChars octets) : UInt8.ofNat c.toNat ∈ octets := by
  obtain ⟨found, member, same⟩ := List.mem_map.mp read
  cases found with
  | none =>
    rw [← same] at ascii
    contradiction
  | some d =>
    obtain rfl : d = c := same
    rcases List.mem_append.mp member with inside | behind
    · exact run_read .between octets trivial d ascii inside
    · cases ended : (run .between octets).2 with
      | between => simp [ended, finish] at behind
      | inside => simp [ended, finish] at behind

-- Inside a character, an octet below the ones that go on with it ends an ill-formed stretch.
def State.Firm : State → Prop
  | .between => True
  | .inside _ low _ _ => 0x80 ≤ low

theorem start_firm (octet : Nat) : (start octet).1.Firm := by
  unfold start
  repeat' split
  all_goals
    simp only [State.Firm]
    try omega

theorem step_firm (state : State) (o : UInt8) : (step state o).1.Firm := by
  cases state with
  | between => exact start_firm o.toNat
  | inside missing low high value =>
    by_cases fits : low ≤ o.toNat ∧ o.toNat ≤ high
    · simp only [step, if_pos fits]
      cases missing with
      | zero => exact True.intro
      | succ m => exact Nat.le_refl 0x80
    · simp only [step, if_neg fits]
      exact start_firm o.toNat

theorem run_firm (state : State) (octets : Octets) (firm : state.Firm) :
    (run state octets).2.Firm := by
  induction octets generalizing state with
  | nil => exact firm
  | cons o rest ih => exact ih (step state o).1 (step_firm state o)

theorem start_ascii (c : Char) (ascii : c.toNat < 0x80) :
    start c.toNat = (.between, [some c]) := by
  rw [start, if_pos ascii, Char.ofNat_toNat]

-- Whatever was begun before it, a character of one octet ends it and is read.
theorem step_ascii (state : State) (c : Char) (firm : state.Firm) (ascii : c.toNat < 0x80) :
    step state (UInt8.ofNat c.toNat) = (.between, finish state ++ [some c]) := by
  have value : (UInt8.ofNat c.toNat).toNat = c.toNat :=
    UInt8.toNat_ofNat_of_lt' (Nat.lt_trans ascii (by decide))
  cases state with
  | between => rw [step, value, start_ascii c ascii]; rfl
  | inside missing low high value' =>
    have below : ¬ (low ≤ c.toNat ∧ c.toNat ≤ high) := by
      have bound : 0x80 ≤ low := firm
      omega
    simp only [step, value, if_neg below, start_ascii c ascii, finish, List.singleton_append]

theorem scan_cut (a b : Octets) (c : Char) (ascii : c.toNat < 0x80) :
    scan (a ++ UInt8.ofNat c.toNat :: b) = scan a ++ some c :: scan b := by
  have firm : (run .between a).2.Firm := run_firm .between a trivial
  simp only [scan, run_append, run, step_ascii _ c firm ascii, List.append_assoc,
    List.cons_append, List.nil_append]

theorem lossy_cut (a b : Octets) (c : Char) (ascii : c.toNat < 0x80) :
    lossyChars (a ++ UInt8.ofNat c.toNat :: b) = lossyChars a ++ c :: lossyChars b := by
  rw [lossyChars, scan_cut a b c ascii, List.map_append, List.map_cons]
  rfl

theorem start_two (n : Nat) (low : 0xC2 ≤ n) (high : n < 0xE0) :
    start n = (.inside 0 0x80 0xBF (n - 0xC0), []) := by
  rw [start, if_neg (by omega), if_neg (by omega), if_pos high]

theorem start_three (n : Nat) (low : 0xE0 ≤ n) (high : n < 0xF0) :
    start n = (.inside 1 (if n = 0xE0 then 0xA0 else 0x80) (if n = 0xED then 0x9F else 0xBF)
      (n - 0xE0), []) := by
  rw [start, if_neg (by omega), if_neg (by omega), if_neg (by omega)]
  split
  · rename_i first
    subst first
    rfl
  split
  · rename_i last
    subst last
    rfl
  · rfl

theorem start_four (n : Nat) (low : 0xF0 ≤ n) (high : n ≤ 0xF4) :
    start n = (.inside 2 (if n = 0xF0 then 0x90 else 0x80) (if n = 0xF4 then 0x8F else 0xBF)
      (n - 0xF0), []) := by
  rw [start, if_neg (by omega), if_neg (by omega), if_neg (by omega), if_neg (by omega),
    if_neg (by omega), if_neg (by omega)]
  split
  · rename_i first
    subst first
    rfl
  split
  · rename_i middle
    rw [if_neg (by omega)]
  · obtain rfl : n = 0xF4 := by omega
    rfl

theorem step_last (low high value n : Nat) (small : n < 256) (fits : low ≤ n ∧ n ≤ high) :
    step (.inside 0 low high value) (UInt8.ofNat n) =
      (.between, [some (Char.ofNat (64 * value + (n - 0x80)))]) := by
  have same : (UInt8.ofNat n).toNat = n := UInt8.toNat_ofNat_of_lt' small
  simp only [step, same, if_pos fits]

theorem step_more (missing low high value n : Nat) (small : n < 256)
    (fits : low ≤ n ∧ n ≤ high) :
    step (.inside (missing + 1) low high value) (UInt8.ofNat n) =
      (.inside missing 0x80 0xBF (64 * value + (n - 0x80)), []) := by
  have same : (UInt8.ofNat n).toNat = n := UInt8.toNat_ofNat_of_lt' small
  simp only [step, same, if_pos fits]

theorem step_start (n : Nat) (small : n < 256) : step .between (UInt8.ofNat n) = start n := by
  rw [step, UInt8.toNat_ofNat_of_lt' small]

theorem char_valid (c : Char) : c.val.toNat < 0xD800 ∨ 0xDFFF < c.val.toNat ∧
    c.val.toNat < 0x110000 := c.valid

theorem char_value (c : Char) (n : Nat) (same : n = c.val.toNat) : Char.ofNat n = c := by
  rw [same]
  exact Char.ofNat_toNat c

theorem run_encoded (c : Char) : run .between (String.utf8EncodeChar c) = ([some c], .between) := by
  have valid := char_valid c
  unfold String.utf8EncodeChar
  dsimp only
  split
  · simp only [run, step_start _ (show c.val.toNat < 256 by omega), start,
      if_pos (show c.val.toNat < 0x80 by omega), char_value c _ rfl]
    rfl
  split
  · have first := start_two (c.val.toNat / 64 % 32 + 192) (by omega) (by omega)
    simp only [run]
    rw [step_start _ (by omega), first]
    dsimp only
    rw [step_last _ _ _ _ (by omega) (by omega), char_value c _ (by omega)]
    rfl
  split
  · have first := start_three (c.val.toNat / 4096 % 16 + 224) (by omega) (by omega)
    simp only [run]
    rw [step_start _ (by omega), first]
    dsimp only
    rw [step_more _ _ _ _ _ (by omega) (by constructor <;> split <;> omega)]
    dsimp only
    rw [step_last _ _ _ _ (by omega) (by omega), char_value c _ (by omega)]
    rfl
  · have first := start_four (c.val.toNat / 262144 % 8 + 240) (by omega) (by omega)
    simp only [run]
    rw [step_start _ (by omega), first]
    dsimp only
    rw [step_more _ _ _ _ _ (by omega) (by constructor <;> split <;> omega)]
    dsimp only
    rw [step_more _ _ _ _ _ (by omega) (by omega)]
    dsimp only
    rw [step_last _ _ _ _ (by omega) (by omega), char_value c _ (by omega)]
    rfl

theorem scan_encoded (text : List Char) (rest : Octets) :
    scan (Octets.ofChars text ++ rest) = text.map some ++ scan rest := by
  induction text with
  | nil => rfl
  | cons c more ih =>
    rw [Octets.ofChars, List.flatMap_cons, List.append_assoc, ← Octets.ofChars, scan, run_append,
      run_encoded c]
    simp only [List.map_cons, List.cons_append, List.nil_append]
    exact congrArg (some c :: ·) ih

theorem lossy_encoded (text : List Char) (rest : Octets) :
    lossyChars (Octets.ofChars text ++ rest) = text ++ lossyChars rest := by
  rw [lossyChars, scan_encoded, List.map_append, List.map_map]
  congr 1
  exact List.map_id text

theorem start_large (octet : Nat) (large : 0x80 ≤ octet) :
    start octet = (.between, [none]) ∨
      ∃ missing low high value, start octet = (.inside missing low high value, []) := by
  unfold start
  rw [if_neg (by omega)]
  repeat' split
  all_goals simp

theorem inside_first (missing low high value : Nat) (octets : Octets)
    (wide : Wide missing low high value) :
    ∃ first more, (run (.inside missing low high value) octets).1 ++
        finish (run (.inside missing low high value) octets).2 = first :: more ∧
      ∀ c ∈ first, 0x80 ≤ c.toNat := by
  induction octets generalizing missing low high value with
  | nil => exact ⟨none, [], rfl, by simp⟩
  | cons o rest ih =>
    by_cases fits : low ≤ o.toNat ∧ o.toNat ≤ high
    · cases missing with
      | zero =>
        obtain ⟨valid, large⟩ := wide o.toNat fits.1 fits.2
        simp only [run, step, if_pos fits, List.cons_append]
        refine ⟨_, _, rfl, ?_⟩
        intro c same
        rw [← Option.some.inj same, scalar_value _ valid]
        exact large
      | succ m =>
        simp only [run, step, if_pos fits, List.nil_append]
        exact ih m 0x80 0xBF _ (wide o.toNat fits.1 fits.2)
    · simp only [run, step, if_neg fits, List.cons_append]
      exact ⟨none, _, rfl, by simp⟩

theorem lossy_first (octets : Octets) (c : Char) (more : List Char) (ascii : c.toNat < 0x80)
    (read : lossyChars octets = c :: more) :
    ∃ rest, octets = UInt8.ofNat c.toNat :: rest ∧ lossyChars rest = more := by
  cases octets with
  | nil => contradiction
  | cons o rest =>
    by_cases small : o.toNat < 0x80
    · have value : (Char.ofNat o.toNat).toNat = o.toNat :=
        scalar_value _ (.inl (Nat.lt_trans small (by decide)))
      have cut := lossy_cut [] rest (Char.ofNat o.toNat) (by rwa [value])
      rw [value, UInt8.ofNat_toNat, List.nil_append, read] at cut
      obtain ⟨rfl, rfl⟩ := List.cons.inj cut
      exact ⟨rest, by rw [value, UInt8.ofNat_toNat], rfl⟩
    · have wide := start_wide o.toNat
      have large : ∀ d : Option Char, (∀ e ∈ d, 0x80 ≤ e.toNat) → d.getD '\uFFFD' ≠ c := by
        rintro (_ | e) other rfl
        · exact absurd ascii (by decide)
        · exact absurd (other e rfl) (by simpa using ascii)
      rcases start_large o.toNat (by omega) with ill | ⟨missing, low, high, value, begun⟩
      · simp only [lossyChars, scan, run, step, ill, List.cons_append, List.map_cons,
          List.cons.injEq] at read
        exact absurd read.1 (large none (by simp))
      · rw [begun] at wide
        obtain ⟨first, after, shape, other⟩ := inside_first missing low high value rest wide
        simp only [lossyChars, scan, run, step, begun, List.nil_append, shape, List.map_cons,
          List.cons.injEq] at read
        exact absurd read.1 (large first other)

theorem lossy_nil (octets : Octets) (read : lossyChars octets = []) : octets = [] := by
  cases octets with
  | nil => rfl
  | cons o rest =>
    by_cases small : o.toNat < 0x80
    · have value : (Char.ofNat o.toNat).toNat = o.toNat :=
        scalar_value _ (.inl (Nat.lt_trans small (by decide)))
      have cut := lossy_cut [] rest (Char.ofNat o.toNat) (by rwa [value])
      rw [value, UInt8.ofNat_toNat, List.nil_append, read] at cut
      contradiction
    · have wide := start_wide o.toNat
      rcases start_large o.toNat (by omega) with ill | ⟨missing, low, high, value, begun⟩
      · simp [lossyChars, scan, run, step, ill] at read
      · rw [begun] at wide
        obtain ⟨first, after, shape, -⟩ := inside_first missing low high value rest wide
        simp only [lossyChars, scan, run, step, begun, List.nil_append, shape] at read
        contradiction

theorem append_cons_infix {α : Type} (front rest before after : List α) (c : α) (d : α)
    (bare : c ∉ before) (same : front ++ c :: d :: rest = before ++ c :: after) :
    after = d :: rest ∨ ∃ front', after = front' ++ c :: d :: rest := by
  induction before generalizing front with
  | nil =>
    cases front with
    | nil => exact .inl (List.cons.inj same).2.symm
    | cons first more => exact .inr ⟨more, (List.cons.inj same).2.symm⟩
  | cons first before ih =>
    cases front with
    | nil => exact absurd (List.cons.inj same).1 (fun here => bare (by simp [here]))
    | cons _ more =>
      exact ih more (fun member => bare (List.mem_cons_of_mem first member)) (List.cons.inj same).2

theorem lossy_neighbours (octets : Octets) (c d : Char) (ascii : c.toNat < 0x80)
    (ascii' : d.toNat < 0x80) (front rest : List Char)
    (read : lossyChars octets = front ++ c :: d :: rest) :
    [UInt8.ofNat c.toNat, UInt8.ofNat d.toNat] <:+: octets := by
  have member := lossy_ascii octets c ascii (by simp [read])
  obtain ⟨a, b, rfl, bare⟩ := List.eq_append_cons_of_mem member
  have bare' : c ∉ lossyChars a := fun inside => bare (lossy_ascii a c ascii inside)
  rw [lossy_cut a b c ascii] at read
  rcases append_cons_infix front rest _ _ c d bare' read.symm with next | ⟨later, next⟩
  · obtain ⟨b', rfl, -⟩ := lossy_first b d rest ascii' next
    exact ⟨a, b', by simp⟩
  · have found := lossy_neighbours b c d ascii ascii' later rest next
    exact found.trans ⟨a ++ [UInt8.ofNat c.toNat], [], by simp⟩
termination_by octets.length
decreasing_by
  subst_vars
  simp
  omega

end Fragment.Utf8
