import Fragment.Proofs.Diagnostic.RoundTrip
/-!
Places that have lost their line. The line and the column of a place are read apart from each other,
and each that is no number is left out; where only the line is, the column is written in its stead.
-/
namespace Fragment.Diagnostic

-- Digits that are no number to the reader: not all of them ASCII, or too large for a word.
def Unread (digits : List Char) : Prop :=
  (∃ c ∈ digits, c.isDigit = false) ∨ Text.wordRange ≤ Nat.ofDigitChars 10 digits 0

theorem value_none_iff (digits : List Char) : valueOf? digits = none ↔ Unread digits := by
  unfold valueOf? Unread
  by_cases ascii : digits.all Char.isDigit = true
  · have digital : ¬ ∃ c ∈ digits, c.isDigit = false := by simpa using ascii
    simp [ascii, digital]
  · have other : ∃ c ∈ digits, c.isDigit = false := by simpa using ascii
    simp [ascii, other]

-- A line with a place whose line is no number to the reader, and whose column is one.
def Displaced (line : List Char) : Prop :=
  ∃ file digits column word severity message,
    (Form.positioned file digits (some column) word severity message).Writes (Text.trimEnd line) ∧
      Unread digits ∧ ¬ Unread column

theorem placed_read (line : List Char) (form : Form) (placed : form.kind = .positioned)
    (writes : form.Writes (Text.trimEnd line)) : ofLine? line = some form.told := by
  rw [of_line_kinds, first_kind_iff]
  refine ⟨form, ⟨writes, ?_⟩, rfl⟩
  rw [placed]
  exact fun _ _ => Nat.zero_le _

theorem displaced_read (line : List Char) (displaced : Displaced line) :
    ∃ d, ofLine? line = some d ∧ d.line = none ∧ d.column ≠ none := by
  obtain ⟨file, digits, column, word, severity, message, writes, unread, known⟩ := displaced
  rw [← value_none_iff] at unread known
  exact ⟨_, placed_read line _ rfl writes, unread, known⟩

theorem read_displaced (line : List Char) (d : Diagnostic) (read : ofLine? line = some d)
    (unplaced : d.line = none) (columned : d.column ≠ none) : Displaced line := by
  rw [of_line_kinds, first_kind_iff] at read
  obtain ⟨form, ⟨writes, -⟩, rfl⟩ := read
  cases form with
  | positioned file digits column word severity message =>
    cases column with
    | none => exact absurd rfl columned
    | some column =>
      have known : ¬ Unread column := fun unread => columned ((value_none_iff column).mpr unread)
      exact ⟨file, digits, column, word, severity, message, writes,
        (value_none_iff digits).mp unplaced, known⟩
  | tool | sectioned | linker => exact absurd rfl columned

theorem columns_placed_iff (text : String) :
    (∀ d ∈ parse text, d.column ≠ none → d.line ≠ none) ↔
      ∀ line ∈ Text.lines text.toList, ¬ Displaced line := by
  constructor
  · intro placed line member displaced
    obtain ⟨d, read, unplaced, columned⟩ := displaced_read line displaced
    exact placed d (List.mem_filterMap.mpr ⟨line, member, read⟩) columned unplaced
  · intro kept d parsed columned unplaced
    obtain ⟨line, member, read⟩ := List.mem_filterMap.mp parsed
    exact kept line member (read_displaced line d read unplaced columned)

def shifted (d : Diagnostic) : Diagnostic := { d with line := d.column, column := none }

theorem render_shifted (d : Diagnostic) (unplaced : d.line = none) :
    d.render = d.shifted.render := by
  cases d with
  | mk severity source line column message =>
    obtain rfl : line = none := unplaced
    cases source with
    | none => rfl
    | some file => simp [render, shifted, location, position]

theorem read_shifted (line : List Char) (bare : '\n' ∉ line) (d : Diagnostic)
    (read : ofLine? line = some d) (columned : d.column ≠ none) : d.shifted.WellFormed := by
  rw [of_line_kinds, first_kind_iff] at read
  obtain ⟨form, ⟨writes, -⟩, rfl⟩ := read
  cases form with
  | positioned file digits column word severity message =>
    obtain ⟨inside, said⟩ :=
      placed_parts line file digits message column word severity bare writes
    obtain ⟨n, known⟩ := Option.ne_none_iff_exists'.mp columned
    obtain ⟨digits', -, known'⟩ := Option.bind_eq_some_iff.mp known
    refine ⟨⟨String.ofList file, rfl, ?_, ?_⟩, ⟨n, known, value_fits digits' n known'⟩, ?_, ?_⟩
    · rw [String.toList_ofList]
      exact writes.1.1
    · rwa [String.toList_ofList]
    · intro c member
      contradiction
    · simpa [shifted, Form.told] using said
  | tool | sectioned | linker => exact absurd rfl columned

theorem parse_rendered (d : Diagnostic) (formed : d.WellFormed) : parse d.render = [d] := by
  have written := parse_written [d] (by simpa using formed)
  simpa using written

theorem column_without_line_iff (text : String) :
    ((∀ d ∈ parse text, d.column ≠ none → d.line ≠ none) ↔
      ∀ line ∈ Text.lines text.toList, ¬ Displaced line) ∧
    (∀ d ∈ parse text, d.line ≠ none → parse d.render = [d]) ∧
    ∀ d ∈ parse text, d.line = none → d.column ≠ none →
      d.render = d.shifted.render ∧ parse d.render = [d.shifted] := by
  refine ⟨columns_placed_iff text, ?_, ?_⟩
  · intro d parsed placed
    exact parse_rendered d (parsed_well_formed text d parsed (Option.isSome_iff_ne_none.mpr placed))
  · intro d parsed unplaced columned
    have same := render_shifted d unplaced
    refine ⟨same, ?_⟩
    rw [same]
    obtain ⟨line, member, read⟩ := List.mem_filterMap.mp parsed
    exact parse_rendered _ (read_shifted line (Text.line_bare _ line member) d read columned)

def oversized : String :=
  "a:18446744073709551616:5: error: x\nb:٣:7: note: y\nc:3:٣: note: z"

theorem oversized_parsed :
    parse oversized = [⟨.error, some "a", none, some 5, "x"⟩, ⟨.note, some "b", none, some 7, "y"⟩,
      ⟨.note, some "c", some 3, none, "z"⟩] := by
  decide +kernel

theorem oversized_displaced :
    (∃ line ∈ Text.lines oversized.toList, Displaced line) ∧
      parse "a:5: error: x" = [⟨.error, some "a", some 5, none, "x"⟩] ∧
      parse "c:3: note: z" = [⟨.note, some "c", some 3, none, "z"⟩] := by
  obtain ⟨placed, kept, displaced⟩ := column_without_line_iff oversized
  rw [oversized_parsed] at placed kept displaced
  refine ⟨?_, ?_, ?_⟩
  · by_contra never
    have columned := placed.mpr fun line member found => never ⟨line, member, found⟩
    exact columned ⟨.error, some "a", .none, some 5, "x"⟩ (by simp) (by simp) rfl
  · exact (displaced ⟨.error, some "a", none, some 5, "x"⟩ (by simp) rfl (by simp)).2
  · exact kept ⟨.note, some "c", some 3, none, "z"⟩ (by simp) (by simp)

theorem column_shown_for_line :
    parse "a:18446744073709551616:5: error: x" = [⟨.error, some "a", none, some 5, "x"⟩] ∧
      render ⟨.error, some "a", none, some 5, "x"⟩ = "a:5: error: x" ∧
      ¬ ∀ text, ∀ d ∈ parse text, d.column ≠ none → d.line ≠ none := by
  have parsed : parse "a:18446744073709551616:5: error: x" =
      [⟨.error, some "a", none, some 5, "x"⟩] := by
    decide +kernel
  refine ⟨parsed, rfl, ?_⟩
  intro placed
  exact placed _ ⟨.error, some "a", none, some 5, "x"⟩ (by rw [parsed]; simp) (by simp) rfl

end Fragment.Diagnostic
