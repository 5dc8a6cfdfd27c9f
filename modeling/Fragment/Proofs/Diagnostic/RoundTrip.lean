import Mathlib.Data.List.Basic
import Fragment.Diagnostic.Stream
import Fragment.Proofs.Diagnostic.Grammar
import Fragment.Proofs.Diagnostic.Lead
import Fragment.Proofs.Text.Line
/-!
Diagnostics at a place in a file, written and read back. What is read of a line that has a place is
always fit to be written as one, and what is fit to be written is read back as it was.
-/
namespace Fragment.Diagnostic

structure IsMessage (message : List Char) : Prop where
  something : message ≠ []
  bare : '\n' ∉ message
  ended : ∀ c, message.getLast? = some c → Text.isBlank c = false

structure WellFormed (d : Diagnostic) : Prop where
  filed : ∃ file, d.source = some file ∧ IsFile file.toList ∧ '\n' ∉ file.toList
  placed : ∃ line, d.line = some line ∧ line < Text.wordRange
  columned : ∀ column ∈ d.column, column < Text.wordRange
  said : IsMessage d.message.toList

def spelled (n : Nat) : List Char := (toString n).toList

theorem spelled_number (n : Nat) : IsNumber (spelled n) := by
  obtain ⟨something, digits, -⟩ := Text.digits_of_number n
  exact ⟨something, fun c member => Text.isDigit_of_isAsciiDigit c (digits c member)⟩

theorem spelled_value (n : Nat) (fits : n < Text.wordRange) : valueOf? (spelled n) = some n :=
  (value_number _ (spelled_number n).1).trans (Text.number_read_back n fits)

structure Remark where
  file : List Char
  line : Nat
  column : Option Nat
  word : String
  severity : Severity
  message : List Char

namespace Remark

structure Valid (r : Remark) : Prop where
  filed : IsFile r.file
  bare : '\n' ∉ r.file
  placed : r.line < Text.wordRange
  columned : ∀ column ∈ r.column, column < Text.wordRange
  listed : (r.word, r.severity) ∈ severityWords
  said : IsMessage r.message

def form (r : Remark) : Form :=
  .positioned r.file (spelled r.line) (r.column.map spelled) r.word r.severity r.message

def told (r : Remark) : Diagnostic :=
  ⟨r.severity, some (String.ofList r.file), some r.line, r.column, String.ofList r.message⟩

end Remark

theorem form_valid (r : Remark) (valid : r.Valid) : r.form.Valid := by
  refine ⟨valid.filed, spelled_number r.line, ?_, valid.listed⟩
  intro digits member
  obtain ⟨column, -, rfl⟩ := Option.map_eq_some_iff.mp member
  exact spelled_number column

theorem form_told (r : Remark) (valid : r.Valid) : r.form.told = r.told := by
  have columns : (r.column.map spelled).bind valueOf? = r.column := by
    cases column : r.column with
    | none => rfl
    | some n => exact spelled_value n (valid.columned n column)
  simp only [Remark.form, Form.told, Remark.told, columns, spelled_value r.line valid.placed]

theorem form_front (r : Remark) : ∃ front, r.form.text = front ++ r.message := by
  refine ⟨{ r with message := [] }.form.text, ?_⟩
  simp [Remark.form, Form.text]

theorem form_ended (r : Remark) (valid : r.Valid) :
    ∀ c, r.form.text.getLast? = some c → Text.isBlank c = false := by
  obtain ⟨front, shape⟩ := form_front r
  intro c last
  rw [shape, List.getLast?_append] at last
  cases ending : r.message.getLast? with
  | none => exact absurd (List.getLast?_eq_none_iff.mp ending) valid.said.something
  | some e =>
    rw [ending, Option.some_or] at last
    exact valid.said.ended c (ending.trans last)

theorem word_bare (word : String) (severity : Severity) (listed : (word, severity) ∈ severityWords) :
    '\n' ∉ word.toList := by
  simp only [severityWords, List.mem_cons, Prod.mk.injEq, List.not_mem_nil, or_false] at listed
  rcases listed with ⟨rfl, -⟩ | ⟨rfl, -⟩ | ⟨rfl, -⟩ | ⟨rfl, -⟩
  all_goals decide

theorem number_bare (digits : List Char) (number : IsNumber digits) : '\n' ∉ digits := by
  intro member
  exact absurd (number.2 '\n' member) (by decide)

theorem form_bare (r : Remark) (valid : r.Valid) : '\n' ∉ r.form.text := by
  have line := number_bare _ (spelled_number r.line)
  have word := word_bare r.word r.severity valid.listed
  have columns : '\n' ∉ columnText (r.column.map spelled) := by
    cases r.column with
    | none => simp [columnText]
    | some n => simpa [columnText] using number_bare _ (spelled_number n)
  simp [Remark.form, Form.text, valid.bare, line, columns, word, valid.said.bare]

theorem form_line (r : Remark) (valid : r.Valid) : Text.IsLine r.form.text := by
  refine ⟨?_, form_bare r valid, fun last => ?_⟩
  · obtain ⟨front, shape⟩ := form_front r
    rw [shape]
    exact List.append_ne_nil_of_right_ne_nil _ valid.said.something
  · exact absurd (form_ended r valid '\r' last) (by decide)

-- The kind of places is tried first, so nothing else can claim the line.
theorem remark_read (r : Remark) (valid : r.Valid) : ofLine? r.form.text = some r.told := by
  rw [of_line_kinds, Text.trim_end_self _ (form_ended r valid), first_kind_iff]
  exact ⟨r.form, ⟨⟨form_valid r valid, rfl⟩, fun _ _ => Nat.zero_le _⟩, form_told r valid⟩

theorem render_remark (d : Diagnostic) (formed : d.WellFormed) :
    ∃ r : Remark, r.Valid ∧ r.form.text = d.render.toList ∧ r.told = d := by
  obtain ⟨severity, source, line, column, message⟩ := d
  obtain ⟨⟨file, rfl, filed, bare⟩, ⟨n, rfl, placed⟩, columned, said⟩ := formed
  refine ⟨⟨file.toList, n, column, severity.word, severity, message.toList⟩,
    ⟨filed, bare, placed, columned, word_listed severity, said⟩, ?_, ?_⟩
  · cases column with
    | none => simp [Remark.form, Form.text, columnText, spelled, render, location, position]
    | some c => simp [Remark.form, Form.text, columnText, spelled, render, location, position]
  · simp [Remark.told]

theorem value_fits (digits : List Char) (n : Nat) (known : valueOf? digits = some n) :
    n < Text.wordRange := by
  unfold valueOf? at known
  split at known
  · rename_i both
    obtain rfl := Option.some.inj known
    exact both.2
  · contradiction

-- The space before the message would end the line if the message were empty, and no line that is
-- read ends in white space.
theorem read_message (line front message : List Char)
    (written : Text.trimEnd line = front ++ ' ' :: message) (bare : '\n' ∉ line) :
    IsMessage message := by
  have ended : ∀ c, (front ++ ' ' :: message).getLast? = some c → Text.isBlank c = false :=
    fun c last => Text.trim_end_last line c (written ▸ last)
  have something : message ≠ [] := by
    rintro rfl
    exact absurd (ended ' ' (by simp)) (by decide)
  refine ⟨something, ?_, ?_⟩
  · intro member
    exact bare (Text.trim_end_subset line (by simp [written, member]))
  · intro c last
    refine ended c ?_
    rw [List.getLast?_append, List.getLast?_cons, last]
    rfl

theorem placed_parts (line file digits message : List Char) (column : Option (List Char))
    (word : String) (severity : Severity) (bare : '\n' ∉ line)
    (writes : (Form.positioned file digits column word severity message).Writes
      (Text.trimEnd line)) : '\n' ∉ file ∧ IsMessage message := by
  have written := writes.2
  constructor
  · intro member
    exact bare (Text.trim_end_subset line (by simp [written, Form.text, member]))
  · have cut : Text.trimEnd line =
        (file ++ ':' :: (digits ++ ':' :: (columnText column ++ ' ' :: (word.toList ++ [':'])))) ++
          ' ' :: message := by
      simp [written, Form.text]
    exact read_message line _ message cut bare

theorem read_well_formed (line : List Char) (bare : '\n' ∉ line) (d : Diagnostic)
    (read : ofLine? line = some d) (placed : d.line.isSome = true) : d.WellFormed := by
  rw [of_line_kinds, first_kind_iff] at read
  obtain ⟨form, ⟨writes, -⟩, rfl⟩ := read
  cases form with
  | positioned file digits column word severity message =>
    obtain ⟨inside, said⟩ :=
      placed_parts line file digits message column word severity bare writes
    obtain ⟨n, known⟩ := Option.isSome_iff_exists.mp placed
    refine ⟨⟨String.ofList file, rfl, ?_, ?_⟩, ⟨n, known, value_fits digits n known⟩, ?_, ?_⟩
    · rw [String.toList_ofList]
      exact writes.1.1
    · rwa [String.toList_ofList]
    · intro c member
      obtain ⟨digits', -, known'⟩ := Option.bind_eq_some_iff.mp member
      exact value_fits digits' c known'
    · simpa [Form.told] using said
  | tool | sectioned | linker => simp [Form.told] at placed

theorem render_read (d : Diagnostic) (formed : d.WellFormed) :
    Text.IsLine d.render.toList ∧ ofLine? d.render.toList = some d := by
  obtain ⟨r, valid, written, told⟩ := render_remark d formed
  rw [← written, remark_read r valid, told]
  exact ⟨form_line r valid, rfl⟩

theorem parse_written (ds : List Diagnostic) (formed : ∀ d ∈ ds, d.WellFormed) :
    parse (String.intercalate "\n" (ds.map render)) = ds := by
  have whole : ∀ line ∈ (ds.map render).map String.toList, Text.IsLine line := by
    intro line member
    obtain ⟨text, listed, rfl⟩ := List.mem_map.mp member
    obtain ⟨d, known, rfl⟩ := List.mem_map.mp listed
    exact (render_read d (formed d known)).1
  have feed : "\n".toList = ['\n'] := rfl
  rw [parse, ofText, String.toList_intercalate, feed, Text.lines_joined _ whole, List.map_map,
    List.filterMap_map]
  exact (List.filterMap_congr fun d member => (render_read d (formed d member)).2).trans
    List.filterMap_some

theorem parsed_well_formed (text : String) (d : Diagnostic) (parsed : d ∈ parse text)
    (placed : d.line.isSome = true) : d.WellFormed := by
  obtain ⟨line, member, read⟩ := List.mem_filterMap.mp parsed
  exact read_well_formed line (Text.line_bare _ line member) d read placed

theorem parse_render_positioned :
    (∀ ds : List Diagnostic, (∀ d ∈ ds, d.WellFormed) →
        parse (String.intercalate "\n" (ds.map render)) = ds) ∧
      (∀ text, ∀ d ∈ parse text, d.line.isSome = true → d.WellFormed) ∧
      ∀ text, parse (String.intercalate "\n"
          (((parse text).filter (·.line.isSome)).map render)) =
        (parse text).filter (·.line.isSome) := by
  refine ⟨parse_written, parsed_well_formed, ?_⟩
  intro text
  refine parse_written _ ?_
  intro d member
  obtain ⟨parsed, placed⟩ := List.mem_filter.mp member
  exact parsed_well_formed text d parsed placed

-- Numbers as large as they get, and messages that look like positions.
def lookalikes : List Diagnostic :=
  [⟨.error, some "a b.c", some 0, none, "error: x:1: y"⟩,
    ⟨.note, some "-", some (Text.wordRange - 1), some 0, " m"⟩]

theorem lookalikes_well_formed : ∀ d ∈ lookalikes, d.WellFormed := by
  simp only [lookalikes, List.mem_cons, List.not_mem_nil, or_false]
  rintro d (rfl | rfl)
  · refine ⟨⟨_, rfl, ⟨⟨'a', " b.c".toList, rfl, by decide⟩, by simp⟩, by decide⟩,
      ⟨0, rfl, by decide⟩, by simp, by decide, by decide, ?_⟩
    rintro c ⟨⟩
    rfl
  · refine ⟨⟨_, rfl, ⟨⟨'-', [], rfl, by decide⟩, by simp⟩, by decide⟩,
      ⟨Text.wordRange - 1, rfl, by decide⟩, ?_, by decide, by decide, ?_⟩
    · rintro c ⟨⟩
      decide
    · rintro c ⟨⟩
      rfl

theorem lookalikes_read_back :
    (∀ d ∈ lookalikes, d.WellFormed) ∧
      parse "a b.c:0: error: error: x:1: y\n-:18446744073709551615:0: note:  m" = lookalikes ∧
      ∀ d ∈ parse "in f:\nf:2: warning: w", d.line.isSome = true → d.WellFormed := by
  obtain ⟨written, formed, -⟩ := parse_render_positioned
  refine ⟨lookalikes_well_formed, ?_, formed "in f:\nf:2: warning: w"⟩
  exact written lookalikes lookalikes_well_formed

end Fragment.Diagnostic
