import Fragment.Diagnostic.Report
import Fragment.Proofs.Source.Line
import Fragment.Text.Digit
/-!
Spans and the lines they are in. What is marked for a line and a column never leaves the content of
that line, whatever the column, and a place that does not end its line is marked by its own line and
column. The search that a machine makes, in words of limited range, comes to the same span: no sum
leaves the range of a word, and nothing is taken from less.
-/
namespace Fragment

def Span.stop (span : Span) : Nat := span.offset + span.length

structure Span.Within (span : Span) (text : Octets) : Prop where
  inside : span.stop ≤ text.length
  bare : lineFeed ∉ (text.drop span.offset).take span.length

-- The span that a column of the line has, and the line without one.
structure Line.Marks (l : Line) (column : Option Nat) (span : Span) : Prop where
  above : l.start ≤ span.offset
  below : span.stop ≤ l.stop
  all : column = none → span = ⟨l.start, l.content.length⟩
  hit : ∀ c ∈ column, max c 1 ≤ l.content.length → span = ⟨l.start + (max c 1 - 1), 1⟩
  miss : ∀ c ∈ column, l.content.length < max c 1 → span = ⟨l.stop, 0⟩

theorem within_marks (l : Line) (column : Option Nat) :
    l.Marks column (spanWithin l.start l.content column) := by
  cases column with
  | none =>
    exact ⟨Nat.le_refl _, Nat.le_refl _, fun _ => rfl, nofun, nofun⟩
  | some column =>
    refine ⟨?_, ?_, nofun, ?_, ?_⟩
    · exact Nat.le_add_right _ _
    · simp only [Span.stop, spanWithin, Line.start, Line.stop]
      omega
    · intro c same short
      obtain rfl := Option.some.inj same
      simp only [spanWithin, Span.mk.injEq]
      omega
    · intro c same long
      obtain rfl := Option.some.inj same
      simp only [spanWithin, Span.mk.injEq, Line.start, Line.stop]
      omega

theorem span_of_iff (text : Octets) (number : Nat) (column : Option Nat) (span : Span) :
    spanOf text number column = some span ↔
      ∃ l : Line, l.At text number ∧ span = spanWithin l.start l.content column := by
  rw [spanOf, Option.map_eq_some_iff]
  constructor
  · rintro ⟨⟨start, piece⟩, found, rfl⟩
    obtain ⟨l, placed, rfl, rfl⟩ := (line_at_iff text number start piece).mp found
    exact ⟨l, placed, by rw [line_content_found l text number placed]⟩
  · rintro ⟨l, placed, rfl⟩
    exact ⟨_, line_at_found l text number placed, by rw [line_content_found l text number placed]⟩

theorem span_of_some_iff (text : Octets) (number : Nat) (column : Option Nat) :
    (spanOf text number column).isSome = true ↔ 1 ≤ number ∧ number ≤ lineCount text := by
  rw [spanOf, Option.isSome_map, line_at_some_iff]

theorem marked_within (l : Line) (text : Octets) (number : Nat) (placed : l.At text number)
    (column : Option Nat) (span : Span) (marked : l.Marks column span) : span.Within text := by
  obtain ⟨more, offset⟩ := Nat.exists_eq_add_of_le marked.above
  have size := congrArg List.length placed.whole
  have below := marked.below
  simp only [List.length_append] at size
  simp only [Span.stop, Line.start, Line.stop] at below offset
  have short : more + span.length ≤ l.content.length := by omega
  refine ⟨by rw [Span.stop]; omega, fun fed => placed.bare ?_⟩
  have cut : (text.drop span.offset).take span.length =
      (l.content.drop more).take span.length := by
    rw [placed.whole, offset, List.drop_append, List.drop_eq_nil_of_le (Nat.le_add_right _ _),
      List.nil_append, Nat.add_sub_cancel_left, List.drop_append_of_le_length (by omega),
      List.take_append_of_le_length (by rw [List.length_drop]; omega)]
  rw [cut] at fed
  exact List.mem_of_mem_drop (List.mem_of_mem_take fed)

-- Sums and differences of words: there is no result where it would leave the range of a word.
namespace Word

def sum? (a b : Nat) : Option Nat := if a + b < Text.wordRange then some (a + b) else none

def difference? (a b : Nat) : Option Nat := if b ≤ a then some (a - b) else none

def spanWithin? (start : Nat) (content : Octets) : Option Nat → Option Span
  | some column => do
    let skipped := min (column - 1) content.length
    let offset ← sum? start skipped
    let left ← difference? content.length skipped
    return ⟨offset, min 1 left⟩
  | none => some ⟨start, content.length⟩

-- Goes on behind the lines that were passed, which have `offset` octets.
def search? (line : Nat) (column : Option Nat) (passed offset : Nat) :
    List Octets → Option (Option Span)
  | [] => some none
  | piece :: rest => do
    let number ← sum? passed 1
    if number = line then
      let span ← spanWithin? offset (lineContent piece) column
      return some span
    else
      let offset ← sum? offset piece.length
      search? line column number offset rest

theorem sum_fits (a b : Nat) (fits : a + b < Text.wordRange) : sum? a b = some (a + b) := if_pos fits

theorem span_within_fits (start : Nat) (content : Octets) (column : Option Nat)
    (fits : start + content.length < Text.wordRange) :
    spanWithin? start content column = some (spanWithin start content column) := by
  cases column with
  | none => rfl
  | some column =>
    have short : min (column - 1) content.length ≤ content.length := Nat.min_le_right _ _
    have sum := sum_fits start (min (column - 1) content.length) (by omega)
    have difference : difference? content.length (min (column - 1) content.length) =
        some (content.length - min (column - 1) content.length) := if_pos short
    simp only [spanWithin?, sum, difference]
    rfl

theorem line_content_short (piece : Octets) : (lineContent piece).length ≤ piece.length := by
  have kept := (List.dropWhile_sublist isLineEnd (l := piece.reverse)).length_le
  rw [List.length_reverse] at kept
  rwa [lineContent, List.length_reverse]

theorem search_told (line : Nat) (column : Option Nat) (pieces : List Octets) (passed offset : Nat)
    (few : passed + pieces.length < Text.wordRange)
    (fits : offset + pieces.flatten.length < Text.wordRange) :
    search? line column passed offset pieces = some (match line - passed with
      | 0 => none
      | n + 1 => pieces[n]?.map fun piece =>
        spanWithin (offset + (pieces.take n).flatten.length) (lineContent piece) column) := by
  induction pieces generalizing passed offset with
  | nil => cases line - passed <;> rfl
  | cons piece rest ih =>
    rw [List.length_cons] at few
    rw [List.flatten_cons, List.length_append] at fits
    have next := sum_fits passed 1 (by omega)
    by_cases reached : passed + 1 = line
    · have short := line_content_short piece
      have span := span_within_fits offset (lineContent piece) column (by omega)
      have distance : line - passed = 0 + 1 := by omega
      simp only [search?, next, Option.bind_eq_bind, Option.bind_some, if_pos reached, span, distance]
      rfl
    · have moved := sum_fits offset piece.length (by omega)
      have later := ih (passed + 1) (offset + piece.length) (by omega) (by omega)
      simp only [search?, next, Option.bind_eq_bind, Option.bind_some, if_neg reached, moved, later]
      cases distance : line - (passed + 1) with
      | zero =>
        have behind : line - passed = 0 := by omega
        rw [behind]
      | succ n =>
        have further : line - passed = n + 1 + 1 := by omega
        rw [further]
        simp only [List.getElem?_cons_succ, List.take_succ_cons, List.flatten_cons,
          List.length_append, Nat.add_assoc]

theorem pieces_few {α : Type} [DecidableEq α] (separator : α) (text : List α) :
    (Text.pieces separator text).length ≤ text.length := by
  induction text with
  | nil => exact Nat.le_refl 0
  | cons c rest ih =>
    unfold Text.pieces
    split
    · exact Nat.succ_le_succ ih
    · split
      · simp
      · rename_i cut
        rw [cut] at ih
        exact Nat.le_succ_of_le ih

theorem search_fits (text : Octets) (line : Nat) (column : Option Nat)
    (fits : text.length < Text.wordRange) :
    search? line column 0 0 (Text.pieces lineFeed text) = some (spanOf text line column) := by
  have few := pieces_few lineFeed text
  rw [search_told line column _ 0 0 (by omega) (by rw [Text.pieces_flatten]; omega), spanOf]
  cases line with
  | zero => rfl
  | succ n => simp [lineAt?, Function.comp_def]

end Word

theorem report_label (d : Diagnostic) (unit : SourceUnit) (label : String × Span)
    (attached : label ∈ (d.report unit).labels) :
    ∃ number, d.line = some number ∧ unit.span? number d.column = some label.2 := by
  unfold Report.labels at attached
  split at attached
  · rename_i span marked
    obtain rfl := List.mem_singleton.mp attached
    simp only [Diagnostic.report] at marked
    cases line : d.line with
    | none => simp [line] at marked
    | some number =>
      simp only [line, Option.ite_none_right_eq_some] at marked
      exact ⟨number, rfl, marked.2⟩
  · contradiction

theorem span_stays_in_line (unit : SourceUnit) (line : Nat) (column : Option Nat) :
    ((unit.span? line column).isSome = true ↔ 1 ≤ line ∧ line ≤ lineCount unit.octets) ∧
    (∀ span, unit.span? line column = some span →
      ∃ l : Line, l.At unit.octets line ∧ l.Marks column span ∧ span.Within unit.octets) ∧
    (unit.octets.length < Text.wordRange →
      Word.search? line column 0 0 (Text.pieces lineFeed unit.octets) =
        some (unit.span? line column)) ∧
    ∀ d : Diagnostic, ∀ label ∈ (d.report unit).labels,
      ∃ number, d.line = some number ∧ ∃ l : Line, l.At unit.octets number ∧
        l.Marks d.column label.2 ∧ label.2.Within unit.octets := by
  have marked (number : Nat) (column : Option Nat) (span : Span)
      (found : unit.span? number column = some span) :
      ∃ l : Line, l.At unit.octets number ∧ l.Marks column span ∧ span.Within unit.octets := by
    obtain ⟨l, placed, rfl⟩ := (span_of_iff unit.octets number column span).mp found
    have marks := within_marks l column
    exact ⟨l, placed, marks, marked_within l unit.octets number placed column _ marks⟩
  refine ⟨span_of_some_iff unit.octets line column, marked line column,
    Word.search_fits unit.octets line column, fun d label attached => ?_⟩
  obtain ⟨number, known, found⟩ := report_label d unit label attached
  exact ⟨number, known, marked number d.column label.2 found⟩

-- Its last line has nothing but carriage returns.
def SourceUnit.returning : SourceUnit := ⟨"Main", "x\r\r\n\r\r"⟩

theorem empty_content_marked :
    SourceUnit.returning.span? 2 (some (Text.wordRange - 1)) = some ⟨4, 0⟩ ∧
    (∃ l : Line, l.At SourceUnit.returning.octets 2 ∧ l.Marks (some (Text.wordRange - 1)) ⟨4, 0⟩ ∧
      Span.Within ⟨4, 0⟩ SourceUnit.returning.octets) ∧
    Word.search? 2 (some (Text.wordRange - 1)) 0 0
        (Text.pieces lineFeed SourceUnit.returning.octets) = some (some ⟨4, 0⟩) ∧
    ∃ l : Line, l.At SourceUnit.returning.octets 1 ∧ l.Marks (some 0) ⟨0, 1⟩ := by
  have found : SourceUnit.returning.span? 2 (some (Text.wordRange - 1)) = some ⟨4, 0⟩ := by decide
  obtain ⟨-, kept, searched, labelled⟩ :=
    span_stays_in_line SourceUnit.returning 2 (some (Text.wordRange - 1))
  have attached : ("error", ⟨0, 1⟩) ∈
      (Diagnostic.report ⟨.error, some "Main.c", some 1, some 0, "m"⟩ .returning).labels := by
    decide
  obtain ⟨number, same, l, placed, marks, -⟩ := labelled _ _ attached
  obtain rfl := Option.some.inj same
  exact ⟨found, kept _ found, (searched (by decide)).trans (congrArg some found), l, placed, marks⟩

theorem place_marked_back (unit : SourceUnit) (offset : Nat)
    (visible : ¬ EndsLine unit.octets offset) :
    let line := lineNumber unit.octets offset
    unit.span? line (some (columnNumber unit.octets offset)) = some ⟨offset, 1⟩ ∧
    ∃ l : Line, l.At unit.octets line ∧ unit.span? line none = some ⟨l.start, l.content.length⟩ ∧
      l.start ≤ offset ∧ offset < l.stop := by
  intro line
  have marked := span_of_place unit.octets offset visible
  obtain ⟨l, placed, same⟩ := (span_of_iff unit.octets line _ _).mp marked
  have marks := within_marks l (some (columnNumber unit.octets offset))
  rw [← same] at marks
  exact ⟨marked, l, placed, (span_of_iff unit.octets line none _).mpr ⟨l, placed, rfl⟩,
    marks.above, marks.below⟩

-- A carriage return inside a line is marked as any other octet.
def SourceUnit.returned : SourceUnit := ⟨"Main", "\né\rz\r"⟩

theorem lone_return_marked_back :
    ¬ EndsLine SourceUnit.returned.octets 3 ∧
    SourceUnit.returned.span? 2 (some 3) = some ⟨3, 1⟩ ∧
    ∃ l : Line, l.At SourceUnit.returned.octets 2 ∧
      SourceUnit.returned.span? 2 none = some ⟨l.start, l.content.length⟩ ∧
      l.start ≤ 3 ∧ 3 < l.stop := by
  have visible : ¬ EndsLine SourceUnit.returned.octets 3 := by decide
  exact ⟨visible, place_marked_back SourceUnit.returned 3 visible⟩

end Fragment
