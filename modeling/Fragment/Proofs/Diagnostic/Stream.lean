import Fragment.Diagnostic.Stream
import Fragment.Proofs.Diagnostic.Grammar
import Fragment.Proofs.Text.Decode
import Fragment.Proofs.Text.Line
import Fragment.Source
/-!
Streams of diagnostics line by line, down to the octets. Neither decoding nor cutting into lines
carries anything across the end of a line, so each line says what it says alone, and lines that can
say nothing may stand anywhere.
-/
namespace Fragment.Diagnostic

theorem of_line_trim (line line' : List Char) (same : Text.trimEnd line = Text.trimEnd line') :
    ofLine? line = ofLine? line' := by
  rw [ofLine?, ofLine?, same]

theorem trim_end_return (line : List Char) : Text.trimEnd (line ++ ['\r']) = Text.trimEnd line := by
  have blank : Text.isBlank '\r' = true := by decide
  simp [Text.trimEnd, blank]

-- The end of a line is white space, so taking it off changes nothing for the reader.
theorem of_line_ended (run : List Char) (bare : '\n' ∉ run) :
    ofLine? (Text.dropTerminator (run ++ ['\n'])) = ofLine? run := by
  rw [Text.dropTerminator, Text.drop_last_concat]
  dsimp only
  by_cases returned : run.getLast? = some '\r'
  · obtain ⟨line, rfl⟩ := List.getLast?_eq_some_iff.mp returned
    rw [Text.drop_last_concat]
    exact of_line_trim _ _ (trim_end_return line).symm
  · rw [Text.drop_last_absent '\r' run returned]
    rfl

theorem of_text_run (run : List Char) (bare : '\n' ∉ run) : ofText run = (ofLine? run).toList := by
  by_cases empty : run = []
  · subst empty
    rfl
  · rw [ofText, Text.lines, Text.pieces_last '\n' run bare empty, List.map_singleton,
      Text.dropTerminator, Text.drop_last_absent '\n' run (Text.not_mem_last '\n' run bare)]
    dsimp only
    rw [List.filterMap_cons, List.filterMap_nil]
    cases ofLine? run with
    | none => rfl
    | some said => rfl

theorem of_text_ended (finished : List (List Char)) (bare : ∀ piece ∈ finished, '\n' ∉ piece) :
    ((finished.map (· ++ ['\n'])).map Text.dropTerminator).filterMap ofLine? =
      finished.filterMap ofLine? := by
  induction finished with
  | nil => rfl
  | cons piece rest ih =>
    rw [List.map_cons, List.map_cons, List.filterMap_cons, List.filterMap_cons,
      of_line_ended piece (bare piece (by simp)), ih fun other member => bare other (by simp [member])]

theorem of_text_runs (finished : List (List Char)) (run : List Char)
    (bare : ∀ piece ∈ finished, '\n' ∉ piece) (last : '\n' ∉ run) :
    ofText ((finished.map (· ++ ['\n'])).flatten ++ run) =
      finished.filterMap ofLine? ++ (ofLine? run).toList := by
  rw [ofText, Text.lines, Text.pieces_runs '\n' finished run bare, List.map_append,
    List.filterMap_append, ← Text.lines, ← ofText, of_text_run run last, of_text_ended finished bare]

theorem of_text_feed (above below : List Char) :
    ofText (above ++ '\n' :: below) = ofText above ++ ofText below := by
  obtain ⟨finished, run, bare, last, rfl⟩ := Text.text_runs '\n' above
  obtain ⟨finished', run', bare', last', rfl⟩ := Text.text_runs '\n' below
  have joined : ((finished.map (· ++ ['\n'])).flatten ++ run) ++
      '\n' :: ((finished'.map (· ++ ['\n'])).flatten ++ run') =
      (((finished ++ run :: finished').map (· ++ ['\n'])).flatten ++ run') := by
    simp
  have all : ∀ piece ∈ finished ++ run :: finished', '\n' ∉ piece := by
    intro piece member
    rcases List.mem_append.mp member with early | late
    · exact bare piece early
    · rcases List.mem_cons.mp late with rfl | later
      · exact last
      · exact bare' piece later
  rw [joined, of_text_runs _ run' all last', of_text_runs finished run bare last,
    of_text_runs finished' run' bare' last', List.filterMap_append, List.filterMap_cons]
  cases ofLine? run <;> simp

theorem of_text_return (text : List Char) : ofText (text ++ ['\r']) = ofText text := by
  obtain ⟨finished, run, bare, last, rfl⟩ := Text.text_runs '\n' text
  have last' : '\n' ∉ run ++ ['\r'] := by simpa using last
  rw [List.append_assoc, of_text_runs finished _ bare last', of_text_runs finished run bare last,
    of_line_trim _ _ (trim_end_return run)]

inductive LineBreak where
  | feed
  | returnFeed
deriving DecidableEq

def LineBreak.octets : LineBreak → Octets
  | .feed => [10]
  | .returnFeed => [13, 10]

theorem of_octets_break (above below : Octets) (ending : LineBreak) :
    ofOctets (above ++ ending.octets ++ below) = ofOctets above ++ ofOctets below := by
  have cut (front : Octets) :
      Utf8.lossyChars (front ++ 10 :: below) = Utf8.lossyChars front ++ '\n' :: Utf8.lossyChars below :=
    Utf8.lossy_cut front below '\n' (by decide)
  cases ending with
  | feed =>
    rw [LineBreak.octets, List.append_assoc, List.singleton_append, ofOctets, cut, of_text_feed]
    rfl
  | returnFeed =>
    have returned : Utf8.lossyChars (above ++ [13]) = Utf8.lossyChars above ++ ['\r'] :=
      Utf8.lossy_cut above [] '\r' (by decide)
    have split : above ++ LineBreak.octets .returnFeed ++ below = (above ++ [13]) ++ 10 :: below := by
      simp [LineBreak.octets]
    rw [split, ofOctets, cut, returned, of_text_feed, of_text_return]
    rfl

theorem form_begun (form : Form) (valid : form.Valid) :
    ∃ c more, form.text = c :: more ∧ Text.isBlank c = false := by
  have named (name rest : List Char) (valid : IsName name) :
      ∃ c more, name ++ rest = c :: more ∧ Text.isBlank c = false := by
    obtain ⟨something, solid⟩ := valid
    cases name with
    | nil => contradiction
    | cons c more => exact ⟨c, more ++ rest, rfl, (solid c (by simp)).2⟩
  cases form with
  | positioned file line column word severity message =>
    obtain ⟨⟨⟨c, more, rfl, solid⟩, -⟩, -⟩ := valid
    exact ⟨c, _, rfl, solid⟩
  | tool name word severity message => exact named name _ valid.1
  | sectioned file inside message => exact named file _ valid.1
  | linker name message =>
    cases name with
    | nil => exact ⟨':', _, rfl, by decide⟩
    | cons c more => exact ⟨c, _, rfl, valid.1 c (by simp)⟩

theorem form_spaced (form : Form) : ∃ front rest, form.text = front ++ ':' :: ' ' :: rest := by
  cases form with
  | positioned file line column word severity message =>
    exact ⟨file ++ ':' :: (line ++ ':' :: (columnText column ++ ' ' :: word.toList)), message,
      by simp [Form.text]⟩
  | tool name word severity message => exact ⟨name, _, rfl⟩
  | sectioned file inside message =>
    exact ⟨file ++ ':' :: '(' :: (inside ++ [')']), message, by simp [Form.text]⟩
  | linker name message => exact ⟨name, message, rfl⟩

theorem trim_end_start (line : List Char) : ∃ blank, line = Text.trimEnd line ++ blank := by
  refine ⟨(line.reverse.takeWhile Text.isBlank).reverse, ?_⟩
  rw [Text.trimEnd, ← List.reverse_append, List.takeWhile_append_dropWhile, List.reverse_reverse]

theorem of_line_none (line : List Char)
    (unwritten : ∀ form : Form, ¬ form.Writes (Text.trimEnd line)) : ofLine? line = none := by
  rw [of_line_kinds]
  exact (no_kind_iff _).mpr unwritten

theorem of_line_blank (c : Char) (more : List Char) (blank : Text.isBlank c = true) :
    ofLine? (c :: more) = none := by
  refine of_line_none _ fun form written => ?_
  obtain ⟨tail, whole⟩ := trim_end_start (c :: more)
  obtain ⟨d, rest, begun, solid⟩ := form_begun form written.1
  rw [written.2, begun] at whole
  rw [(List.cons.inj whole).1, solid] at blank
  contradiction

theorem of_line_unspaced (line : List Char)
    (unspaced : ∀ front rest, line ≠ front ++ ':' :: ' ' :: rest) : ofLine? line = none := by
  refine of_line_none _ fun form written => ?_
  obtain ⟨tail, whole⟩ := trim_end_start line
  obtain ⟨front, rest, spaced⟩ := form_spaced form
  rw [written.2, spaced] at whole
  exact unspaced front (rest ++ tail) (by simpa using whole)

structure Unremarkable (line : Octets) : Prop where
  bare : lineFeed ∉ line
  shape : (∃ c rest, Text.isBlank c = true ∧ line = Octets.ofString (String.singleton c) ++ rest) ∨
    ¬ Octets.ofString ": " <:+: line

theorem unremarkable_silent (line : Octets) (unremarkable : Unremarkable line) :
    ofOctets line = [] := by
  obtain ⟨bare, shape⟩ := unremarkable
  have unfed : '\n' ∉ Utf8.lossyChars line :=
    fun read => bare (Utf8.lossy_ascii line '\n' (by decide) read)
  rw [ofOctets, of_text_run _ unfed]
  rcases shape with ⟨c, rest, blank, rfl⟩ | unspaced
  · have read : Utf8.lossyChars (Octets.ofString (String.singleton c) ++ rest) =
        c :: Utf8.lossyChars rest := by
      rw [Octets.ofString, String.toList_singleton, Utf8.lossy_encoded]
      rfl
    rw [read, of_line_blank c _ blank]
    rfl
  · rw [of_line_unspaced _ fun front rest read => unspaced
      (Utf8.lossy_neighbours line ':' ' ' (by decide) (by decide) front rest read)]
    rfl

-- Lines one after another, with a line break between each and the next; that of the last is not
-- written.
def joined : List (Octets × LineBreak) → Octets
  | [] => []
  | [(line, _)] => line
  | (line, ending) :: next :: rest => line ++ ending.octets ++ joined (next :: rest)

theorem of_octets_joined (lines : List (Octets × LineBreak)) :
    ofOctets (joined lines) = lines.flatMap fun line => ofOctets line.1 := by
  induction lines with
  | nil => rfl
  | cons first rest ih =>
    cases rest with
    | nil => simp [joined]
    | cons next more =>
      simp only [joined, of_octets_break, ih, List.flatMap_cons]

-- The second lines are the first with unremarkable ones put between them, anywhere.
inductive Padded : List (Octets × LineBreak) → List (Octets × LineBreak) → Prop where
  | nil : Padded [] []
  | line {lines padded : List (Octets × LineBreak)} (line : Octets) (ending ending' : LineBreak)
      (rest : Padded lines padded) : Padded ((line, ending) :: lines) ((line, ending') :: padded)
  | extra {lines padded : List (Octets × LineBreak)} (line : Octets) (ending : LineBreak)
      (unremarkable : Unremarkable line) (rest : Padded lines padded) :
      Padded lines ((line, ending) :: padded)

theorem padded_silent (lines padded : List (Octets × LineBreak)) (wider : Padded lines padded) :
    (padded.flatMap fun line => ofOctets line.1) = lines.flatMap fun line => ofOctets line.1 := by
  induction wider with
  | nil => rfl
  | line line ending ending' rest ih => rw [List.flatMap_cons, List.flatMap_cons, ih]
  | extra line ending unremarkable rest ih =>
    rw [List.flatMap_cons, unremarkable_silent line unremarkable, List.nil_append, ih]

theorem octets_read_by_line :
    (∀ (above below : Octets) (ending : LineBreak),
      ofOctets (above ++ ending.octets ++ below) = ofOctets above ++ ofOctets below) ∧
    (∀ line : Octets, Unremarkable line → ofOctets line = []) ∧
    ∀ lines padded : List (Octets × LineBreak), Padded lines padded →
      ofOctets (joined padded) = ofOctets (joined lines) ∧
        ofOctets (joined padded) = lines.flatMap fun line => ofOctets line.1 := by
  refine ⟨of_octets_break, unremarkable_silent, fun lines padded wider => ?_⟩
  have same := padded_silent lines padded wider
  exact ⟨by rw [of_octets_joined, of_octets_joined, same], by rw [of_octets_joined, same]⟩

-- A caret under an excerpt, cut off inside a character of three octets.
def cutCaret : Octets := [32, 94, 226, 130]

def twoLines : List (Octets × LineBreak) :=
  [(Octets.ofString "a.c:1:2: error: b", .feed), (Octets.ofString "ld: c", .feed)]

def twoLinesApart : List (Octets × LineBreak) :=
  [(Octets.ofString "a.c:1:2: error: b", .returnFeed), (cutCaret, .feed),
    (Octets.ofString "ld: c", .feed)]

theorem cut_caret_silent :
    Unremarkable cutCaret ∧ Padded twoLines twoLinesApart ∧ ofOctets cutCaret = [] ∧
      ofOctets (joined twoLinesApart) =
        [⟨.error, some "a.c", some 1, some 2, "b"⟩, ⟨.error, none, none, none, "ld: c"⟩] := by
  have silent : Unremarkable cutCaret :=
    ⟨by decide, .inl ⟨' ', [94, 226, 130], by decide, by decide⟩⟩
  have apart : Padded twoLines twoLinesApart :=
    .line _ _ _ (.extra _ _ silent (.line _ _ _ .nil))
  refine ⟨silent, apart, octets_read_by_line.2.1 cutCaret silent, ?_⟩
  rw [(octets_read_by_line.2.2 twoLines twoLinesApart apart).2]
  decide +kernel

end Fragment.Diagnostic
