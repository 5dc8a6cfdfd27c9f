import Fragment.Source
import Fragment.Proofs.Text.Cut
import Fragment.Proofs.Text.Line
/-!
Places in a text: the line and the column of an octet, counted from the start of the text, lead back
to that octet, unless it is one of those that end its line.
-/
namespace Fragment

def lineNumber (text : Octets) (offset : Nat) : Nat := 1 + (text.take offset).count lineFeed

def columnNumber (text : Octets) (offset : Nat) : Nat :=
  1 + ((text.take offset).reverse.takeWhile (· ≠ lineFeed)).length

def carriageReturn : UInt8 := 13

-- A line feed or the end of the text is there, or a run of carriage returns that leads up to it.
def EndsLine (text : Octets) (offset : Nat) : Prop :=
  ∃ count rest, text.drop offset = List.replicate count carriageReturn ++ rest ∧
    (rest = [] ∨ rest.head? = some lineFeed)

theorem ends_line_iff (text : Octets) (offset : Nat) :
    EndsLine text offset ↔
      ∀ o, ((text.drop offset).dropWhile (· == carriageReturn)).head? = some o → o = lineFeed := by
  constructor
  · rintro ⟨count, rest, shape, final⟩ o first
    have returns : ∀ c ∈ List.replicate count carriageReturn, (c == carriageReturn) = true := by
      intro c member
      simpa using List.eq_of_mem_replicate member
    rw [shape, List.dropWhile_append_of_pos returns] at first
    rcases final with rfl | fed
    · contradiction
    · obtain ⟨behind, rfl⟩ := List.head?_eq_some_iff.mp fed
      exact (Option.some.inj first).symm
  · intro final
    refine ⟨((text.drop offset).takeWhile (· == carriageReturn)).length,
      (text.drop offset).dropWhile (· == carriageReturn), ?_, ?_⟩
    · have returns : ∀ c ∈ (text.drop offset).takeWhile (· == carriageReturn),
          c = carriageReturn := by
        intro c member
        simpa using List.all_eq_true.mp List.all_takeWhile c member
      rw [← List.eq_replicate_iff.mpr ⟨rfl, returns⟩, List.takeWhile_append_dropWhile]
    · cases rest : (text.drop offset).dropWhile (· == carriageReturn) with
      | nil => exact .inl rfl
      | cons o behind => exact .inr (congrArg some (final o (by rw [rest]; rfl)))

instance (text : Octets) (offset : Nat) : Decidable (EndsLine text offset) :=
  decidable_of_iff
    (((text.drop offset).dropWhile (· == carriageReturn)).head?.all (· == lineFeed) = true)
    (by
      rw [ends_line_iff]
      cases ((text.drop offset).dropWhile (· == carriageReturn)).head? <;> simp)

theorem place_bounds (text : Octets) (offset : Nat) :
    lineNumber text offset ≤ offset + 1 ∧ columnNumber text offset ≤ offset + 1 := by
  have feeds := List.count_le_length (a := lineFeed) (l := text.take offset)
  have run := (List.takeWhile_sublist (fun o => decide (o ≠ lineFeed))
    (l := (text.take offset).reverse)).length_le
  rw [List.length_reverse] at run
  have size := List.length_take_le offset text
  rw [lineNumber, columnNumber]
  omega

theorem ends_line_behind (text : Octets) (offset : Nat) (behind : text.length ≤ offset) :
    EndsLine text offset :=
  ⟨0, [], by simpa using behind, .inl rfl⟩

theorem line_goes_on (text : Octets) (offset : Nat) (visible : ¬ EndsLine text offset) :
    ∃ before o behind, (text.drop offset).takeWhile (· ≠ lineFeed) = before ++ o :: behind ∧
      isLineEnd o = false := by
  by_cases all : ∀ o ∈ (text.drop offset).takeWhile (· ≠ lineFeed), o = carriageReturn
  · have stop : EndsLine text offset := by
      refine ⟨((text.drop offset).takeWhile (· ≠ lineFeed)).length,
        (text.drop offset).dropWhile (· ≠ lineFeed), ?_, ?_⟩
      · rw [← List.eq_replicate_iff.mpr ⟨rfl, all⟩, List.takeWhile_append_dropWhile]
      · rcases Text.from_separator lineFeed (text.drop offset) with left | ⟨rest, left⟩
        · exact .inl left
        · exact .inr (by rw [left]; rfl)
    exact absurd stop visible
  · simp only [Classical.not_forall] at all
    obtain ⟨o, member, other⟩ := all
    obtain ⟨before, behind, shape⟩ := List.append_of_mem member
    have bare : o ≠ lineFeed := by
      rintro rfl
      exact Text.before_separator lineFeed (text.drop offset) member
    exact ⟨before, o, behind, shape, by simpa [isLineEnd] using ⟨bare, other⟩⟩

theorem line_content_past (front back : Octets) (o : UInt8) (solid : isLineEnd o = false) :
    front.length < (lineContent (front ++ o :: back)).length := by
  rw [lineContent, List.reverse_append, List.reverse_cons, List.append_assoc,
    List.singleton_append, Text.drop_while_solid isLineEnd back.reverse front.reverse o solid]
  simp

theorem line_at_place (text : Octets) (offset : Nat) (inside : offset < text.length) :
    ∃ run, columnNumber text offset = 1 + run.length ∧ run.length ≤ offset ∧
      lineAt? text (lineNumber text offset) = some (offset - run.length,
        run ++ ((text.drop offset).takeWhile (· ≠ lineFeed) ++
          ((text.drop offset).dropWhile (· ≠ lineFeed)).take 1)) := by
  obtain ⟨finished, run, bare, last, before⟩ := Text.text_runs lineFeed (text.take offset)
  have whole : text = (finished.map (· ++ [lineFeed])).flatten ++ (run ++ text.drop offset) := by
    rw [← List.append_assoc, ← before, List.take_append_drop]
  have width : (finished.map (· ++ [lineFeed])).flatten.length + run.length = offset := by
    have size := congrArg List.length before
    rw [List.length_take, List.length_append] at size
    omega
  have something : run ++ text.drop offset ≠ [] := by
    intro nothing
    have size := congrArg List.length nothing
    rw [List.length_append, List.length_drop, List.length_nil] at size
    omega
  have solid : ∀ o ∈ run, decide (o ≠ lineFeed) = true := by
    intro o member
    have other : o ≠ lineFeed := fun same => last (same ▸ member)
    simpa using other
  obtain ⟨more, first⟩ := Text.pieces_first lineFeed (run ++ text.drop offset) something
  rw [List.takeWhile_append_of_pos solid, List.dropWhile_append_of_pos solid,
    List.append_assoc] at first
  have cut := Text.pieces_runs lineFeed finished (run ++ text.drop offset) bare
  rw [← whole, first] at cut
  refine ⟨run, ?_, by omega, ?_⟩
  · rw [columnNumber, before, Text.last_run lineFeed finished run last, List.length_reverse]
  · rw [lineNumber, before, Text.count_runs lineFeed finished run bare last, Nat.add_comm, lineAt?]
    have size : (finished.map (· ++ [lineFeed])).length = finished.length := List.length_map _
    have start : (finished.map (· ++ [lineFeed])).flatten.length = offset - run.length := by
      omega
    simp only [cut]
    rw [List.getElem?_append_right (by omega), List.take_left' size, size, Nat.sub_self, start]
    rfl

theorem line_of_place (text : Octets) (offset : Nat) (visible : ¬ EndsLine text offset) :
    ∃ start piece, lineAt? text (lineNumber text offset) = some (start, piece) ∧
      start + (columnNumber text offset - 1) = offset ∧
      piece[columnNumber text offset - 1]? = text[offset]? := by
  have inside : offset < text.length :=
    Nat.lt_of_not_le fun behind => visible (ends_line_behind text offset behind)
  obtain ⟨run, column, short, found⟩ := line_at_place text offset inside
  obtain ⟨before, o, behind, goes, -⟩ := line_goes_on text offset visible
  refine ⟨_, _, found, by omega, ?_⟩
  have whole : text.drop offset =
      (before ++ o :: behind) ++ (text.drop offset).dropWhile (· ≠ lineFeed) := by
    rw [← goes, List.takeWhile_append_dropWhile]
  rw [column, Nat.add_sub_cancel_left, List.getElem?_append_right (Nat.le_refl _), Nat.sub_self,
    ← List.head?_eq_getElem?, ← List.head?_drop, goes, whole]
  cases before with
  | nil => rfl
  | cons c more => rfl

theorem span_of_place (text : Octets) (offset : Nat) (visible : ¬ EndsLine text offset) :
    spanOf text (lineNumber text offset) (some (columnNumber text offset)) = some ⟨offset, 1⟩ := by
  have inside : offset < text.length :=
    Nat.lt_of_not_le fun behind => visible (ends_line_behind text offset behind)
  obtain ⟨run, column, short, found⟩ := line_at_place text offset inside
  obtain ⟨before, o, behind, goes, solid⟩ := line_goes_on text offset visible
  have long := line_content_past (run ++ before)
    (behind ++ ((text.drop offset).dropWhile (· ≠ lineFeed)).take 1) o solid
  have piece : run ++ ((text.drop offset).takeWhile (· ≠ lineFeed) ++
      ((text.drop offset).dropWhile (· ≠ lineFeed)).take 1) =
      (run ++ before) ++ o :: (behind ++ ((text.drop offset).dropWhile (· ≠ lineFeed)).take 1) := by
    rw [goes]
    simp
  rw [← piece, List.length_append] at long
  rw [spanOf, found, Option.map_some, column, spanWithin]
  simp only [Option.some.injEq, Span.mk.injEq]
  omega

end Fragment
