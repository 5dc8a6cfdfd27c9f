import Fragment.Text.Line
/-!
Texts cut into pieces and lines: the first piece ends at the first separator, so texts that are
joined by line feeds come apart into what was joined.
-/
namespace Fragment.Text

section pieces

variable {α : Type} [DecidableEq α]

theorem pieces_run (separator : α) (run rest : List α) (bare : separator ∉ run) :
    pieces separator (run ++ separator :: rest) =
      (run ++ [separator]) :: pieces separator rest := by
  induction run with
  | nil => simp [pieces]
  | cons c run ih =>
    have other : c ≠ separator := fun same => bare (by simp [same])
    have tail := ih fun member => bare (List.mem_cons_of_mem c member)
    rw [List.cons_append, pieces, if_neg other, tail]
    rfl

theorem pieces_last (separator : α) (run : List α) (bare : separator ∉ run)
    (something : run ≠ []) : pieces separator run = [run] := by
  induction run with
  | nil => contradiction
  | cons c run ih =>
    have other : c ≠ separator := fun same => bare (by simp [same])
    rw [pieces, if_neg other]
    cases run with
    | nil => rfl
    | cons d more => rw [ih (fun member => bare (List.mem_cons_of_mem c member)) (by simp)]

theorem piece_shape (separator : α) (text piece : List α) (member : piece ∈ pieces separator text) :
    ∃ run, separator ∉ run ∧ (piece = run ∨ piece = run ++ [separator]) := by
  induction text generalizing piece with
  | nil => contradiction
  | cons c rest ih =>
    unfold pieces at member
    split at member
    · rename_i same
      subst same
      rcases List.mem_cons.mp member with rfl | later
      · exact ⟨[], by simp, .inr rfl⟩
      · exact ih piece later
    · rename_i other
      split at member
      · obtain rfl := List.mem_singleton.mp member
        exact ⟨[c], by simpa using Ne.symm other, .inl rfl⟩
      · rename_i first more cut
        rcases List.mem_cons.mp member with rfl | later
        · obtain ⟨run, bare, shape⟩ := ih first (by simp [cut])
          refine ⟨c :: run, ?_, ?_⟩
          · simpa using ⟨Ne.symm other, bare⟩
          · rcases shape with rfl | rfl
            · exact .inl rfl
            · exact .inr rfl
        · exact ih piece (by simp [cut, later])

theorem text_runs (separator : α) (text : List α) :
    ∃ (finished : List (List α)) (run : List α),
      (∀ piece ∈ finished, separator ∉ piece) ∧ separator ∉ run ∧
        text = (finished.map (· ++ [separator])).flatten ++ run := by
  induction text with
  | nil => exact ⟨[], [], by simp, by simp, rfl⟩
  | cons c rest ih =>
    obtain ⟨finished, run, bare, last, rfl⟩ := ih
    by_cases same : c = separator
    · exact ⟨[] :: finished, run, by simpa using bare, last, by simp [same]⟩
    · cases finished with
      | nil => exact ⟨[], c :: run, by simp, by simpa using ⟨Ne.symm same, last⟩, rfl⟩
      | cons piece more =>
        refine ⟨(c :: piece) :: more, run, ?_, last, by simp⟩
        simpa [Ne.symm same] using bare

theorem pieces_runs (separator : α) (finished : List (List α)) (rest : List α)
    (bare : ∀ piece ∈ finished, separator ∉ piece) :
    pieces separator ((finished.map (· ++ [separator])).flatten ++ rest) =
      finished.map (· ++ [separator]) ++ pieces separator rest := by
  induction finished with
  | nil => rfl
  | cons piece more ih =>
    have tail := ih fun other member => bare other (List.mem_cons_of_mem piece member)
    rw [List.map_cons, List.flatten_cons, List.append_assoc, List.append_assoc,
      List.singleton_append, pieces_run separator piece _ (bare piece (by simp)), tail]
    rfl

theorem count_runs (separator : α) (finished : List (List α)) (run : List α)
    (bare : ∀ piece ∈ finished, separator ∉ piece) (last : separator ∉ run) :
    ((finished.map (· ++ [separator])).flatten ++ run).count separator = finished.length := by
  induction finished with
  | nil => simpa [List.count_eq_zero] using last
  | cons piece more ih =>
    have tail := ih fun other member => bare other (List.mem_cons_of_mem piece member)
    have none : piece.count separator = 0 := List.count_eq_zero.mpr (bare piece (by simp))
    simp only [List.map_cons, List.flatten_cons, List.append_assoc, List.count_append, none] at tail ⊢
    simp [tail]
    omega

theorem last_run (separator : α) (finished : List (List α)) (run : List α)
    (last : separator ∉ run) :
    ((finished.map (· ++ [separator])).flatten ++ run).reverse.takeWhile (· ≠ separator) =
      run.reverse := by
  have solid : ∀ c ∈ run.reverse, decide (c ≠ separator) = true := by
    intro c member
    have other : c ≠ separator := fun same => last (same ▸ List.mem_reverse.mp member)
    simpa using other
  rw [List.reverse_append, List.takeWhile_append_of_pos solid]
  rcases List.eq_nil_or_concat finished with rfl | ⟨front, piece, rfl⟩
  · simp
  · simp

theorem before_separator (separator : α) (text : List α) :
    separator ∉ text.takeWhile (· ≠ separator) := by
  intro member
  have met := List.all_eq_true.mp List.all_takeWhile separator member
  simp at met

theorem from_separator (separator : α) (text : List α) :
    text.dropWhile (· ≠ separator) = [] ∨
      ∃ rest, text.dropWhile (· ≠ separator) = separator :: rest := by
  have stop := List.head?_dropWhile_not (fun c => decide (c ≠ separator)) text
  cases left : text.dropWhile (· ≠ separator) with
  | nil => exact .inl rfl
  | cons c rest =>
    rw [left] at stop
    obtain rfl : c = separator := by simpa using stop
    exact .inr ⟨rest, rfl⟩

theorem pieces_first (separator : α) (text : List α) (something : text ≠ []) :
    ∃ more, pieces separator text = (text.takeWhile (· ≠ separator) ++
      (text.dropWhile (· ≠ separator)).take 1) :: more := by
  have bare := before_separator separator text
  have whole := List.takeWhile_append_dropWhile (p := fun c => decide (c ≠ separator)) (l := text)
  rcases from_separator separator text with left | ⟨rest, left⟩
  · rw [left, List.append_nil] at whole
    refine ⟨[], ?_⟩
    rw [left, List.take_nil, List.append_nil, whole]
    exact pieces_last separator text (whole ▸ bare) something
  · rw [left] at whole ⊢
    refine ⟨pieces separator rest, ?_⟩
    rw [List.take_succ_cons, List.take_zero, ← pieces_run separator _ rest bare, whole]

end pieces

theorem drop_last_absent (c : Char) (text : List Char) (other : text.getLast? ≠ some c) :
    dropLast? c text = none := if_neg other

theorem drop_last_concat (c : Char) (text : List Char) : dropLast? c (text ++ [c]) = some text := by
  simp [dropLast?]

theorem not_mem_last (c : Char) (text : List Char) (absent : c ∉ text) :
    text.getLast? ≠ some c :=
  fun last => absent (List.mem_of_getLast? last)

-- A line that is the same after it was joined to others and cut off again.
structure IsLine (line : List Char) : Prop where
  something : line ≠ []
  bare : '\n' ∉ line
  ended : line.getLast? ≠ some '\r'

theorem lines_cons (line rest : List Char) (whole : IsLine line) :
    lines (line ++ '\n' :: rest) = line :: lines rest := by
  rw [lines, pieces_run '\n' line rest whole.bare, List.map_cons, lines, dropTerminator,
    drop_last_concat]
  simp [drop_last_absent '\r' line whole.ended]

theorem lines_last (line : List Char) (whole : IsLine line) : lines line = [line] := by
  rw [lines, pieces_last '\n' line whole.bare whole.something, List.map_singleton, dropTerminator,
    drop_last_absent '\n' line (not_mem_last '\n' line whole.bare)]

theorem lines_joined (all : List (List Char)) (whole : ∀ line ∈ all, IsLine line) :
    lines (List.intercalate ['\n'] all) = all := by
  induction all with
  | nil => rfl
  | cons line more ih =>
    cases more with
    | nil =>
      rw [List.intercalate_singleton]
      exact lines_last line (whole line (by simp))
    | cons next rest =>
      rw [List.intercalate_cons_cons, List.append_assoc, List.singleton_append,
        lines_cons line _ (whole line (by simp)),
        ih fun l member => whole l (List.mem_cons_of_mem line member)]

theorem line_bare (text line : List Char) (member : line ∈ lines text) : '\n' ∉ line := by
  obtain ⟨piece, cut, rfl⟩ := List.mem_map.mp member
  obtain ⟨run, bare, rfl | rfl⟩ := piece_shape '\n' text piece cut
  · rwa [dropTerminator, drop_last_absent '\n' piece (not_mem_last '\n' piece bare)]
  · rw [dropTerminator, drop_last_concat]
    dsimp only
    unfold dropLast?
    split
    · exact fun inside => bare (List.dropLast_subset run inside)
    · exact bare

end Fragment.Text
