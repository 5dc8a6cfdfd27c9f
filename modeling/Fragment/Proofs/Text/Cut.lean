import Fragment.Text.Blank
/-!
Cutting texts: at the first character that ends a run, and before the white space at the end.
-/
namespace Fragment.Text

-- The stop cannot stand in the run, so the greedy cut and any other cut at it are the same.
theorem cut_iff (p : Char → Bool) (stop : Char) (unmet : p stop = false)
    (text run rest : List Char) :
    (text.takeWhile p = run ∧ text.dropWhile p = stop :: rest) ↔
      (∀ c ∈ run, p c = true) ∧ text = run ++ stop :: rest := by
  constructor
  · rintro ⟨rfl, left⟩
    refine ⟨List.all_eq_true.mp List.all_takeWhile, ?_⟩
    rw [← left, List.takeWhile_append_dropWhile]
  · rintro ⟨all, rfl⟩
    rw [List.takeWhile_append_of_pos all, List.dropWhile_append_of_pos all]
    simp [unmet]

theorem cut_unique (p : Char → Bool) (stop : Char) (unmet : p stop = false)
    (run other rest rest' : List Char) (all : ∀ c ∈ run, p c = true)
    (all' : ∀ c ∈ other, p c = true) (same : run ++ stop :: rest = other ++ stop :: rest') :
    run = other ∧ rest = rest' := by
  obtain ⟨taken, dropped⟩ := (cut_iff p stop unmet _ run rest).mpr ⟨all, rfl⟩
  obtain ⟨taken', dropped'⟩ := (cut_iff p stop unmet _ other rest').mpr ⟨all', same⟩
  exact ⟨taken.symm.trans taken', List.tail_eq_of_cons_eq (dropped.symm.trans dropped')⟩

theorem drop_while_solid {α : Type} (p : α → Bool) (front back : List α) (c : α)
    (unmet : p c = false) :
    (front ++ c :: back).dropWhile p = front.dropWhile p ++ c :: back := by
  induction front with
  | nil => simp [unmet]
  | cons first rest ih =>
    by_cases met : p first = true
    · simp [met, ih]
    · simp [met]

theorem trim_end_solid (front back : List Char) (c : Char) (solid : isBlank c = false) :
    trimEnd (front ++ c :: back) = front ++ c :: trimEnd back := by
  unfold trimEnd
  rw [List.reverse_append, List.reverse_cons, List.append_assoc, List.singleton_append,
    drop_while_solid isBlank back.reverse front.reverse c solid]
  simp

theorem trim_end_blank (text : List Char) (blank : ∀ c ∈ text, isBlank c = true) :
    trimEnd text = [] := by
  have all : ∀ c ∈ text.reverse, isBlank c = true :=
    fun c member => blank c (List.mem_reverse.mp member)
  have gone : (text.reverse ++ []).dropWhile isBlank = [] := List.dropWhile_append_of_pos all
  rw [List.append_nil] at gone
  rw [trimEnd, gone, List.reverse_nil]

theorem trim_end_front (front text : List Char) (solid : ¬ ∀ c ∈ text, isBlank c = true) :
    trimEnd (front ++ text) = front ++ trimEnd text := by
  obtain ⟨c, member, visible⟩ : ∃ c ∈ text, isBlank c = false := by
    simpa using solid
  obtain ⟨before, after, rfl⟩ := List.append_of_mem member
  rw [← List.append_assoc, trim_end_solid _ _ c visible, trim_end_solid _ _ c visible,
    List.append_assoc]

theorem trim_end_self (text : List Char)
    (ended : ∀ c, text.getLast? = some c → isBlank c = false) : trimEnd text = text := by
  rcases List.eq_nil_or_concat text with rfl | ⟨front, c, rfl⟩
  · rfl
  · rw [List.concat_eq_append] at ended ⊢
    exact trim_end_solid front [] c (ended c List.getLast?_concat)

theorem trim_end_last (text : List Char) (c : Char) (last : (trimEnd text).getLast? = some c) :
    isBlank c = false := by
  rw [trimEnd, List.getLast?_reverse] at last
  have first := List.head?_dropWhile_not isBlank text.reverse
  rw [last] at first
  simpa using first

theorem trim_end_subset (text : List Char) : trimEnd text ⊆ text := by
  intro c member
  have inside := List.mem_reverse.mp member
  exact List.mem_reverse.mp ((List.dropWhile_sublist isBlank).subset inside)

end Fragment.Text
