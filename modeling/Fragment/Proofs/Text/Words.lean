import Fragment.Text.Blank
/-!
The words of a text: its longest runs without white space, in order. Whatever white space stands
around them and between them, joined words come apart into what was joined.
-/
namespace Fragment.Text

structure IsRun (word : List Char) : Prop where
  something : word ≠ []
  solid : ∀ c ∈ word, isBlank c = false

-- White space, and then words, each with what stands behind it.
def spread (lead : List Char) (parts : List (List Char × List Char)) : List Char :=
  lead ++ parts.flatMap fun part => part.1 ++ part.2

-- Words with white space behind each, of which only the last may have none.
structure Apart (lead : List Char) (parts : List (List Char × List Char)) : Prop where
  led : ∀ c ∈ lead, isBlank c = true
  run : ∀ part ∈ parts, IsRun part.1
  blank : ∀ part ∈ parts, ∀ c ∈ part.2, isBlank c = true
  apart : ∀ part ∈ parts.dropLast, part.2 ≠ []

theorem words_blank (blank rest : List Char) (all : ∀ c ∈ blank, isBlank c = true) :
    words (blank ++ rest) = words rest := by
  induction blank with
  | nil => rfl
  | cons c more ih =>
    have tail := ih fun d member => all d (List.mem_cons_of_mem c member)
    rw [List.cons_append, words.eq_def]
    simp only [if_pos (all c (by simp)), tail]

theorem words_run (word rest : List Char) (run : IsRun word)
    (ended : ∀ c, rest.head? = some c → isBlank c = true) : words (word ++ rest) = word :: words rest := by
  obtain ⟨something, solid⟩ := run
  induction word with
  | nil => contradiction
  | cons c more ih =>
    have own : ¬ isBlank c = true := by simp [solid c]
    cases more with
    | nil =>
      cases rest with
      | nil =>
        rw [List.append_nil, words.eq_def]
        simp only [if_neg own]
        rfl
      | cons d behind =>
        rw [List.cons_append, List.nil_append, words.eq_def]
        simp only [if_neg own, if_pos (ended d rfl)]
    | cons d more =>
      have next : ¬ isBlank d = true := by simp [solid d]
      have later := ih (by simp) fun e member => solid e (List.mem_cons_of_mem c member)
      rw [List.cons_append] at later
      rw [List.cons_append, List.cons_append, words.eq_def]
      simp only [if_neg own, if_neg next, later]

theorem words_spread (lead : List Char) (parts : List (List Char × List Char))
    (apart : Apart lead parts) : words (spread lead parts) = parts.map Prod.fst := by
  rw [spread, words_blank lead _ apart.led]
  obtain ⟨-, run, blank, apart⟩ := apart
  induction parts with
  | nil => rfl
  | cons part rest ih =>
    have tail := ih (fun p member => run p (List.mem_cons_of_mem part member))
      (fun p member => blank p (List.mem_cons_of_mem part member))
      fun p member => by
        cases rest with
        | nil => contradiction
        | cons next more => exact apart p (List.mem_cons_of_mem part member)
    have ended : ∀ c, (part.2 ++ rest.flatMap fun p => p.1 ++ p.2).head? = some c →
        isBlank c = true := by
      intro c first
      cases gap : part.2 with
      | cons d more =>
        rw [gap] at first
        obtain rfl := Option.some.inj first
        exact blank part (by simp) d (by simp [gap])
      | nil =>
        cases rest with
        | nil => simp [gap] at first
        | cons next more => exact absurd gap (apart part (by simp))
    rw [List.flatMap_cons, List.append_assoc, words_run part.1 _ (run part (by simp)) ended,
      words_blank part.2 _ (blank part (by simp)), tail, List.map_cons]

-- A character more in front of a text that is cut into words.
theorem spread_cons (c : Char) (lead : List Char) (parts : List (List Char × List Char))
    (apart : Apart lead parts) :
    ∃ lead' parts', Apart lead' parts' ∧ spread lead' parts' = c :: spread lead parts := by
  obtain ⟨led, run, blank, apart⟩ := apart
  by_cases space : isBlank c = true
  · exact ⟨c :: lead, parts, ⟨by simpa [space] using led, run, blank, apart⟩, rfl⟩
  · have visible : isBlank c = false := by simpa using space
    have own : IsRun [c] := ⟨by simp, by simpa using visible⟩
    cases lead with
    | cons d gap =>
      -- The character is a word of its own, in front of white space.
      refine ⟨[], ([c], d :: gap) :: parts, ⟨by simp, ?_, ?_, ?_⟩, rfl⟩
      · exact List.forall_mem_cons.mpr ⟨own, run⟩
      · exact List.forall_mem_cons.mpr ⟨led, blank⟩
      · cases parts with
        | nil => simp
        | cons part rest => exact List.forall_mem_cons.mpr ⟨by simp, apart⟩
    | nil =>
      cases parts with
      | nil =>
        exact ⟨[], [([c], [])], ⟨by simp, by simpa using own, by simp, by simp⟩, rfl⟩
      | cons part rest =>
        -- The character is the first of the word behind it.
        have longer : IsRun (c :: part.1) := by
          refine ⟨by simp, ?_⟩
          simpa using ⟨visible, (run part (by simp)).solid⟩
        refine ⟨[], (c :: part.1, part.2) :: rest, ⟨by simp, ?_, ?_, ?_⟩, rfl⟩
        · exact List.forall_mem_cons.mpr
            ⟨longer, fun p member => run p (List.mem_cons_of_mem part member)⟩
        · exact List.forall_mem_cons.mpr
            ⟨blank part (by simp), fun p member => blank p (List.mem_cons_of_mem part member)⟩
        · cases rest with
          | nil => simp
          | cons next more =>
            exact List.forall_mem_cons.mpr
              ⟨apart part (by simp), fun p member => apart p (List.mem_cons_of_mem part member)⟩

theorem text_spread (text : List Char) : ∃ lead parts, Apart lead parts ∧ text = spread lead parts := by
  induction text with
  | nil => exact ⟨[], [], ⟨by simp, by simp, by simp, by simp⟩, rfl⟩
  | cons c rest ih =>
    obtain ⟨lead, parts, apart, rfl⟩ := ih
    obtain ⟨lead', parts', apart', shape⟩ := spread_cons c lead parts apart
    exact ⟨lead', parts', apart', shape.symm⟩

theorem words_iff (text : List Char) (all : List (List Char)) :
    words text = all ↔
      ∃ lead parts, Apart lead parts ∧ text = spread lead parts ∧ all = parts.map Prod.fst := by
  constructor
  · rintro rfl
    obtain ⟨lead, parts, apart, rfl⟩ := text_spread text
    exact ⟨lead, parts, apart, rfl, words_spread lead parts apart⟩
  · rintro ⟨lead, parts, apart, rfl, rfl⟩
    exact words_spread lead parts apart

theorem words_none (text : List Char) (all : ∀ c ∈ text, isBlank c = true) : words text = [] := by
  have blank := words_blank text [] all
  rwa [List.append_nil] at blank

end Fragment.Text
