import Fragment.Diagnostic.Line
import Fragment.Proofs.Text.Cut
/-!
The parts of a diagnostic line. Each part is read greedily up to a character that cannot stand in
it, so what is read is the one way to cut the text there.
-/
namespace Fragment.Diagnostic

theorem after_iff (start text rest : List Char) :
    after? start text = some rest ↔ text = start ++ rest := by
  induction start generalizing text with
  | nil => simp [after?]
  | cons s start ih =>
    cases text with
    | nil => simp [after?]
    | cons c text =>
      by_cases same : s = c
      · simp [after?, same, ih]
      · simp [after?, same, Ne.symm same]

theorem severity_written (word : String) (severity : Severity) (rest : List Char)
    (listed : (word, severity) ∈ severityWords) :
    severity? (word.toList ++ ':' :: ' ' :: rest) = some (severity, rest) := by
  simp only [severityWords, List.mem_cons, Prod.mk.injEq, List.not_mem_nil, or_false] at listed
  rcases listed with ⟨rfl, rfl⟩ | ⟨rfl, rfl⟩ | ⟨rfl, rfl⟩ | ⟨rfl, rfl⟩
  all_goals rfl

theorem severity_iff (text rest : List Char) (severity : Severity) :
    severity? text = some (severity, rest) ↔
      ∃ word, (word, severity) ∈ severityWords ∧ text = word.toList ++ ':' :: ' ' :: rest := by
  constructor
  · intro read
    obtain ⟨⟨word, value⟩, listed, found⟩ := List.exists_of_findSome?_eq_some read
    obtain ⟨left, cut, same⟩ := Option.map_eq_some_iff.mp found
    obtain ⟨rfl, rfl⟩ := Prod.mk.inj same
    refine ⟨word, listed, ?_⟩
    rw [(after_iff _ text left).mp cut, List.append_assoc]
    rfl
  · rintro ⟨word, listed, rfl⟩
    exact severity_written word severity rest listed

def IsNumber (digits : List Char) : Prop := digits ≠ [] ∧ ∀ c ∈ digits, Text.isDigit c = true

instance (digits : List Char) : Decidable (IsNumber digits) :=
  decidable_of_iff (digits ≠ [] ∧ digits.all Text.isDigit = true) (by simp [IsNumber])

theorem digits_colon_iff (text digits rest : List Char) :
    digitsColon? text = some (digits, rest) ↔ IsNumber digits ∧ text = digits ++ ':' :: rest := by
  have cut := Text.cut_iff Text.isDigit ':' (by decide) text
  constructor
  · intro read
    unfold digitsColon? at read
    dsimp only at read
    split at read
    · rename_i first more left taken dropped
      obtain ⟨rfl, rfl⟩ := Prod.mk.inj (Option.some.inj read)
      have both := (cut _ left).mp ⟨rfl, dropped⟩
      exact ⟨⟨by simp [taken], both.1⟩, both.2⟩
    · contradiction
  · rintro ⟨⟨something, all⟩, shape⟩
    obtain ⟨taken, dropped⟩ := (cut digits rest).mpr ⟨all, shape⟩
    unfold digitsColon?
    rw [taken, dropped]
    cases digits with
    | nil => contradiction
    | cons first more => rfl

theorem digits_colon_written (digits rest : List Char) (number : IsNumber digits) :
    digitsColon? (digits ++ ':' :: rest) = some (digits, rest) :=
  (digits_colon_iff _ digits rest).mpr ⟨number, rfl⟩

def IsFile (file : List Char) : Prop :=
  (∃ first more, file = first :: more ∧ Text.isBlank first = false) ∧ ∀ c ∈ file, c ≠ ':'

instance (file : List Char) : Decidable (IsFile file) :=
  decidable_of_iff (file.head?.any (!Text.isBlank ·) = true ∧ file.all (· != ':') = true) (by
    cases file <;> simp [IsFile])

theorem file_colon_iff (text file rest : List Char) :
    fileColon? text = some (file, rest) ↔ IsFile file ∧ text = file ++ ':' :: rest := by
  have cut := Text.cut_iff (fun c => c ≠ ':') ':' (by decide) text
  simp only [decide_eq_true_eq] at cut
  constructor
  · intro read
    unfold fileColon? at read
    split at read
    · rename_i first more left taken dropped
      split at read
      · contradiction
      · rename_i solid
        obtain ⟨rfl, rfl⟩ := Prod.mk.inj (Option.some.inj read)
        obtain ⟨all, shape⟩ := (cut _ left).mp ⟨taken, dropped⟩
        exact ⟨⟨⟨first, more, rfl, by simpa using solid⟩, all⟩, shape⟩
    · contradiction
  · rintro ⟨⟨⟨first, more, rfl, solid⟩, all⟩, shape⟩
    obtain ⟨taken, dropped⟩ := (cut (first :: more) rest).mpr ⟨all, shape⟩
    unfold fileColon?
    rw [taken, dropped]
    simp [solid]

theorem file_colon_written (file rest : List Char) (filed : IsFile file) :
    fileColon? (file ++ ':' :: rest) = some (file, rest) :=
  (file_colon_iff _ file rest).mpr ⟨filed, rfl⟩

def IsName (name : List Char) : Prop :=
  name ≠ [] ∧ ∀ c ∈ name, c ≠ ':' ∧ Text.isBlank c = false

instance (name : List Char) : Decidable (IsName name) :=
  decidable_of_iff (name ≠ [] ∧ name.all (fun c => c != ':' && !Text.isBlank c) = true) (by
    simp [IsName])

theorem name_colon_iff (text name rest : List Char) :
    nameColon? text = some (name, rest) ↔ IsName name ∧ text = name ++ ':' :: rest := by
  have cut := Text.cut_iff (fun c => c ≠ ':' && !Text.isBlank c) ':' (by decide) text
  simp only [Bool.and_eq_true, decide_eq_true_eq, Bool.not_eq_true'] at cut
  constructor
  · intro read
    unfold nameColon? at read
    dsimp only at read
    split at read
    · rename_i first more left taken dropped
      obtain ⟨rfl, rfl⟩ := Prod.mk.inj (Option.some.inj read)
      obtain ⟨all, shape⟩ := (cut _ left).mp ⟨taken, dropped⟩
      exact ⟨⟨by simp, all⟩, shape⟩
    · contradiction
  · rintro ⟨⟨something, all⟩, shape⟩
    obtain ⟨taken, dropped⟩ := (cut name rest).mpr ⟨all, shape⟩
    unfold nameColon?
    dsimp only
    rw [taken, dropped]
    cases name with
    | nil => contradiction
    | cons first more => rfl

theorem name_colon_written (name rest : List Char) (named : IsName name) :
    nameColon? (name ++ ':' :: rest) = some (name, rest) :=
  (name_colon_iff _ name rest).mpr ⟨named, rfl⟩

theorem name_file (name : List Char) (named : IsName name) : IsFile name := by
  obtain ⟨something, all⟩ := named
  cases name with
  | nil => contradiction
  | cons first more =>
    exact ⟨⟨first, more, rfl, (all first (by simp)).2⟩, fun c member => (all c member).1⟩

end Fragment.Diagnostic
