import Fragment.Proofs.Diagnostic.Order
/-!
Lines that announce a severity. Two of the patterns read the word that announces it, and the other
two take every line for an error; which of them gets a line is decided by what leads it.
-/
namespace Fragment.Diagnostic

-- What may stand before the word that announces a severity.
inductive Lead where
  | positioned (file line : List Char) (column : Option (List Char))
  | tool (name : List Char)
  | sectioned (file inside : List Char)
  | linker (name : List Char)

namespace Lead

def Valid : Lead → Prop
  | .positioned file line column =>
    IsFile file ∧ IsNumber line ∧ ∀ digits ∈ column, IsNumber digits
  | .tool name => IsName name
  | .sectioned file inside => IsName file ∧ ∀ c ∈ inside, c ≠ ')'
  | .linker name => (∀ c ∈ name, Text.isBlank c = false) ∧ isLinker name = true

def before (rest : List Char) : Lead → List Char
  | .positioned file line column =>
    file ++ ':' :: (line ++ ':' :: (columnText column ++ ' ' :: rest))
  | .tool name => name ++ ':' :: ' ' :: rest
  | .sectioned file inside => file ++ ':' :: '(' :: (inside ++ ')' :: ':' :: ' ' :: rest)
  | .linker name => name ++ ':' :: ' ' :: rest

-- Is a line with this lead and this message taken without a look at the word between them?
def Deaf (message : List Char) : Lead → Prop
  | .sectioned _ _ => True
  | .linker name => ':' ∈ name ∨ ∀ c ∈ message, Text.isBlank c = true
  | _ => False

theorem before_append (lead : Lead) (rest more : List Char) :
    lead.before (rest ++ more) = lead.before rest ++ more := by
  cases lead <;> simp [before]

end Lead

-- A line that announces a severity after a lead.
structure Announced (line : List Char) (lead : Lead) (severity : Severity) (message : List Char) :
    Prop where
  valid : lead.Valid
  written : line = lead.before (severity.word.toList ++ ':' :: ' ' :: message)

theorem word_listed (severity : Severity) : (severity.word, severity) ∈ severityWords := by
  cases severity <;> decide

theorem word_cut_short (severity : Severity) :
    severity? (severity.word.toList ++ [':']) = none := by
  cases severity <;> rfl

theorem word_read (severity : Severity) (message : List Char) :
    severity? (severity.word.toList ++ ':' :: ' ' :: message) = some (severity, message) :=
  severity_written severity.word severity message (word_listed severity)

theorem announced_blank (line message : List Char) (lead : Lead) (severity : Severity)
    (announced : Announced line lead severity message)
    (blank : ∀ c ∈ message, Text.isBlank c = true) :
    Text.trimEnd line = lead.before (severity.word.toList ++ [':']) := by
  have all : ∀ c ∈ ' ' :: message, Text.isBlank c = true := by
    intro c member
    rcases List.mem_cons.mp member with rfl | inside
    · decide
    · exact blank c inside
  rw [announced.written, Lead.before_append, Text.trim_end_solid _ _ ':' (by decide),
    Text.trim_end_blank _ all, Lead.before_append]

theorem announced_solid (line message : List Char) (lead : Lead) (severity : Severity)
    (announced : Announced line lead severity message)
    (solid : ¬ ∀ c ∈ message, Text.isBlank c = true) :
    Text.trimEnd line =
      lead.before (severity.word.toList ++ ':' :: ' ' :: Text.trimEnd message) := by
  have split : ∀ rest : List Char, severity.word.toList ++ ':' :: ' ' :: rest =
      (severity.word.toList ++ [':', ' ']) ++ rest := by
    simp
  rw [announced.written, split message, split (Text.trimEnd message), Lead.before_append,
    Text.trim_end_front _ message solid, ← Lead.before_append]

theorem positioned_lead (line file digits message : List Char) (column : Option (List Char))
    (severity : Severity) (d : Diagnostic)
    (announced : Announced line (.positioned file digits column) severity message)
    (read : ofLine? line = some d) : d.severity = severity := by
  obtain ⟨filed, numbered, columned⟩ := announced.valid
  by_cases blank : ∀ c ∈ message, Text.isBlank c = true
  · have text := announced_blank line message _ severity announced blank
    simp [ofLine?, text, Lead.before, positioned_rest file digits _ column filed numbered columned,
      word_cut_short, placed_not_tool file digits _ filed numbered,
      placed_not_section file digits _ filed numbered,
      placed_not_linker file digits _ column filed numbered columned] at read
  · have text := announced_solid line message _ severity announced blank
    simp [ofLine?, text, Lead.before, positioned_rest file digits _ column filed numbered columned,
      word_read] at read
    rw [← read]

theorem tool_text (name rest : List Char) (named : IsName name) :
    positioned? (name ++ ':' :: ' ' :: rest) = none ∧
      ofSection? (name ++ ':' :: ' ' :: rest) = none := by
  have cut := file_colon_written name (' ' :: rest) (name_file name named)
  exact ⟨not_positioned _ name rest ' ' cut (by decide), not_section _ name rest ' ' cut (by decide)⟩

theorem tool_lead (line name message : List Char) (severity : Severity) (d : Diagnostic)
    (announced : Announced line (.tool name) severity message) (read : ofLine? line = some d) :
    d.severity = severity ∨ isLinker name = true ∧ ∀ c ∈ message, Text.isBlank c = true := by
  have named : IsName name := announced.valid
  by_cases blank : ∀ c ∈ message, Text.isBlank c = true
  · have text := announced_blank line message _ severity announced blank
    obtain ⟨no_position, no_section⟩ := tool_text name (severity.word.toList ++ [':']) named
    simp [ofLine?, text, Lead.before, no_position, no_section, tool_rest name _ named,
      word_cut_short] at read
    obtain ⟨name', rest, lined⟩ := (linker_iff _ d).mp read
    obtain ⟨rfl, -⟩ := solid_name_unique name name' _ rest (fun c member => (named.2 c member).2)
      lined.solid lined.written
    exact .inr ⟨lined.linker, blank⟩
  · have text := announced_solid line message _ severity announced blank
    obtain ⟨no_position, -⟩ := tool_text name
      (severity.word.toList ++ ':' :: ' ' :: Text.trimEnd message) named
    simp [ofLine?, text, Lead.before, no_position, tool_rest name _ named, word_read] at read
    exact .inl (by rw [← read])

theorem sectioned_lead (line file inside message : List Char) (severity : Severity)
    (announced : Announced line (.sectioned file inside) severity message) :
    ∃ d, ofLine? line = some d ∧ d.severity = .error := by
  obtain ⟨named, closed⟩ := announced.valid
  obtain ⟨rest, text⟩ : ∃ rest, Text.trimEnd line =
      file ++ ':' :: '(' :: (inside ++ ')' :: ':' :: ' ' :: rest) := by
    by_cases blank : ∀ c ∈ message, Text.isBlank c = true
    · exact ⟨_, announced_blank line message _ severity announced blank⟩
    · exact ⟨_, announced_solid line message _ severity announced blank⟩
  have cut := file_colon_written file ('(' :: (inside ++ ')' :: ':' :: ' ' :: rest))
    (name_file file named)
  obtain ⟨d, found⟩ : ∃ d, ofSection? (file ++ ':' :: '(' ::
      (inside ++ ')' :: ':' :: ' ' :: rest)) = some d :=
    ⟨_, (section_iff _ _).mpr ⟨file, inside, rest, named, closed, rfl, rfl⟩⟩
  rw [ofLine?, text, not_positioned _ file _ '(' cut (by decide),
    not_tool _ file _ '(' cut (by decide), found]
  exact ⟨d, rfl, section_error _ d found⟩

theorem linker_text (name rest : List Char) (solid : ∀ c ∈ name, Text.isBlank c = false)
    (linker : isLinker name = true) (unread : ':' ∈ name ∨ severity? rest = none) :
    positioned? (name ++ ':' :: ' ' :: rest) = none ∧ ofTool? (name ++ ':' :: ' ' :: rest) = none ∧
      ∃ d, ofLinker? (name ++ ':' :: ' ' :: rest) = some d := by
  have found := (linker_iff _ _).mpr ⟨name, rest, solid, linker, rfl, rfl⟩
  refine ⟨?_, ?_, _, found⟩
  · cases read : positioned? (name ++ ':' :: ' ' :: rest) with
    | none => rfl
    | some d => simp [positioned_not_linker _ d read] at found
  · cases read : ofTool? (name ++ ':' :: ' ' :: rest) with
    | none => rfl
    | some d =>
      obtain ⟨tool, word, message, lined⟩ := (tool_iff _ d).mp read
      obtain ⟨rfl, rfl⟩ := solid_name_unique name tool rest _ solid
        (fun c member => (lined.named.2 c member).2) lined.written
      rcases unread with colon | unread
      · exact absurd rfl (lined.named.2 ':' colon).1
      · simp [severity_written word d.severity message lined.listed] at unread

theorem linker_lead (line name message : List Char) (severity : Severity)
    (announced : Announced line (.linker name) severity message)
    (deaf : ':' ∈ name ∨ ∀ c ∈ message, Text.isBlank c = true) :
    ∃ d, ofLine? line = some d ∧ d.severity = .error := by
  obtain ⟨solid, linker⟩ := announced.valid
  obtain ⟨rest, text, unread⟩ : ∃ rest, Text.trimEnd line = name ++ ':' :: ' ' :: rest ∧
      (':' ∈ name ∨ severity? rest = none) := by
    by_cases blank : ∀ c ∈ message, Text.isBlank c = true
    · exact ⟨_, announced_blank line message _ severity announced blank,
        .inr (word_cut_short severity)⟩
    · exact ⟨_, announced_solid line message _ severity announced blank,
        .inl (deaf.resolve_right blank)⟩
  obtain ⟨no_position, no_tool, e, found⟩ := linker_text name rest solid linker unread
  rw [ofLine?, text, no_position, no_tool]
  cases bracketed : ofSection? (name ++ ':' :: ' ' :: rest) with
  | some d => exact ⟨d, rfl, section_error _ d bracketed⟩
  | none => exact ⟨e, found, linker_error _ e found⟩

def Harmless (line : List Char) : Prop :=
  ∃ lead severity message, Announced line lead severity message ∧ severity ≠ .error

-- A line that announces a warning or a note after a lead that makes it an error.
def Misread (line : List Char) : Prop :=
  ∃ lead severity message, Announced line lead severity message ∧ severity ≠ .error ∧
    lead.Deaf message

theorem misread_error (line : List Char) (misread : Misread line) :
    ∃ d, ofLine? line = some d ∧ d.severity = .error := by
  obtain ⟨lead, severity, message, announced, -, deaf⟩ := misread
  cases lead with
  | positioned file digits column => exact deaf.elim
  | tool name => exact deaf.elim
  | sectioned file inside => exact sectioned_lead line file inside message severity announced
  | linker name => exact linker_lead line name message severity announced deaf

-- A linker's name without a colon is a tool's name as well, and the tool's pattern comes first.
theorem linker_lead_tool (line name message : List Char) (severity : Severity)
    (announced : Announced line (.linker name) severity message) (colonless : ':' ∉ name) :
    Announced line (.tool name) severity message := by
  obtain ⟨solid, linker⟩ := announced.valid
  refine ⟨⟨?_, fun c member => ⟨?_, solid c member⟩⟩, announced.written⟩
  · rintro rfl
    exact absurd linker (by decide)
  · rintro rfl
    exact colonless member

theorem error_misread (line : List Char) (d : Diagnostic) (harmless : Harmless line)
    (read : ofLine? line = some d) (error : d.severity = .error) : Misread line := by
  obtain ⟨lead, severity, message, announced, mild⟩ := harmless
  have of_tool : ∀ name, Announced line (.tool name) severity message → Misread line := by
    intro name tool
    rcases tool_lead line name message severity d tool read with same | ⟨linker, blank⟩
    · exact absurd (same.symm.trans error) mild
    · exact ⟨.linker name, severity, message,
        ⟨⟨fun c member => (tool.valid.2 c member).2, linker⟩, tool.written⟩, mild, .inr blank⟩
  cases lead with
  | positioned file digits column =>
    have same := positioned_lead line file digits message column severity d announced read
    exact absurd (same.symm.trans error) mild
  | tool name => exact of_tool name announced
  | sectioned file inside => exact ⟨_, severity, message, announced, mild, trivial⟩
  | linker name =>
    by_cases colon : ':' ∈ name
    · exact ⟨_, severity, message, announced, mild, .inl colon⟩
    · exact of_tool name (linker_lead_tool line name message severity announced colon)

end Fragment.Diagnostic
