import Fragment.Proofs.Diagnostic.Parts
/-!
The four shapes of a diagnostic line, each read off its pattern as one way to write a line.
-/
namespace Fragment.Diagnostic

theorem announced_iff (text message : List Char) (severity : Severity) :
    (after? [' '] text >>= severity?) = some (severity, message) ↔
      ∃ word, (word, severity) ∈ severityWords ∧
        text = ' ' :: (word.toList ++ ':' :: ' ' :: message) := by
  constructor
  · intro read
    obtain ⟨rest, cut, read⟩ := Option.bind_eq_some_iff.mp read
    obtain ⟨word, listed, rfl⟩ := (severity_iff rest message severity).mp read
    exact ⟨word, listed, (after_iff [' '] text _).mp cut⟩
  · rintro ⟨word, listed, rfl⟩
    exact severity_written word severity message listed

def columnText : Option (List Char) → List Char
  | some column => column ++ [':']
  | none => []

def columnOf? (text : List Char) : Option (List Char) × List Char :=
  match digitsColon? text with
  | some (column, rest) => (some column, rest)
  | none => (none, text)

theorem digits_colon_space (rest : List Char) : digitsColon? (' ' :: rest) = none := by
  have solid : Text.isDigit ' ' = false := by decide
  simp [digitsColon?, solid]

theorem column_iff (text rest : List Char) (column : Option (List Char)) :
    columnOf? text = (column, ' ' :: rest) ↔
      (∀ digits ∈ column, IsNumber digits) ∧ text = columnText column ++ ' ' :: rest := by
  unfold columnOf?
  constructor
  · intro read
    split at read
    · rename_i digits left found
      obtain ⟨rfl, rfl⟩ := Prod.mk.inj read
      obtain ⟨number, shape⟩ := (digits_colon_iff text digits _).mp found
      exact ⟨by simpa using number, by simpa [columnText] using shape⟩
    · obtain ⟨rfl, rfl⟩ := Prod.mk.inj read
      exact ⟨by simp, rfl⟩
  · rintro ⟨numbers, rfl⟩
    cases column with
    | none => simp [columnText, digits_colon_space]
    | some digits =>
      have found := (digits_colon_iff _ digits (' ' :: rest)).mpr ⟨numbers digits rfl, rfl⟩
      simp [columnText, found]

theorem column_written (column : Option (List Char)) (rest : List Char)
    (numbers : ∀ digits ∈ column, IsNumber digits) :
    columnOf? (columnText column ++ ' ' :: rest) = (column, ' ' :: rest) :=
  (column_iff _ rest column).mpr ⟨numbers, rfl⟩

theorem positioned_unfolds (text : List Char) :
    positioned? text = (do
      let (file, rest) ← fileColon? text
      let (line, rest) ← digitsColon? rest
      let (severity, message) ← after? [' '] (columnOf? rest).2 >>= severity?
      return ⟨severity, some (String.ofList file), Text.number? line,
        (columnOf? rest).1.bind Text.number?, String.ofList message⟩) := by
  unfold positioned? columnOf?
  congr 1
  funext ⟨file, rest⟩
  dsimp only
  congr 1
  funext ⟨line, rest'⟩
  dsimp only
  cases digitsColon? rest' <;> rfl

theorem positioned_rest (file line rest : List Char) (column : Option (List Char))
    (filed : IsFile file) (numbered : IsNumber line)
    (columned : ∀ digits ∈ column, IsNumber digits) :
    positioned? (file ++ ':' :: (line ++ ':' :: (columnText column ++ ' ' :: rest))) =
      (severity? rest).map fun said => ⟨said.1, some (String.ofList file), Text.number? line,
        column.bind Text.number?, String.ofList said.2⟩ := by
  rw [positioned_unfolds, file_colon_written file _ filed]
  simp only [bind, Option.bind_some, digits_colon_written line _ numbered,
    column_written column _ columned]
  show (severity? rest).bind _ = _
  cases severity? rest <;> rfl

theorem tool_rest (tool rest : List Char) (named : IsName tool) :
    ofTool? (tool ++ ':' :: ' ' :: rest) =
      (severity? rest).map fun said =>
        ⟨said.1, none, none, none, String.ofList (tool ++ [':', ' '] ++ said.2)⟩ := by
  unfold ofTool?
  simp only [bind, Option.bind_some, name_colon_written tool _ named]
  show (severity? rest).bind _ = _
  cases severity? rest <;> rfl

structure PositionedLine (text : List Char) (d : Diagnostic) (file line : List Char)
    (column : Option (List Char)) (word : String) (message : List Char) : Prop where
  filed : IsFile file
  numbered : IsNumber line
  columned : ∀ digits ∈ column, IsNumber digits
  listed : (word, d.severity) ∈ severityWords
  written : text = file ++ ':' :: (line ++ ':' :: (columnText column ++
    ' ' :: (word.toList ++ ':' :: ' ' :: message)))
  told : d = ⟨d.severity, some (String.ofList file), Text.number? line, column.bind Text.number?,
    String.ofList message⟩

theorem positioned_iff (text : List Char) (d : Diagnostic) :
    positioned? text = some d ↔ ∃ file line column word message,
      PositionedLine text d file line column word message := by
  constructor
  · intro read
    rw [positioned_unfolds] at read
    obtain ⟨⟨file, rest⟩, cut, placed⟩ := Option.bind_eq_some_iff.mp read
    obtain ⟨⟨line, rest'⟩, cut', announced⟩ := Option.bind_eq_some_iff.mp placed
    obtain ⟨⟨severity, message⟩, said, built⟩ := Option.bind_eq_some_iff.mp announced
    obtain ⟨filed, rfl⟩ := (file_colon_iff text file rest).mp cut
    obtain ⟨numbered, rfl⟩ := (digits_colon_iff rest line rest').mp cut'
    obtain ⟨word, listed, left⟩ := (announced_iff _ message severity).mp said
    obtain ⟨columned, shape⟩ := (column_iff rest' _ (columnOf? rest').1).mp (Prod.ext rfl left)
    obtain rfl := Option.some.inj built
    exact ⟨file, line, _, word, message, filed, numbered, columned, listed,
      congrArg (fun rest => file ++ ':' :: (line ++ ':' :: rest)) shape, rfl⟩
  · rintro ⟨file, line, column, word, message, lined⟩
    rw [lined.written, positioned_rest file line _ column lined.filed lined.numbered lined.columned,
      severity_written word d.severity message lined.listed]
    exact congrArg some lined.told.symm

structure ToolLine (text : List Char) (d : Diagnostic) (tool : List Char) (word : String)
    (message : List Char) : Prop where
  named : IsName tool
  listed : (word, d.severity) ∈ severityWords
  written : text = tool ++ ':' :: ' ' :: (word.toList ++ ':' :: ' ' :: message)
  told : d = ⟨d.severity, none, none, none, String.ofList (tool ++ [':', ' '] ++ message)⟩

theorem tool_iff (text : List Char) (d : Diagnostic) :
    ofTool? text = some d ↔ ∃ tool word message, ToolLine text d tool word message := by
  constructor
  · intro read
    unfold ofTool? at read
    obtain ⟨⟨tool, rest⟩, cut, announced⟩ := Option.bind_eq_some_iff.mp read
    obtain ⟨⟨severity, message⟩, said, built⟩ := Option.bind_eq_some_iff.mp announced
    obtain ⟨named, rfl⟩ := (name_colon_iff text tool rest).mp cut
    obtain ⟨word, listed, rfl⟩ := (announced_iff _ message severity).mp said
    obtain rfl := Option.some.inj built
    exact ⟨tool, word, message, named, listed, rfl, rfl⟩
  · rintro ⟨tool, word, message, lined⟩
    rw [lined.written, tool_rest tool _ lined.named,
      severity_written word d.severity message lined.listed]
    exact congrArg some lined.told.symm

structure SectionLine (text : List Char) (d : Diagnostic) (file inside message : List Char) :
    Prop where
  named : IsName file
  closed : ∀ c ∈ inside, c ≠ ')'
  written : text = file ++ ':' :: '(' :: (inside ++ ')' :: ':' :: ' ' :: message)
  told : d = ⟨.error, some (String.ofList file), none, none,
    String.ofList (message ++ " (in ".toList ++ inside ++ [')'])⟩

theorem section_iff (text : List Char) (d : Diagnostic) :
    ofSection? text = some d ↔ ∃ file inside message, SectionLine text d file inside message := by
  have cut := Text.cut_iff (fun c => c ≠ ')') ')' (by decide)
  simp only [decide_eq_true_eq] at cut
  unfold ofSection?
  constructor
  · intro read
    obtain ⟨⟨file, rest⟩, found, bracketed⟩ := Option.bind_eq_some_iff.mp read
    obtain ⟨rest', start, inner⟩ := Option.bind_eq_some_iff.mp bracketed
    obtain ⟨message, ending, built⟩ := Option.bind_eq_some_iff.mp inner
    obtain ⟨named, rfl⟩ := (name_colon_iff text file rest).mp found
    obtain rfl := (after_iff _ rest rest').mp start
    obtain ⟨closed, shape⟩ := (cut rest' _ _).mp ⟨rfl, (after_iff _ _ message).mp ending⟩
    obtain rfl := Option.some.inj built
    exact ⟨file, _, message, named, closed,
      congrArg (fun rest => file ++ ':' :: '(' :: rest) shape, rfl⟩
  · rintro ⟨file, inside, message, lined⟩
    obtain ⟨taken, dropped⟩ := (cut _ inside (':' :: ' ' :: message)).mpr ⟨lined.closed, rfl⟩
    rw [lined.written]
    refine Option.bind_eq_some_iff.mpr ⟨_, name_colon_written file _ lined.named, ?_⟩
    refine Option.bind_eq_some_iff.mpr
      ⟨inside ++ ')' :: ':' :: ' ' :: message, (after_iff ['('] _ _).mpr rfl, ?_⟩
    dsimp only
    rw [taken, dropped]
    refine Option.bind_eq_some_iff.mpr ⟨_, (after_iff [')', ':', ' '] _ message).mpr rfl, ?_⟩
    exact congrArg some lined.told.symm

structure LinkerLine (text : List Char) (d : Diagnostic) (name message : List Char) : Prop where
  solid : ∀ c ∈ name, Text.isBlank c = false
  linker : isLinker name = true
  written : text = name ++ ':' :: ' ' :: message
  told : d = .ofMessage (String.ofList (name ++ [':', ' '] ++ message))

theorem solid_with_colon (name : List Char) (solid : ∀ c ∈ name, Text.isBlank c = false) :
    ∀ c ∈ name ++ [':'], Text.isBlank c = false := by
  intro c member
  rcases List.mem_append.mp member with inside | colon
  · exact solid c inside
  · rw [List.mem_singleton.mp colon]
    decide

theorem linker_iff (text : List Char) (d : Diagnostic) :
    ofLinker? text = some d ↔ ∃ name message, LinkerLine text d name message := by
  have cut := Text.cut_iff (fun c => !Text.isBlank c) ' ' (by decide)
  simp only [Bool.not_eq_true'] at cut
  unfold ofLinker?
  constructor
  · intro read
    obtain ⟨message, ending, named⟩ := Option.bind_eq_some_iff.mp read
    obtain ⟨solid, shape⟩ := (cut text _ _).mp ⟨rfl, (after_iff _ _ message).mp ending⟩
    split at named
    · rename_i both
      obtain ⟨stop, linker⟩ := both
      obtain ⟨name, same⟩ := List.getLast?_eq_some_iff.mp stop
      rw [same, List.dropLast_concat] at linker
      obtain rfl := Option.some.inj named
      refine ⟨name, message, fun c member => solid c (by simp [same, member]), linker, ?_, ?_⟩
      · rw [shape, same]
        simp
      · rw [same]
        simp
    · contradiction
  · rintro ⟨name, message, lined⟩
    have solid := solid_with_colon name lined.solid
    have shape : text = (name ++ [':']) ++ ' ' :: message := by
      rw [lined.written]
      simp
    obtain ⟨taken, dropped⟩ := (cut text (name ++ [':']) message).mpr ⟨solid, shape⟩
    rw [taken, dropped]
    refine Option.bind_eq_some_iff.mpr ⟨message, (after_iff [' '] _ message).mpr rfl, ?_⟩
    rw [List.getLast?_concat, List.dropLast_concat, if_pos ⟨rfl, lined.linker⟩, lined.told]
    simp

end Fragment.Diagnostic
