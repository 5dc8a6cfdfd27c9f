import Fragment.Proofs.Diagnostic.Order
import Fragment.Proofs.Text.Number
/-!
The grammar of diagnostic lines. A form is one way to write a line, with all of its parts, and is of
one of four kinds. In each kind a line can be written in one way only, and it is read in the first
kind in which it can be written.
-/
namespace Fragment.Diagnostic

inductive Kind where
  | positioned
  | tool
  | sectioned
  | linker
deriving DecidableEq

namespace Kind

def all : List Kind := [.positioned, .tool, .sectioned, .linker]

def rank : Kind → Nat
  | .positioned => 0
  | .tool => 1
  | .sectioned => 2
  | .linker => 3

def read? : Kind → List Char → Option Diagnostic
  | .positioned => positioned?
  | .tool => ofTool?
  | .sectioned => ofSection?
  | .linker => ofLinker?

end Kind

inductive Form where
  | positioned (file line : List Char) (column : Option (List Char)) (word : String)
      (severity : Severity) (message : List Char)
  | tool (name : List Char) (word : String) (severity : Severity) (message : List Char)
  | sectioned (file inside message : List Char)
  | linker (name message : List Char)

-- It ends in `ld`, or in `ld`, a point and word characters, and no word character stands before
-- that `ld`.
def EndsLinker (name : List Char) : Prop :=
  ∃ front tail, name = front ++ 'l' :: 'd' :: tail ∧
    (tail = [] ∨ ∃ run, run ≠ [] ∧ (∀ c ∈ run, Text.isWord c = true) ∧ tail = '.' :: run) ∧
    ∀ c, front.getLast? = some c → Text.isWord c = false

-- The value of digits, which is known if they are ASCII and it fits a word.
def valueOf? (digits : List Char) : Option Nat :=
  if digits.all Char.isDigit = true ∧ Nat.ofDigitChars 10 digits 0 < Text.wordRange then
    some (Nat.ofDigitChars 10 digits 0)
  else none

namespace Form

def kind : Form → Kind
  | .positioned .. => .positioned
  | .tool .. => .tool
  | .sectioned .. => .sectioned
  | .linker .. => .linker

def Valid : Form → Prop
  | .positioned file line column word severity _ =>
    IsFile file ∧ IsNumber line ∧ (∀ digits ∈ column, IsNumber digits) ∧
      (word, severity) ∈ severityWords
  | .tool name word severity _ => IsName name ∧ (word, severity) ∈ severityWords
  | .sectioned file inside _ => IsName file ∧ ∀ c ∈ inside, c ≠ ')'
  | .linker name _ => (∀ c ∈ name, Text.isBlank c = false) ∧ EndsLinker name

def text : Form → List Char
  | .positioned file line column word _ message =>
    file ++ ':' :: (line ++ ':' :: (columnText column ++ ' ' ::
      (word.toList ++ ':' :: ' ' :: message)))
  | .tool name word _ message => name ++ ':' :: ' ' :: (word.toList ++ ':' :: ' ' :: message)
  | .sectioned file inside message => file ++ ':' :: '(' :: (inside ++ ')' :: ':' :: ' ' :: message)
  | .linker name message => name ++ ':' :: ' ' :: message

def told : Form → Diagnostic
  | .positioned file line column _ severity message =>
    ⟨severity, some (String.ofList file), valueOf? line, column.bind valueOf?,
      String.ofList message⟩
  | .tool name _ severity message =>
    ⟨severity, none, none, none, String.ofList (name ++ [':', ' '] ++ message)⟩
  | .sectioned file inside message =>
    ⟨.error, some (String.ofList file), none, none,
      String.ofList (message ++ " (in ".toList ++ inside ++ [')'])⟩
  | .linker name message =>
    ⟨.error, none, none, none, String.ofList (name ++ [':', ' '] ++ message)⟩

def Writes (form : Form) (text : List Char) : Prop := form.Valid ∧ text = form.text

def Leads (form : Form) (text : List Char) : Prop :=
  form.Writes text ∧ ∀ other : Form, other.Writes text → form.kind.rank ≤ other.kind.rank

end Form

theorem value_number (digits : List Char) (something : digits ≠ []) :
    valueOf? digits = Text.number? digits := by
  refine Option.ext fun n => ?_
  rw [Text.number_iff]
  unfold valueOf?
  constructor
  · intro known
    split at known
    · rename_i both
      obtain rfl := Option.some.inj known
      exact ⟨something, List.all_eq_true.mp both.1, rfl, both.2⟩
    · contradiction
  · rintro ⟨-, digital, rfl, fits⟩
    exact if_pos ⟨List.all_eq_true.mpr digital, fits⟩

theorem ends_in_ld_iff (back : List Char) :
    endsInLd back = true ↔ ∃ rest, back = 'd' :: 'l' :: rest ∧
      ∀ c, rest.head? = some c → Text.isWord c = false := by
  unfold endsInLd
  constructor
  · intro ends
    split at ends
    · rename_i rest
      refine ⟨rest, rfl, ?_⟩
      intro c first
      obtain ⟨more, rfl⟩ := List.head?_eq_some_iff.mp first
      simpa [atWordStart] using ends
    · contradiction
  · rintro ⟨rest, rfl, bare⟩
    cases rest with
    | nil => rfl
    | cons c more => simpa [atWordStart] using bare c rfl

theorem linker_ends_iff (name : List Char) : isLinker name = true ↔ EndsLinker name := by
  rw [linker_back_iff]
  constructor
  · rintro (ends | ⟨run, rest, something, words, shape, ends⟩)
    · obtain ⟨rest, shape, bare⟩ := (ends_in_ld_iff _).mp ends
      refine ⟨rest.reverse, [], ?_, .inl rfl, by simpa using bare⟩
      simpa using congrArg List.reverse shape
    · obtain ⟨front, rfl, bare⟩ := (ends_in_ld_iff rest).mp ends
      refine ⟨front.reverse, '.' :: run.reverse, ?_,
        .inr ⟨run.reverse, by simpa using something, by simpa using words, rfl⟩, by simpa using bare⟩
      simpa using congrArg List.reverse shape
  · rintro ⟨front, tail, rfl, rfl | ⟨run, something, words, rfl⟩, bare⟩
    · exact .inl ((ends_in_ld_iff _).mpr ⟨front.reverse, by simp, by simpa using bare⟩)
    · refine .inr ⟨run.reverse, 'd' :: 'l' :: front.reverse, by simpa using something,
        by simpa using words, by simp, ?_⟩
      exact (ends_in_ld_iff _).mpr ⟨front.reverse, rfl, by simpa using bare⟩

theorem value_column (column : Option (List Char)) (numbers : ∀ digits ∈ column, IsNumber digits) :
    column.bind valueOf? = column.bind Text.number? := by
  cases column with
  | none => rfl
  | some digits => exact value_number digits (numbers digits rfl).1

theorem positioned_form_iff (text : List Char) (d : Diagnostic) :
    positioned? text = some d ↔
      ∃ form : Form, form.kind = .positioned ∧ form.Writes text ∧ form.told = d := by
  refine (positioned_iff text d).trans ⟨?_, ?_⟩
  · rintro ⟨file, line, column, word, message, lined⟩
    refine ⟨.positioned file line column word d.severity message, rfl,
      ⟨⟨lined.filed, lined.numbered, lined.columned, lined.listed⟩, lined.written⟩, ?_⟩
    rw [Form.told, value_number line lined.numbered.1, value_column column lined.columned]
    exact lined.told.symm
  · rintro ⟨form, same, ⟨valid, written⟩, rfl⟩
    cases form with
    | positioned file line column word severity message =>
      obtain ⟨filed, numbered, columned, listed⟩ := valid
      refine ⟨file, line, column, word, message, filed, numbered, columned, listed, written, ?_⟩
      rw [Form.told, value_number line numbered.1, value_column column columned]
    | tool | sectioned | linker => contradiction

theorem tool_form_iff (text : List Char) (d : Diagnostic) :
    ofTool? text = some d ↔
      ∃ form : Form, form.kind = .tool ∧ form.Writes text ∧ form.told = d := by
  refine (tool_iff text d).trans ⟨?_, ?_⟩
  · rintro ⟨tool, word, message, lined⟩
    exact ⟨.tool tool word d.severity message, rfl, ⟨⟨lined.named, lined.listed⟩, lined.written⟩,
      lined.told.symm⟩
  · rintro ⟨form, same, ⟨valid, written⟩, rfl⟩
    cases form with
    | tool name word severity message =>
      exact ⟨name, word, message, valid.1, valid.2, written, rfl⟩
    | positioned | sectioned | linker => contradiction

theorem sectioned_form_iff (text : List Char) (d : Diagnostic) :
    ofSection? text = some d ↔
      ∃ form : Form, form.kind = .sectioned ∧ form.Writes text ∧ form.told = d := by
  refine (section_iff text d).trans ⟨?_, ?_⟩
  · rintro ⟨file, inside, message, lined⟩
    exact ⟨.sectioned file inside message, rfl, ⟨⟨lined.named, lined.closed⟩, lined.written⟩,
      lined.told.symm⟩
  · rintro ⟨form, same, ⟨valid, written⟩, rfl⟩
    cases form with
    | sectioned file inside message =>
      exact ⟨file, inside, message, valid.1, valid.2, written, rfl⟩
    | positioned | tool | linker => contradiction

theorem linker_form_iff (text : List Char) (d : Diagnostic) :
    ofLinker? text = some d ↔
      ∃ form : Form, form.kind = .linker ∧ form.Writes text ∧ form.told = d := by
  refine (linker_iff text d).trans ⟨?_, ?_⟩
  · rintro ⟨name, message, lined⟩
    exact ⟨.linker name message, rfl,
      ⟨⟨lined.solid, (linker_ends_iff name).mp lined.linker⟩, lined.written⟩, lined.told.symm⟩
  · rintro ⟨form, same, ⟨valid, written⟩, rfl⟩
    cases form with
    | linker name message =>
      exact ⟨name, message, valid.1, (linker_ends_iff name).mpr valid.2, written, rfl⟩
    | positioned | tool | sectioned => contradiction

theorem kind_read_iff (kind : Kind) (text : List Char) (d : Diagnostic) :
    kind.read? text = some d ↔
      ∃ form : Form, form.kind = kind ∧ form.Writes text ∧ form.told = d := by
  cases kind with
  | positioned => exact positioned_form_iff text d
  | tool => exact tool_form_iff text d
  | sectioned => exact sectioned_form_iff text d
  | linker => exact linker_form_iff text d

theorem announced_unique (word word' : String) (severity severity' : Severity)
    (message message' : List Char) (listed : (word, severity) ∈ severityWords)
    (listed' : (word', severity') ∈ severityWords)
    (same : word.toList ++ ':' :: ' ' :: message = word'.toList ++ ':' :: ' ' :: message') :
    word = word' ∧ severity = severity' ∧ message = message' := by
  have read := severity_written word severity message listed
  rw [same, severity_written word' severity' message' listed'] at read
  obtain ⟨rfl, rfl⟩ := Prod.mk.inj (Option.some.inj read)
  exact ⟨String.toList_inj.mp (List.append_cancel_right same), rfl, rfl⟩

theorem positioned_unique {file file' line line' : List Char} {column column' : Option (List Char)}
    {word word' : String} {severity severity' : Severity} {message message' : List Char}
    (valid : (Form.positioned file line column word severity message).Valid)
    (valid' : (Form.positioned file' line' column' word' severity' message').Valid)
    (same : (Form.positioned file line column word severity message).text =
      (Form.positioned file' line' column' word' severity' message').text) :
    Form.positioned file line column word severity message =
      .positioned file' line' column' word' severity' message' := by
  obtain ⟨filed, numbered, columned, listed⟩ := valid
  obtain ⟨filed', numbered', columned', listed'⟩ := valid'
  have files := congrArg fileColon? same
  simp only [Form.text, file_colon_written, filed, filed', Option.some.injEq,
    Prod.mk.injEq] at files
  obtain ⟨rfl, placed⟩ := files
  have lines := congrArg digitsColon? placed
  simp only [digits_colon_written, numbered, numbered', Option.some.injEq, Prod.mk.injEq] at lines
  obtain ⟨rfl, columns⟩ := lines
  have columns := congrArg columnOf? columns
  rw [column_written column _ columned, column_written column' _ columned'] at columns
  obtain ⟨rfl, announced⟩ := Prod.mk.inj columns
  obtain ⟨rfl, rfl, rfl⟩ := announced_unique word word' severity severity' message message'
    listed listed' (List.cons.inj announced).2
  rfl

theorem tool_unique {name name' : List Char} {word word' : String} {severity severity' : Severity}
    {message message' : List Char} (valid : (Form.tool name word severity message).Valid)
    (valid' : (Form.tool name' word' severity' message').Valid)
    (same : (Form.tool name word severity message).text =
      (Form.tool name' word' severity' message').text) :
    Form.tool name word severity message = .tool name' word' severity' message' := by
  have names := congrArg nameColon? same
  simp only [Form.text, name_colon_written, valid.1, valid'.1, Option.some.injEq,
    Prod.mk.injEq] at names
  obtain ⟨rfl, announced⟩ := names
  obtain ⟨rfl, rfl, rfl⟩ := announced_unique word word' severity severity' message message'
    valid.2 valid'.2 (List.cons.inj announced).2
  rfl

theorem sectioned_unique {file file' inside inside' message message' : List Char}
    (valid : (Form.sectioned file inside message).Valid)
    (valid' : (Form.sectioned file' inside' message').Valid)
    (same : (Form.sectioned file inside message).text =
      (Form.sectioned file' inside' message').text) :
    Form.sectioned file inside message = .sectioned file' inside' message' := by
  have files := congrArg nameColon? same
  simp only [Form.text, name_colon_written, valid.1, valid'.1, Option.some.injEq,
    Prod.mk.injEq] at files
  obtain ⟨rfl, bracketed⟩ := files
  obtain ⟨rfl, left⟩ := Text.cut_unique (fun c => c ≠ ')') ')' (by decide) inside inside' _ _
    (by simpa using valid.2) (by simpa using valid'.2) (List.cons.inj bracketed).2
  obtain rfl := (List.cons.inj (List.cons.inj left).2).2
  rfl

-- In one kind a text can be written in one way only: each part is cut off at the first character
-- that cannot stand in it.
theorem form_unique (text : List Char) (form other : Form) (written : form.Writes text)
    (written' : other.Writes text) (same : form.kind = other.kind) : form = other := by
  obtain ⟨valid, rfl⟩ := written
  obtain ⟨valid', shape⟩ := written'
  cases form with
  | positioned file line column word severity message =>
    cases other with
    | positioned file' line' column' word' severity' message' =>
      exact positioned_unique valid valid' shape
    | tool | sectioned | linker => contradiction
  | tool name word severity message =>
    cases other with
    | tool name' word' severity' message' => exact tool_unique valid valid' shape
    | positioned | sectioned | linker => contradiction
  | sectioned file inside message =>
    cases other with
    | sectioned file' inside' message' => exact sectioned_unique valid valid' shape
    | positioned | tool | linker => contradiction
  | linker name message =>
    cases other with
    | linker name' message' =>
      obtain ⟨rfl, rfl⟩ := solid_name_unique name name' message message' valid.1 valid'.1 shape
      rfl
    | positioned | tool | sectioned => contradiction

namespace Kind

theorem mem_all (kind : Kind) : kind ∈ all := by
  cases kind <;> decide

theorem all_ranked : all.Pairwise fun before behind => before.rank < behind.rank := by
  decide

end Kind

theorem of_line_kinds (line : List Char) :
    ofLine? line = Kind.all.findSome? fun kind => kind.read? (Text.trimEnd line) := by
  simp only [ofLine?, Kind.all, Kind.read?, List.findSome?_cons, List.findSome?_nil]
  cases positioned? (Text.trimEnd line) with
  | some d => rfl
  | none =>
    cases ofTool? (Text.trimEnd line) with
    | some d => rfl
    | none =>
      cases ofSection? (Text.trimEnd line) with
      | some d => rfl
      | none => cases ofLinker? (Text.trimEnd line) <;> rfl

theorem written_read (text : List Char) (form : Form) (written : form.Writes text) :
    form.kind.read? text = some form.told :=
  (kind_read_iff form.kind text form.told).mpr ⟨form, rfl, written, rfl⟩

theorem first_kind_iff (text : List Char) (d : Diagnostic) :
    Kind.all.findSome? (fun kind => kind.read? text) = some d ↔
      ∃ form : Form, form.Leads text ∧ form.told = d := by
  rw [List.findSome?_eq_some_iff]
  constructor
  · rintro ⟨before, kind, behind, order, read, unread⟩
    obtain ⟨form, rfl, written, told⟩ := (kind_read_iff kind text d).mp read
    refine ⟨form, ⟨written, ?_⟩, told⟩
    intro other written'
    have ranked := Kind.all_ranked
    have listed := Kind.mem_all other.kind
    rw [order] at ranked listed
    rcases List.mem_append.mp listed with early | late
    · have missed := unread other.kind early
      rw [written_read text other written'] at missed
      contradiction
    · rcases List.mem_cons.mp late with same | behind
      · exact Nat.le_of_eq (congrArg Kind.rank same.symm)
      · exact Nat.le_of_lt ((List.pairwise_cons.mp (List.pairwise_append.mp ranked).2.1).1 _ behind)
  · rintro ⟨form, ⟨written, first⟩, rfl⟩
    obtain ⟨before, behind, order⟩ := List.append_of_mem (Kind.mem_all form.kind)
    refine ⟨before, form.kind, behind, order, written_read text form written, ?_⟩
    intro kind early
    cases read : kind.read? text with
    | none => rfl
    | some d =>
      obtain ⟨other, rfl, written', -⟩ := (kind_read_iff kind text d).mp read
      have ranked := Kind.all_ranked
      rw [order] at ranked
      have less := (List.pairwise_append.mp ranked).2.2 other.kind early form.kind (by simp)
      exact absurd (first other written') (Nat.not_le_of_lt less)

theorem no_kind_iff (text : List Char) :
    Kind.all.findSome? (fun kind => kind.read? text) = none ↔ ∀ form : Form, ¬ form.Writes text := by
  rw [List.findSome?_eq_none_iff]
  constructor
  · intro unread form written
    have missed := unread form.kind (Kind.mem_all form.kind)
    rw [written_read text form written] at missed
    contradiction
  · intro unwritten kind _
    cases read : kind.read? text with
    | none => rfl
    | some d =>
      obtain ⟨form, -, written, -⟩ := (kind_read_iff kind text d).mp read
      exact absurd written (unwritten form)

theorem line_read_by_grammar (line : List Char) :
    (∀ form other : Form, form.Writes (Text.trimEnd line) → other.Writes (Text.trimEnd line) →
        form.kind = other.kind → form = other) ∧
      (∀ d, ofLine? line = some d ↔
        ∃ form : Form, form.Leads (Text.trimEnd line) ∧ form.told = d) ∧
      (ofLine? line = none ↔ ∀ form : Form, ¬ form.Writes (Text.trimEnd line)) := by
  rw [of_line_kinds]
  exact ⟨form_unique (Text.trimEnd line), first_kind_iff (Text.trimEnd line),
    no_kind_iff (Text.trimEnd line)⟩

-- A place with a blank in the file name, a line that is no number to the reader, and more colons.
theorem blank_file_read_by_grammar :
    Text.trimEnd "a b:٣:007: fatal error: x:1: y\t".toList = "a b:٣:007: fatal error: x:1: y".toList ∧
      ofLine? "a b:٣:007: fatal error: x:1: y\t".toList =
        some ⟨.error, some "a b", none, some 7, "x:1: y"⟩ ∧
      (∀ other : Form, other.Writes "a b:٣:007: fatal error: x:1: y".toList →
        other.kind = .positioned →
        other = .positioned "a b".toList ['٣'] (some "007".toList) "fatal error" .error
          "x:1: y".toList) ∧
      ∀ form : Form, ¬ form.Writes (Text.trimEnd "Main.c: In function 'g':".toList) := by
  have trimmed : Text.trimEnd "a b:٣:007: fatal error: x:1: y\t".toList =
      "a b:٣:007: fatal error: x:1: y".toList := by decide
  have written : (Form.positioned "a b".toList ['٣'] (some "007".toList) "fatal error" .error
      "x:1: y".toList).Writes "a b:٣:007: fatal error: x:1: y".toList := by
    refine ⟨⟨⟨⟨'a', [' ', 'b'], rfl, by decide⟩, by simp⟩,
      ⟨by decide, List.all_eq_true.mp (by decide)⟩, ?_, by decide⟩, by decide⟩
    rintro digits ⟨⟩
    exact ⟨by decide, List.all_eq_true.mp (by decide)⟩
  obtain ⟨unique, read, -⟩ := line_read_by_grammar "a b:٣:007: fatal error: x:1: y\t".toList
  obtain ⟨-, -, unread⟩ := line_read_by_grammar "Main.c: In function 'g':".toList
  rw [trimmed] at unique read
  refine ⟨trimmed, (read _).mpr ⟨_, ⟨written, fun _ _ => Nat.zero_le _⟩, ?_⟩, ?_, ?_⟩
  · decide
  · intro other also kind
    exact (unique _ other written also kind.symm).symm
  · exact unread.mp (by decide)

end Fragment.Diagnostic
