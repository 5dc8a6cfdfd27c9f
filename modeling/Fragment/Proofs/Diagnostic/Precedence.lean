import Mathlib.Data.List.Basic
import Fragment.Proofs.Diagnostic.Grammar
/-!
The order in which the shapes are tried. The character after the first colon calls for one shape,
the linker's apart, so a text that two shapes read is the linker's and a tool's or a section's. Of
the orders, those agree that try the linker's shape behind these two.
-/
namespace Fragment.Diagnostic

def readIn? (order : List Kind) (line : List Char) : Option Diagnostic :=
  order.findSome? fun kind => kind.read? (Text.trimEnd line)

def Before (order : List Kind) (first second : Kind) : Prop :=
  order.idxOf first < order.idxOf second

def LinkerBehind (order : List Kind) : Prop :=
  Before order .tool .linker ∧ Before order .sectioned .linker

def Kind.Reads (kind : Kind) (text : List Char) : Prop := ∃ d, kind.read? text = some d

-- The linker's shape may read the text as well, if this one is to be tried before it.
def Kind.Prevails (kind : Kind) (text : List Char) : Prop :=
  ∀ other : Kind, other.Reads text →
    other = kind ∨ other = .linker ∧ (kind = .tool ∨ kind = .sectioned)

-- The shape that the character after the first colon calls for.
def called? (text : List Char) : Option Kind :=
  match fileColon? text with
  | some (_, c :: _) =>
    if Text.isDigit c then some .positioned
    else if c = ' ' then some .tool
    else if c = '(' then some .sectioned
    else none
  | _ => none

theorem read_called (kind : Kind) (text : List Char) (reads : kind.Reads text)
    (apart : kind ≠ .linker) : called? text = some kind := by
  obtain ⟨d, read⟩ := reads
  cases kind with
  | positioned =>
    obtain ⟨file, c, rest, cut, digit⟩ := positioned_next text d read
    simp only [called?, cut, digit, if_true]
  | tool =>
    obtain ⟨file, rest, cut⟩ := tool_next text d read
    have plain : Text.isDigit ' ' = false := by decide
    simp [called?, cut, plain]
  | sectioned =>
    obtain ⟨file, rest, cut⟩ := section_next text d read
    have plain : Text.isDigit '(' = false := by decide
    simp [called?, cut, plain]
  | linker => contradiction

theorem apart_unique (kind other : Kind) (text : List Char) (reads : kind.Reads text)
    (reads' : other.Reads text) (apart : kind ≠ .linker) (apart' : other ≠ .linker) :
    kind = other := by
  have called := read_called kind text reads apart
  rw [read_called other text reads' apart'] at called
  exact (Option.some.inj called).symm

theorem positioned_without_linker (text : List Char) (reads : Kind.positioned.Reads text) :
    ¬ Kind.linker.Reads text := by
  intro reads'
  obtain ⟨d, read⟩ := reads
  obtain ⟨d', read'⟩ := reads'
  have missed := positioned_not_linker text d read
  rw [Kind.read?, missed] at read'
  contradiction

theorem beside_linker (kind : Kind) (text : List Char) (reads : kind.Reads text)
    (linker : Kind.linker.Reads text) (apart : kind ≠ .linker) :
    kind = .tool ∨ kind = .sectioned := by
  cases kind with
  | positioned => exact absurd linker (positioned_without_linker text reads)
  | tool => exact .inl rfl
  | sectioned => exact .inr rfl
  | linker => contradiction

-- A search ends at the first shape that reads, so at one that no other reader stands before.
theorem first_reader (order : List Kind) (text : List Char) (kind : Kind) (d : Diagnostic)
    (tried : kind ∈ order) (read : kind.read? text = some d)
    (first : ∀ other : Kind, other.Reads text → order.idxOf kind ≤ order.idxOf other) :
    (order.findSome? fun kind => kind.read? text) = some d := by
  induction order with
  | nil => contradiction
  | cons head tail ih =>
    by_cases same : head = kind
    · rw [same, List.findSome?_cons, read]
    · have unread : head.read? text = none := by
        rw [Option.eq_none_iff_forall_ne_some]
        intro d' read'
        have early := first head ⟨d', read'⟩
        rw [List.idxOf_cons_self, List.idxOf_cons_ne tail same] at early
        omega
      rw [List.findSome?_cons, unread]
      apply ih ((List.mem_cons.mp tried).resolve_left (Ne.symm same))
      intro other reads
      have early := first other reads
      by_cases top : head = other
      · obtain ⟨d', read'⟩ := reads
        rw [← top, unread] at read'
        contradiction
      · rw [List.idxOf_cons_ne tail same, List.idxOf_cons_ne tail top] at early
        omega

theorem prevailing_kind (text : List Char) (kind : Kind) (reads : kind.Reads text) :
    ∃ leading : Kind, leading.Reads text ∧ leading.Prevails text := by
  by_cases led : ∃ leading : Kind, leading.Reads text ∧ leading ≠ .linker
  · obtain ⟨leading, reads, apart⟩ := led
    refine ⟨leading, reads, ?_⟩
    intro other reads'
    by_cases last : other = .linker
    · exact .inr ⟨last, beside_linker leading text reads (last ▸ reads') apart⟩
    · exact .inl (apart_unique other leading text reads' reads last apart)
  · have alone : ∀ other : Kind, other.Reads text → other = .linker := by
      intro other reads'
      by_contra apart
      exact led ⟨other, reads', apart⟩
    obtain rfl := alone kind reads
    exact ⟨.linker, reads, fun other reads' => .inl (alone other reads')⟩

theorem prevailing_read (order : List Kind) (line : List Char) (kind : Kind) (d : Diagnostic)
    (complete : ∀ kind : Kind, kind ∈ order) (behind : LinkerBehind order)
    (read : kind.read? (Text.trimEnd line) = some d)
    (prevails : kind.Prevails (Text.trimEnd line)) : readIn? order line = some d := by
  apply first_reader order (Text.trimEnd line) kind d (complete kind) read
  intro other reads
  rcases prevails other reads with rfl | ⟨rfl, rfl | rfl⟩
  · exact Nat.le_refl _
  · exact Nat.le_of_lt behind.1
  · exact Nat.le_of_lt behind.2

theorem all_linker_behind : LinkerBehind Kind.all := by
  unfold LinkerBehind Before
  decide

theorem behind_alike (order : List Kind) (line : List Char)
    (complete : ∀ kind : Kind, kind ∈ order) (behind : LinkerBehind order) :
    readIn? order line = ofLine? line := by
  rw [of_line_kinds]
  by_cases taken : ∃ kind : Kind, kind.Reads (Text.trimEnd line)
  · obtain ⟨some, reads⟩ := taken
    obtain ⟨kind, ⟨d, read⟩, prevails⟩ := prevailing_kind (Text.trimEnd line) some reads
    rw [prevailing_read order line kind d complete behind read prevails]
    exact (prevailing_read Kind.all line kind d Kind.mem_all all_linker_behind read prevails).symm
  · have unread : ∀ kind : Kind, kind.read? (Text.trimEnd line) = none := by
      intro kind
      rw [Option.eq_none_iff_forall_ne_some]
      intro d read
      exact taken ⟨kind, d, read⟩
    rw [readIn?, List.findSome?_eq_none_iff.mpr fun kind _ => unread kind]
    exact (List.findSome?_eq_none_iff.mpr fun kind _ => unread kind).symm

theorem alike_before (order : List Kind) (line : List Char) (kind : Kind) (d d' : Diagnostic)
    (complete : ∀ kind : Kind, kind ∈ order) (apart : kind ≠ .linker)
    (read : kind.read? (Text.trimEnd line) = some d)
    (linker : Kind.linker.read? (Text.trimEnd line) = some d') (different : d ≠ d')
    (alike : readIn? order line = ofLine? line) : Before order kind .linker := by
  by_contra late
  have readers : ∀ other : Kind, other.Reads (Text.trimEnd line) →
      other = kind ∨ other = .linker := by
    intro other reads
    by_cases last : other = .linker
    · exact .inr last
    · exact .inl (apart_unique other kind _ reads ⟨d, read⟩ last apart)
  have taken : readIn? order line = some d' := by
    apply first_reader order (Text.trimEnd line) .linker d' (complete .linker) linker
    intro other reads
    rcases readers other reads with rfl | rfl
    · exact Nat.le_of_not_lt late
    · exact Nat.le_refl _
  have usual : ofLine? line = some d := by
    rw [of_line_kinds]
    apply first_reader Kind.all (Text.trimEnd line) kind d (Kind.mem_all kind) read
    intro other reads
    rcases readers other reads with rfl | rfl
    · exact Nat.le_refl _
    · cases kind with
      | positioned | tool | sectioned => decide
      | linker => contradiction
  rw [taken, usual] at alike
  exact different (Option.some.inj alike).symm

theorem linker_warning :
    Kind.tool.read? (Text.trimEnd "ld: warning: x".toList) =
        some ⟨.warning, none, none, none, "ld: x"⟩ ∧
      Kind.linker.read? (Text.trimEnd "ld: warning: x".toList) =
        some ⟨.error, none, none, none, "ld: warning: x"⟩ := by
  decide

theorem section_of_linker :
    Kind.sectioned.read? (Text.trimEnd "f:(a:ld: b): m".toList) =
        some ⟨.error, some "f", none, none, "m (in a:ld: b)"⟩ ∧
      Kind.linker.read? (Text.trimEnd "f:(a:ld: b): m".toList) =
        some ⟨.error, none, none, none, "f:(a:ld: b): m"⟩ := by
  decide

theorem linker_behind_iff (order : List Kind) (complete : ∀ kind : Kind, kind ∈ order) :
    (∀ line, readIn? order line = ofLine? line) ↔ LinkerBehind order := by
  constructor
  · intro alike
    constructor
    · exact alike_before order "ld: warning: x".toList .tool _ _ complete (by decide)
        linker_warning.1 linker_warning.2 (by decide) (alike _)
    · exact alike_before order "f:(a:ld: b): m".toList .sectioned _ _ complete (by decide)
        section_of_linker.1 section_of_linker.2 (by decide) (alike _)
  · intro behind line
    exact behind_alike order line complete behind

theorem order_matters_for_linker :
    (∀ (text : List Char) (kind other : Kind), kind ≠ .linker → other ≠ .linker →
        kind.Reads text → other.Reads text → kind = other) ∧
      (∀ text : List Char, Kind.positioned.Reads text → ¬ Kind.linker.Reads text) ∧
      ∀ order : List Kind, order.Perm Kind.all →
        ((∀ line, readIn? order line = ofLine? line) ↔ LinkerBehind order) := by
  refine ⟨?_, positioned_without_linker, ?_⟩
  · intro text kind other apart apart' reads reads'
    exact apart_unique kind other text reads reads' apart apart'
  · intro order shuffled
    exact linker_behind_iff order fun kind => shuffled.mem_iff.mpr (Kind.mem_all kind)

theorem places_last_read_alike :
    (∀ line, readIn? [.sectioned, .tool, .linker, .positioned] line = ofLine? line) ∧
      (¬ ∀ line, readIn? [.sectioned, .positioned, .linker, .tool] line = ofLine? line) ∧
      Kind.positioned.Reads "a:1: note: ld: x".toList ∧
      ¬ Kind.linker.Reads "a:1: note: ld: x".toList := by
  obtain ⟨-, clear, alike⟩ := order_matters_for_linker
  have reads : Kind.positioned.Reads "a:1: note: ld: x".toList :=
    ⟨⟨.note, some "a", some 1, none, "ld: x"⟩, by decide⟩
  refine ⟨(alike _ (by decide)).mpr ?_, ?_, reads, clear _ reads⟩
  · unfold LinkerBehind Before
    decide
  · rw [alike _ (by decide)]
    unfold LinkerBehind Before
    decide

end Fragment.Diagnostic
