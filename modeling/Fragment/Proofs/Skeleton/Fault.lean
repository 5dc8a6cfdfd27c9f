import Mathlib.Data.List.Infix
import Fragment.Proofs.Skeleton
/-!
Which templates are refused, and with what. Reading goes on token by token, so it stops behind the
longest start that is made of tokens, at a per cent sign; a template that has no such place is
refused only for the number of its gaps.
-/
namespace Fragment

namespace Template

def size (text : List Char) : Nat := (String.ofList text).utf8ByteSize

theorem size_string (text : String) : size text.toList = text.utf8ByteSize := by
  rw [size, String.ofList_toList]

theorem size_append (a b : List Char) : size (a ++ b) = size a + size b := by
  rw [size, String.ofList_append, String.utf8ByteSize_append]
  rfl

theorem size_prefix (a b : List Char) (start : a <+: b) : size a ≤ size b := by
  obtain ⟨rest, rfl⟩ := start
  rw [size_append]
  exact Nat.le_add_right _ _

theorem size_cons (c : Char) (text : List Char) : size (c :: text) = c.utf8Size + size text := by
  have single : size [c] = c.utf8Size := by
    rw [size, ← String.toList_singleton, String.ofList_toList, String.utf8ByteSize_singleton]
  rw [← List.singleton_append, size_append, single]

-- Behind a per cent sign: nothing that makes a token of it.
structure Stops (rest : List Char) : Prop where
  unescaped : rest.head? ≠ some '%'
  gapless : rest.head? ≠ some 's'

theorem tokens_stopped (offset : Nat) (rest : List Char) (stops : Stops rest) :
    tokens offset ('%' :: rest) = .error (.malformed (rest.headD ' ') offset) := by
  cases rest with
  | nil => rfl
  | cons c more =>
    have other : c ≠ '%' := fun same => stops.unescaped (congrArg some same)
    have solid : c ≠ 's' := fun same => stops.gapless (congrArg some same)
    rw [tokens]
    · rfl
    all_goals simp [other, solid]

theorem tokens_stuck (offset : Nat) (ts : List Token) (rest : List Char) (stops : Stops rest) :
    tokens offset (write ts ++ '%' :: rest) =
      .error (.malformed (rest.headD ' ') (offset + size (write ts))) := by
  induction ts generalizing offset with
  | nil => exact tokens_stopped offset rest stops
  | cons t more ih =>
    cases t with
    | gap =>
      have octets : size (write (.gap :: more)) = 2 + size (write more) := by
        rw [write, size_cons, size_cons, ← Nat.add_assoc]
        rfl
      rw [octets, ← Nat.add_assoc, write, List.cons_append, List.cons_append, tokens, ih]
      rfl
    | plain c =>
      by_cases percent : c = '%'
      · have octets : size (write (.plain c :: more)) = 2 + size (write more) := by
          rw [write, if_pos percent, size_cons, size_cons, ← Nat.add_assoc]
          rfl
        rw [octets, ← Nat.add_assoc, write, if_pos percent, List.cons_append, List.cons_append,
          tokens, ih]
        rfl
      · rw [write, if_neg percent, size_cons, ← Nat.add_assoc, List.cons_append,
          tokens_plain offset c _ percent, ih]
        rfl

theorem token_before_error (t : Token) (read : Except TemplateFault (List Token))
    (fault : TemplateFault) (refused : (do return t :: (← read)) = .error fault) :
    read = .error fault := by
  cases read with
  | error other => exact refused
  | ok ts => contradiction

theorem tokens_refused (offset : Nat) (text : List Char) (fault : TemplateFault)
    (refused : tokens offset text = .error fault) :
    ∃ ts rest, text = write ts ++ '%' :: rest ∧ Stops rest := by
  fun_induction tokens offset text with
  | case1 offset => contradiction
  | case2 offset rest ih =>
    obtain ⟨ts, behind, rfl, stops⟩ := ih (token_before_error _ _ fault refused)
    exact ⟨.plain '%' :: ts, behind, rfl, stops⟩
  | case3 offset rest ih =>
    obtain ⟨ts, behind, rfl, stops⟩ := ih (token_before_error _ _ fault refused)
    exact ⟨.gap :: ts, behind, rfl, stops⟩
  | case4 offset c rest other solid =>
    refine ⟨[], c :: rest, rfl, ?_, ?_⟩
    · intro same
      exact other (Option.some.inj same)
    · intro same
      exact solid (Option.some.inj same)
  | case5 offset => exact ⟨[], [], rfl, by simp, by simp⟩
  | case6 offset c rest paired gapped lone last ih =>
    obtain ⟨ts, behind, shape, stops⟩ := ih (token_before_error _ _ fault refused)
    refine ⟨.plain c :: ts, behind, ?_, stops⟩
    rw [write, if_neg (not_percent c rest lone last), shape]
    rfl

theorem tokens_error_iff (offset : Nat) (text : List Char) (fault : TemplateFault) :
    tokens offset text = .error fault ↔ ∃ ts rest, text = write ts ++ '%' :: rest ∧ Stops rest ∧
      fault = .malformed (rest.headD ' ') (offset + size (write ts)) := by
  constructor
  · intro refused
    obtain ⟨ts, rest, rfl, stops⟩ := tokens_refused offset text fault refused
    rw [tokens_stuck offset ts rest stops] at refused
    exact ⟨ts, rest, rfl, stops, (Except.error.inj refused).symm⟩
  · intro stuck
    obtain ⟨ts, rest, rfl, stops, rfl⟩ := stuck
    exact tokens_stuck offset ts rest stops

theorem stops_front (front behind : List Char) (stops : Stops (front ++ behind)) : Stops front := by
  cases front with
  | nil => exact ⟨by simp, by simp⟩
  | cons c more => exact ⟨stops.unescaped, stops.gapless⟩

theorem written_before_stop (ts other : List Token) (rest : List Char) (stops : Stops rest)
    (start : write other <+: write ts ++ '%' :: rest) : write other <+: write ts := by
  by_cases within : (write other).length ≤ (write ts).length
  · exact List.prefix_of_prefix_length_le start (List.prefix_append _ _) within
  · obtain ⟨extra, longer⟩ := List.prefix_of_prefix_length_le (List.prefix_append _ _) start
      (Nat.le_of_not_le within)
    rw [← longer, List.prefix_append_right_inj] at start
    cases extra with
    | nil =>
      rw [← longer, List.append_nil] at within
      exact absurd (Nat.le_refl _) within
    | cons c more =>
      obtain ⟨behind, same⟩ := start
      obtain ⟨rfl, rfl⟩ := List.cons.inj same
      have refused := tokens_stuck 0 ts more (stops_front more behind stops)
      rw [longer, tokens_write] at refused
      contradiction

def Tokenized (text : String) : Prop := ∃ ts, text.toList = write ts

-- The longest start of the template that is made of tokens, and the character behind the per cent
-- sign that stands there, or a space if none does.
structure Stuck (template read : String) (found : Char) : Prop where
  tokenized : Tokenized read
  longest : ∀ start, Tokenized start → start.toList <+: template.toList →
    start.utf8ByteSize ≤ read.utf8ByteSize
  stopped : ∃ rest, template = read ++ "%" ++ rest ∧ found = rest.toList.headD ' '

theorem tokenized_append (front back : String) (ts : List Token) (tokenized : Tokenized front)
    (written : back.toList = write ts) : Tokenized (front ++ back) := by
  obtain ⟨before, written'⟩ := tokenized
  exact ⟨before ++ ts, by rw [String.toList_append, write_append, written, written']⟩

theorem stuck_stops (read rest : String) (tokenized : Tokenized read)
    (longest : ∀ start, Tokenized start → start.toList <+: (read ++ "%" ++ rest).toList →
      start.utf8ByteSize ≤ read.utf8ByteSize) : Stops rest.toList := by
  have short : ∀ (c : Char) (t : Token), write [t] = ['%', c] → rest.toList.head? ≠ some c := by
    intro c t written next
    obtain ⟨more, shape⟩ := List.head?_eq_some_iff.mp next
    have token : (String.ofList ['%', c]).toList = write [t] := by rw [written, String.toList_ofList]
    have longer := longest (read ++ String.ofList ['%', c])
      (tokenized_append read _ [t] tokenized token) ⟨more, by simp [shape]⟩
    rw [String.utf8ByteSize_append, ← size, size_cons] at longer
    have sign : '%'.utf8Size = 1 := rfl
    omega
  exact ⟨short '%' (.plain '%') rfl, short 's' .gap rfl⟩

end Template

namespace Skeleton

theorem parse_unread (unit template : String) (fault : TemplateFault)
    (refused : Template.tokens 0 template.toList = .error fault) :
    parse unit template = .error fault := by
  rw [parse, refused]
  rfl

theorem parse_ungapped (unit template : String) (ts : List Template.Token)
    (written : template.toList = Template.write ts) (other : ts.countP Template.isGap ≠ 1) :
    parse unit template = .error (.gaps (ts.countP Template.isGap)) := by
  rw [parse, (Template.tokens_ok_iff 0 _ ts).mpr written]
  exact if_neg other

theorem parse_one_gap (unit template : String) (ts : List Template.Token)
    (written : template.toList = Template.write ts) (one : ts.countP Template.isGap = 1) :
    ∃ skeleton, parse unit template = .ok skeleton := by
  obtain ⟨before, after, rfl⟩ := Template.one_gap ts one
  exact ⟨_, parse_gapped unit template before after written⟩

theorem parse_counts (unit template : String) (ts : List Template.Token)
    (written : template.toList = Template.write ts) :
    (∀ n, parse unit template = .error (.gaps n) ↔ n = ts.countP Template.isGap ∧ n ≠ 1) ∧
      ((∃ skeleton, parse unit template = .ok skeleton) ↔ ts.countP Template.isGap = 1) := by
  by_cases one : ts.countP Template.isGap = 1
  · obtain ⟨skeleton, parsed⟩ := parse_one_gap unit template ts written one
    rw [parsed, one]
    refine ⟨?_, by simp⟩
    intro n
    constructor
    · intro refused
      contradiction
    · intro counted
      exact absurd counted.1 counted.2
  · rw [parse_ungapped unit template ts written one]
    refine ⟨?_, by simp [one]⟩
    intro n
    constructor
    · intro refused
      obtain rfl := TemplateFault.gaps.inj (Except.error.inj refused)
      exact ⟨rfl, one⟩
    · intro counted
      rw [counted.1]

theorem parse_malformed_iff (unit template : String) (found : Char) (offset : Nat) :
    parse unit template = .error (.malformed found offset) ↔
      Template.tokens 0 template.toList = .error (.malformed found offset) := by
  constructor
  · intro refused
    cases read : Template.tokens 0 template.toList with
    | error fault =>
      rw [parse_unread unit template fault read] at refused
      exact congrArg _ (Except.error.inj refused)
    | ok ts =>
      have written := (Template.tokens_ok_iff 0 _ ts).mp read
      by_cases one : ts.countP Template.isGap = 1
      · obtain ⟨skeleton, parsed⟩ := parse_one_gap unit template ts written one
        rw [parsed] at refused
        contradiction
      · rw [parse_ungapped unit template ts written one] at refused
        cases Except.error.inj refused
  · exact parse_unread unit template _

theorem malformed_stuck_iff (template : String) (found : Char) (offset : Nat) :
    Template.tokens 0 template.toList = .error (.malformed found offset) ↔
      ∃ read, Template.Stuck template read found ∧ offset = read.utf8ByteSize := by
  rw [Template.tokens_error_iff]
  constructor
  · intro refused
    obtain ⟨ts, rest, shape, stops, same⟩ := refused
    obtain ⟨rfl, rfl⟩ := TemplateFault.malformed.inj same
    refine ⟨String.ofList (Template.write ts), ⟨⟨ts, String.toList_ofList⟩, ?_, ?_⟩, ?_⟩
    · intro start tokenized begins
      obtain ⟨other, written⟩ := tokenized
      rw [shape, written] at begins
      have within := Template.written_before_stop ts other rest stops begins
      rw [← Template.size_string, written]
      exact Template.size_prefix _ _ within
    · exact ⟨String.ofList rest, by simp [← String.toList_inj, shape], by simp⟩
    · exact Nat.zero_add _
  · intro stuck
    obtain ⟨read, ⟨tokenized, longest, rest, rfl, rfl⟩, rfl⟩ := stuck
    have stops := Template.stuck_stops read rest tokenized longest
    obtain ⟨ts, written⟩ := tokenized
    refine ⟨ts, rest.toList, by simp [← written], stops, ?_⟩
    rw [← written, Template.size_string, Nat.zero_add]

theorem untokenized_iff (unit template : String) :
    ¬ Template.Tokenized template ↔
      ∃ found offset, parse unit template = .error (.malformed found offset) := by
  constructor
  · intro unread
    cases read : Template.tokens 0 template.toList with
    | ok ts => exact absurd ⟨ts, (Template.tokens_ok_iff 0 _ ts).mp read⟩ unread
    | error fault =>
      obtain ⟨ts, rest, -, -, rfl⟩ := (Template.tokens_error_iff 0 _ fault).mp read
      exact ⟨_, _, parse_unread unit template _ read⟩
  · intro refused tokenized
    obtain ⟨found, offset, refused⟩ := refused
    obtain ⟨ts, written⟩ := tokenized
    rw [parse_malformed_iff, (Template.tokens_ok_iff 0 _ ts).mpr written] at refused
    contradiction

theorem parse_refused_exactly (unit template : String) :
    (¬ Template.Tokenized template ↔
      ∃ found offset, parse unit template = .error (.malformed found offset)) ∧
    (∀ found offset, parse unit template = .error (.malformed found offset) ↔
      ∃ read, Template.Stuck template read found ∧ offset = read.utf8ByteSize) ∧
    ∀ ts, template.toList = Template.write ts →
      (∀ n, parse unit template = .error (.gaps n) ↔
        n = ts.countP Template.isGap ∧ n ≠ 1) ∧
      ((∃ skeleton, parse unit template = .ok skeleton) ↔ ts.countP Template.isGap = 1) := by
  refine ⟨untokenized_iff unit template, ?_, ?_⟩
  · intro found offset
    rw [parse_malformed_iff, malformed_stuck_iff]
  · exact parse_counts unit template

-- Octets of a longer character before the place, more gaps than one on both sides of it; and a
-- doubled sign that takes the sign of a gap away.
theorem crowded_template_refused :
    parse "Main" "é%%%s%é%s%s" = .error (.malformed 'é' 6) ∧
      ¬ Template.Tokenized "é%%%s%é%s%s" ∧
      (∃ read, Template.Stuck "é%%%s%é%s%s" read 'é' ∧ 6 = read.utf8ByteSize) ∧
      parse "Main" "%%s%s%s" = .error (.gaps 2) := by
  obtain ⟨unread, stuck, -⟩ := parse_refused_exactly "Main" "é%%%s%é%s%s"
  obtain ⟨-, -, counted⟩ := parse_refused_exactly "Main" "%%s%s%s"
  have refused : parse "Main" "é%%%s%é%s%s" = .error (.malformed 'é' 6) := rfl
  have gaps := (counted [.plain '%', .plain 's', .gap, .gap] rfl).1 2
  exact ⟨refused, unread.mpr ⟨_, _, refused⟩, (stuck _ _).mp refused, gaps.mpr ⟨rfl, by decide⟩⟩

end Skeleton
end Fragment
