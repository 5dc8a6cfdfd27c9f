import Fragment.Skeleton
/-!
Templates and the skeletons they stand for. Tokens have one written form, so a template is a skeleton
just if it is the escaped text before the gap, the gap, and the escaped text after it.
-/
namespace Fragment

theorem except_bind_ok {ε α β : Type} {x : Except ε α} {f : α → Except ε β} {b : β}
    (done : x >>= f = .ok b) : ∃ a, x = .ok a ∧ f a = .ok b := by
  cases x with
  | error fault => cases done
  | ok a => exact ⟨a, rfl, done⟩

namespace Template

theorem write_append (a b : List Token) : write (a ++ b) = write a ++ write b := by
  induction a with
  | nil => rfl
  | cons t rest ih =>
    cases t with
    | gap => simp [write, ih]
    | plain c => by_cases percent : c = '%' <;> simp [write, percent, ih]

theorem escape_flat (text : List Char) :
    escape text = text.flatMap fun c => if c = '%' then ['%', '%'] else [c] := by
  induction text with
  | nil => rfl
  | cons c rest ih =>
    rw [List.flatMap_cons, ← ih]
    by_cases percent : c = '%' <;> simp [escape, write, percent]

theorem tokens_plain (offset : Nat) (c : Char) (rest : List Char) (other : c ≠ '%') :
    tokens offset (c :: rest) =
      (do return .plain c :: (← tokens (offset + c.utf8Size) rest)) := by
  rw [tokens]
  all_goals simp [other]

theorem tokens_write (offset : Nat) (ts : List Token) : tokens offset (write ts) = .ok ts := by
  induction ts generalizing offset with
  | nil => rfl
  | cons t rest ih =>
    cases t with
    | gap =>
      rw [write, tokens, ih]
      rfl
    | plain c =>
      by_cases percent : c = '%'
      · rw [write, if_pos percent, tokens, ih, percent]
        rfl
      · rw [write, if_neg percent, tokens_plain offset c _ percent, ih]
        rfl

theorem not_percent (c : Char) (rest : List Char)
    (lone : ∀ d more, c = '%' → rest = d :: more → False) (last : c = '%' → rest = [] → False) :
    c ≠ '%' := by
  intro percent
  cases rest with
  | nil => exact last percent rfl
  | cons d more => exact lone d more percent rfl

theorem tokens_written (offset : Nat) (text : List Char) (ts : List Token)
    (read : tokens offset text = .ok ts) : write ts = text := by
  fun_induction tokens offset text generalizing ts with
  | case1 offset =>
    cases read
    rfl
  | case2 offset rest ih =>
    obtain ⟨more, later, made⟩ := except_bind_ok read
    cases made
    rw [write, if_pos rfl, ih more later]
  | case3 offset rest ih =>
    obtain ⟨more, later, made⟩ := except_bind_ok read
    cases made
    rw [write, ih more later]
  | case4 | case5 => cases read
  | case6 offset c rest paired gapped lone last ih =>
    obtain ⟨more, later, made⟩ := except_bind_ok read
    cases made
    rw [write, if_neg (not_percent c rest lone last), ih more later]

theorem tokens_ok_iff (offset : Nat) (text : List Char) (ts : List Token) :
    tokens offset text = .ok ts ↔ text = write ts := by
  constructor
  · exact fun read => (tokens_written offset text ts read).symm
  · rintro rfl
    exact tokens_write offset ts

theorem write_gapped (before after : List Char) :
    write (before.map .plain ++ .gap :: after.map .plain) =
      escape before ++ '%' :: 's' :: escape after :=
  write_append _ _

theorem plain_text_plain (text : List Char) : plainText (text.map .plain) = text := by
  induction text with
  | nil => rfl
  | cons c rest ih => simpa [plainText, Token.plain?] using ih

theorem gapless_plain (ts : List Token) (gapless : ts.countP isGap = 0) :
    (plainText ts).map .plain = ts := by
  induction ts with
  | nil => rfl
  | cons t rest ih =>
    cases t with
    | gap => simp [isGap] at gapless
    | plain c =>
      rw [List.countP_cons_of_neg (by simp [isGap])] at gapless
      have tail := ih gapless
      simpa [plainText, Token.plain?] using tail

theorem count_plain (text : List Char) : (text.map Token.plain).countP isGap = 0 := by
  simp [List.countP_eq_zero, isGap]

theorem count_gapped (before after : List Char) :
    (before.map Token.plain ++ Token.gap :: after.map Token.plain).countP isGap = 1 := by
  rw [List.countP_append, List.countP_cons_of_pos rfl, count_plain, count_plain]

theorem before_gap (before : List Char) (rest : List Token) :
    (before.map Token.plain ++ .gap :: rest).takeWhile (!isGap ·) = before.map .plain := by
  rw [List.takeWhile_append_of_pos (by simp [isGap]), List.takeWhile_cons_of_neg (by simp [isGap]),
    List.append_nil]

theorem from_gap (before : List Char) (rest : List Token) :
    (before.map Token.plain ++ .gap :: rest).dropWhile (!isGap ·) = .gap :: rest := by
  rw [List.dropWhile_append_of_pos (by simp [isGap]), List.dropWhile_cons_of_neg (by simp [isGap])]

theorem one_gap (ts : List Token) (one : ts.countP isGap = 1) :
    ∃ before after : List Char, ts = before.map .plain ++ .gap :: after.map .plain := by
  induction ts with
  | nil => contradiction
  | cons t rest ih =>
    cases t with
    | gap =>
      rw [List.countP_cons_of_pos rfl] at one
      exact ⟨[], plainText rest, by rw [gapless_plain rest (by omega)]; rfl⟩
    | plain c =>
      rw [List.countP_cons_of_neg (by simp [isGap])] at one
      obtain ⟨before, after, rfl⟩ := ih one
      exact ⟨c :: before, after, rfl⟩

def doubled (text : String) : String :=
  String.ofList (text.toList.flatMap fun c => if c = '%' then ['%', '%'] else [c])

theorem doubled_gapped (before after : String) :
    (doubled before ++ "%s" ++ doubled after).toList =
      write (before.toList.map .plain ++ .gap :: after.toList.map .plain) := by
  have gap : "%s".toList = ['%', 's'] := rfl
  rw [write_gapped, escape_flat, escape_flat]
  simp only [doubled, String.toList_append, String.toList_ofList, gap, List.append_assoc,
    List.cons_append, List.nil_append]

end Template

namespace Skeleton

theorem parse_gapped (unit template : String) (before after : List Char)
    (written : template.toList = Template.write (before.map .plain ++ .gap :: after.map .plain)) :
    parse unit template = .ok ⟨unit, String.ofList before, String.ofList after⟩ := by
  have read := (Template.tokens_ok_iff 0 _ _).mpr written
  have text : Template.plainText (.gap :: after.map .plain) = after := Template.plain_text_plain after
  rw [parse, read]
  dsimp only [bind, Except.bind]
  rw [if_pos (Template.count_gapped before after), Template.before_gap, Template.from_gap,
    Template.plain_text_plain, text]
  rfl

theorem parse_ok_iff (unit template : String) (skeleton : Skeleton) :
    parse unit template = .ok skeleton ↔ skeleton.unit = unit ∧
      template = Template.doubled skeleton.before ++ "%s" ++ Template.doubled skeleton.after := by
  constructor
  · intro parsed
    obtain ⟨ts, read, rest⟩ := except_bind_ok parsed
    have written := (Template.tokens_ok_iff 0 _ ts).mp read
    by_cases one : ts.countP Template.isGap = 1
    · obtain ⟨before, after, rfl⟩ := Template.one_gap ts one
      obtain rfl := Except.ok.inj ((parse_gapped unit template before after written).symm.trans parsed)
      refine ⟨rfl, ?_⟩
      rw [← String.toList_inj, Template.doubled_gapped, String.toList_ofList, String.toList_ofList]
      exact written
    · rw [if_neg one] at rest
      cases rest
  · rintro ⟨rfl, rfl⟩
    have parsed := parse_gapped skeleton.unit _ _ _
      (Template.doubled_gapped skeleton.before skeleton.after)
    rwa [String.ofList_toList, String.ofList_toList] at parsed

theorem parse_accepts_escaped (unit : String) :
    (∀ before after : String, ∃ skeleton,
      parse unit (Template.doubled before ++ "%s" ++ Template.doubled after) = .ok skeleton ∧
        ∀ statements, skeleton.expand statements = ⟨unit, before ++ statements ++ after⟩) ∧
    ∀ template skeleton, parse unit template = .ok skeleton → ∃ before after,
      template = Template.doubled before ++ "%s" ++ Template.doubled after ∧
        (∀ before' after',
          template = Template.doubled before' ++ "%s" ++ Template.doubled after' →
            before' = before ∧ after' = after) ∧
        ∀ statements, skeleton.expand statements = ⟨unit, before ++ statements ++ after⟩ := by
  refine ⟨fun before after => ⟨⟨unit, before, after⟩, ?_, fun _ => rfl⟩, ?_⟩
  · exact (parse_ok_iff unit _ ⟨unit, before, after⟩).mpr ⟨rfl, rfl⟩
  · intro template skeleton parsed
    obtain ⟨named, written⟩ := (parse_ok_iff unit template skeleton).mp parsed
    refine ⟨skeleton.before, skeleton.after, written, ?_, fun _ => by rw [← named]; rfl⟩
    intro before' after' same
    have again := (parse_ok_iff unit template ⟨unit, before', after'⟩).mpr ⟨rfl, same⟩
    obtain rfl := Except.ok.inj (again.symm.trans parsed)
    exact ⟨rfl, rfl⟩

theorem crowded_template_parsed :
    parse "Main" "%%%%%s%%s" = .ok ⟨"Main", "%%", "%s"⟩ ∧
      ∃ before after, "%%%%%s%%s" = Template.doubled before ++ "%s" ++ Template.doubled after ∧
        ∀ statements,
          expand ⟨"Main", "%%", "%s"⟩ statements = ⟨"Main", before ++ statements ++ after⟩ := by
  have parsed : parse "Main" "%%%%%s%%s" = .ok ⟨"Main", "%%", "%s"⟩ := rfl
  obtain ⟨before, after, written, -, spliced⟩ := (parse_accepts_escaped "Main").2 _ _ parsed
  exact ⟨parsed, before, after, written, spliced⟩

end Skeleton

theorem skeleton_parse_unit (unit template : String) (skeleton : Skeleton)
    (parsed : Skeleton.parse unit template = .ok skeleton) : skeleton.unit = unit :=
  ((Skeleton.parse_ok_iff unit template skeleton).mp parsed).1

end Fragment
