import Fragment.Proofs.Diagnostic.Lead
import Fragment.Proofs.Diagnostic.Stream
/-!
The line that a compiler prints above what it says about a function. It has the shape of a linker's
line, so only the end of the unit's name keeps it from being read as one.
-/
namespace Fragment

namespace Text

def blankPoints : List Nat :=
  [9, 10, 11, 12, 13, 0x20, 0x85, 0xA0, 0x1680, 0x2000, 0x2001, 0x2002, 0x2003, 0x2004, 0x2005,
    0x2006, 0x2007, 0x2008, 0x2009, 0x200A, 0x2028, 0x2029, 0x202F, 0x205F, 0x3000]

theorem blank_listed (c : Char) (blank : isBlank c = true) : c.toNat ∈ blankPoints := by
  simp only [isBlank, Bool.or_eq_true, Bool.and_eq_true, decide_eq_true_eq, beq_iff_eq] at blank
  simp only [blankPoints, List.mem_cons, List.not_mem_nil, or_false]
  omega

theorem blank_no_word (c : Char) (blank : isBlank c = true) : isWord c = false := by
  have wordless : ∀ n ∈ blankPoints, isWord (Char.ofNat n) = false := by
    decide +kernel
  have known := wordless c.toNat (blank_listed c blank)
  rwa [Char.ofNat_toNat] at known

end Text

def functionHeader (unit : SourceUnit) (function : String) : String :=
  unit.fileName ++ ": In function '" ++ function ++ "':"

namespace Diagnostic

theorem word_name (name : List Char) (something : name ≠ [])
    (words : ∀ c ∈ name, Text.isWord c = true) : IsName name := by
  refine ⟨something, ?_⟩
  intro c member
  have word := words c member
  constructor
  · intro colon
    rw [colon] at word
    exact absurd word (by decide)
  · cases blank : Text.isBlank c with
    | false => rfl
    | true =>
      rw [Text.blank_no_word c blank] at word
      contradiction

theorem file_chars (unit : SourceUnit) : unit.fileName.toList = unit.name.toList ++ ['.', 'c'] := by
  have point : ".".toList = ['.'] := rfl
  have extension : "c".toList = ['c'] := rfl
  rw [SourceUnit.fileName, UnitKind.fileName, SourceUnit.kind, UnitKind.extension,
    String.toList_append, String.toList_append, point, extension, List.append_assoc]
  rfl

theorem file_named (unit : SourceUnit) (named : IsName unit.name.toList) :
    IsName unit.fileName.toList := by
  have ending : ∀ c ∈ ['.', 'c'], c ≠ ':' ∧ Text.isBlank c = false := by simp [Text.isBlank]
  obtain ⟨something, solid⟩ := named
  rw [file_chars]
  refine ⟨List.append_ne_nil_of_left_ne_nil something _, ?_⟩
  intro c member
  rcases List.mem_append.mp member with inside | behind
  · exact solid c inside
  · exact ending c behind

def headerRest (function : String) : List Char :=
  "In function '".toList ++ function.toList ++ "':".toList

theorem header_shape (unit : SourceUnit) (function : String) :
    (functionHeader unit function).toList =
      unit.fileName.toList ++ ':' :: ' ' :: headerRest function := by
  have start : ": In function '".toList = ':' :: ' ' :: "In function '".toList := by decide
  have grouped : ∀ file start function ending : List Char,
      file ++ ':' :: ' ' :: start ++ function ++ ending =
        file ++ ':' :: ' ' :: (start ++ function ++ ending) := by
    simp
  calc
    (functionHeader unit function).toList =
        unit.fileName.toList ++ ": In function '".toList ++ function.toList ++ "':".toList := by
      rw [functionHeader, String.toList_append, String.toList_append, String.toList_append]
    _ = unit.fileName.toList ++ ':' :: ' ' :: "In function '".toList ++ function.toList ++
        "':".toList :=
      congrArg (unit.fileName.toList ++ · ++ function.toList ++ "':".toList) start
    _ = unit.fileName.toList ++ ':' :: ' ' :: headerRest function := grouped _ _ _ _

-- No word that announces a severity begins with the letter that stands there.
theorem header_unannounced (function : String) : severity? (headerRest function) = none := by
  have start : "In function '".toList = 'I' :: "n function '".toList := by decide
  have led : headerRest function = 'I' :: ("n function '".toList ++ function.toList ++ "':".toList) :=
    congrArg (· ++ function.toList ++ "':".toList) start
  rw [led]
  rfl

theorem header_trimmed (unit : SourceUnit) (function : String) :
    Text.trimEnd (functionHeader unit function).toList = (functionHeader unit function).toList := by
  apply Text.trim_end_self
  intro c last
  have ending : "':".toList = ['\'', ':'] := by decide
  rw [functionHeader, String.toList_append, ending, List.getLast?_append] at last
  obtain rfl : ':' = c := Option.some.inj last
  decide

theorem header_read (unit : SourceUnit) (function : String) (named : IsName unit.name.toList) :
    ofLine? (functionHeader unit function).toList =
      if isLinker unit.fileName.toList then some (.ofMessage (functionHeader unit function))
      else none := by
  have filed := file_named unit named
  have solid : ∀ c ∈ unit.fileName.toList, Text.isBlank c = false := fun c member =>
    (filed.2 c member).2
  obtain ⟨no_position, no_section⟩ := tool_text unit.fileName.toList (headerRest function) filed
  have no_tool := tool_rest unit.fileName.toList (headerRest function) filed
  rw [header_unannounced, Option.map_none] at no_tool
  rw [ofLine?, header_trimmed, header_shape, no_position, no_tool, no_section]
  show ofLinker? _ = _
  by_cases linker : isLinker unit.fileName.toList = true
  · rw [if_pos linker]
    refine (linker_iff _ _).mpr ⟨unit.fileName.toList, headerRest function, solid, linker, rfl, ?_⟩
    rw [← String.ofList_toList (s := functionHeader unit function), header_shape]
    simp
  · rw [if_neg linker, Option.eq_none_iff_forall_ne_some]
    intro d read
    obtain ⟨name, message, lined⟩ := (linker_iff _ d).mp read
    obtain ⟨rfl, -⟩ := solid_name_unique unit.fileName.toList name _ message solid lined.solid
      lined.written
    exact linker lined.linker

def EndsInLd (name : List Char) : Prop :=
  ∃ front, name = front ++ ['l', 'd'] ∧ ∀ c, front.getLast? = some c → Text.isWord c = false

-- The extension of a source file is one that a linker's name may have behind `ld`.
theorem source_linker_iff (name : List Char) :
    isLinker (name ++ ['.', 'c']) = true ↔ EndsInLd name := by
  have extension : ∀ c ∈ ['c'], Text.isWord c = true := List.all_eq_true.mp rfl
  rw [linker_ends_iff]
  constructor
  · intro ends
    obtain ⟨front, tail, shape, rfl | ⟨run, something, words, rfl⟩, bare⟩ := ends
    · have last := congrArg List.getLast? shape
      simp at last
    · have back : ['c'] ++ '.' :: name.reverse =
          run.reverse ++ '.' :: (front ++ ['l', 'd']).reverse := by
        simpa using congrArg List.reverse shape
      obtain ⟨-, same⟩ := Text.cut_unique Text.isWord '.' (by decide) _ _ _ _ extension
        (by simpa using words) back
      exact ⟨front, List.reverse_inj.mp same, bare⟩
  · intro ends
    obtain ⟨front, rfl, bare⟩ := ends
    exact ⟨front, ['.', 'c'], by simp, .inr ⟨['c'], by simp, extension, rfl⟩, bare⟩

structure IsIdentifier (name : String) : Prop where
  led : ∃ first, name.toList.head? = some first ∧ Text.isDigit first = false
  words : ∀ c ∈ name.toList, Text.isWord c = true

theorem identifier_named (name : String) (identifier : IsIdentifier name) : IsName name.toList := by
  apply word_name name.toList
  · intro empty
    obtain ⟨first, led, -⟩ := identifier.led
    rw [empty] at led
    contradiction
  · exact identifier.words

theorem identifier_linker_iff (name : String) (identifier : IsIdentifier name) :
    EndsInLd name.toList ↔ name = "ld" := by
  have letters : "ld".toList = ['l', 'd'] := rfl
  constructor
  · intro ends
    obtain ⟨front, shape, bare⟩ := ends
    rw [← String.toList_inj, letters, shape]
    cases last : front.getLast? with
    | none => rw [List.getLast?_eq_none_iff.mp last, List.nil_append]
    | some c =>
      have member : c ∈ name.toList := by
        rw [shape]
        exact List.mem_append_left _ (List.mem_of_getLast? last)
      have word := identifier.words c member
      rw [bare c last] at word
      contradiction
  · intro named
    rw [named]
    exact ⟨[], letters, by simp⟩

theorem header_bare (unit : SourceUnit) (function : String) (named : IsName unit.name.toList)
    (bare : '\n' ∉ function.toList) : '\n' ∉ (functionHeader unit function).toList := by
  have start : '\n' ∉ ": In function '".toList := by decide
  have ending : '\n' ∉ "':".toList := by decide
  have filed : '\n' ∉ unit.fileName.toList := by
    intro member
    exact absurd ((file_named unit named).2 '\n' member).2 (by decide)
  rw [functionHeader, String.toList_append, String.toList_append, String.toList_append]
  intro member
  rcases List.mem_append.mp member with member | inside
  · rcases List.mem_append.mp member with member | inside
    · rcases List.mem_append.mp member with inside | inside
      · exact filed inside
      · exact start inside
    · exact bare inside
  · exact ending inside

theorem header_parsed (unit : SourceUnit) (function : String) (named : IsName unit.name.toList)
    (bare : '\n' ∉ function.toList) :
    (EndsInLd unit.name.toList →
      parse (functionHeader unit function) = [.ofMessage (functionHeader unit function)]) ∧
    (¬ EndsInLd unit.name.toList → parse (functionHeader unit function) = []) := by
  have read := header_read unit function named
  rw [file_chars] at read
  rw [parse, of_text_run _ (header_bare unit function named bare), ← source_linker_iff]
  constructor
  · intro linker
    rw [read, if_pos linker]
    rfl
  · intro other
    rw [read, if_neg other]
    rfl

end Diagnostic
end Fragment
