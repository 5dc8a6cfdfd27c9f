import Fragment.Command.Options
import Fragment.Proofs.Skeleton
/-!
The words of a command line and what they give. `Spells` is the grammar of the lines that are
accepted; what such a line gives, in order, is all that is gathered from it.
-/
namespace Fragment.Command

namespace Options

inductive Given where
  | value (option : Valued) (text : String)
  | plain (option : Plain)
  | statements (text : String)
deriving DecidableEq, Repr

-- Short options in one word; the last of them may wait for the next word as its value.
inductive Cluster : List Char → List Given → Option Valued → Prop where
  | done : Cluster [] [] none
  | verbose {rest : List Char} {given : List Given} {pending : Option Valued}
      (more : Cluster rest given pending) :
      Cluster ('v' :: rest) (.plain .verbose :: given) pending
  | waiting : Cluster ['f'] [] (some .file)
  | joined (value : List Char) :
      Cluster ('f' :: '=' :: value) [.value .file (String.ofList value)] none
  | attached (c : Char) (more : List Char) (other : c ≠ '=') :
      Cluster ('f' :: c :: more) [.value .file (String.ofList (c :: more))] none

-- A word that is no option's value, what it gives, and the option that waits behind it.
inductive Word (text : String) : List Given → Option Valued → Prop where
  | statements (bare : ∀ c more, text.toList ≠ '-' :: c :: more) : Word text [.statements text] none
  | plain (name : String) (option : Plain) (listed : (name, option) ∈ plainLong)
      (shape : text = "--" ++ name) : Word text [.plain option] none
  | waiting (name : String) (option : Valued) (listed : (name, option) ∈ valuedLong)
      (shape : text = "--" ++ name) : Word text [] (some option)
  | joined (name value : String) (option : Valued) (listed : (name, option) ∈ valuedLong)
      (shape : text = "--" ++ name ++ "=" ++ value) : Word text [.value option value] none
  | short (c : Char) (more : List Char) (other : c ≠ '-') (shape : text.toList = '-' :: c :: more)
      (given : List Given) (pending : Option Valued) (cluster : Cluster (c :: more) given pending) :
      Word text given pending

-- The rest of a line, behind an option that waits for its value or behind none.
inductive Spells : Option Valued → List String → List Given → Prop where
  | done : Spells none [] []
  | rest (arguments : List String) : Spells none ("--" :: arguments) []
  | word {text : String} {line : List String} {given later : List Given} {pending : Option Valued}
      (own : Word text given pending) (more : Spells pending line later) :
      Spells none (text :: line) (given ++ later)
  | value {text : String} {line : List String} {later : List Given} (option : Valued)
      (fits : mayFollow option text = true) (ended : text = "--" → option = .flag)
      (more : Spells none line later) :
      Spells (some option) (text :: line) (.value option text :: later)

def Given.flag? : Given → Option String
  | .value .flag text => some text
  | _ => none

-- What of the second options the given things put there, and what of it was in the first.
structure Gathers (o : Options) (given : List Given) (o' : Options) : Prop where
  flags : o'.flags = o.flags ++ given.filterMap Given.flag?
  compiler : ∀ path, o'.compiler = some path ↔
    o.compiler = some path ∨ ∃ text, .value .compiler text ∈ given ∧ path = Octets.ofString text
  template : ∀ path, o'.template = some path ↔
    o.template = some path ∨ ∃ text, .value .template text ∈ given ∧ path = Octets.ofString text
  privateDir : o'.privateDir = true ↔ o.privateDir = true ∨ .plain .privateDir ∈ given

theorem gathers_none (o : Options) : Gathers o [] o :=
  ⟨by simp, by simp, by simp, by simp⟩

theorem gathers_append (a b c : Options) (first second : List Given) (one : Gathers a first b)
    (two : Gathers b second c) : Gathers a (first ++ second) c := by
  refine ⟨?_, fun path => ?_, fun path => ?_, ?_⟩
  · rw [two.flags, one.flags, List.filterMap_append, List.append_assoc]
  · rw [two.compiler, one.compiler, or_assoc, ← exists_or]
    simp only [List.mem_append, or_and_right]
  · rw [two.template, one.template, or_assoc, ← exists_or]
    simp only [List.mem_append, or_and_right]
  · rw [two.privateDir, one.privateDir, or_assoc, List.mem_append]

theorem path_given (option : Valued) (text : String) (current : Option Octets)
    (fresh : current.isSome = false) (path : Octets) :
    some (Octets.ofString text) = some path ↔ current = some path ∨
      ∃ other, Given.value option other ∈ [Given.value option text] ∧
        path = Octets.ofString other := by
  obtain rfl : current = none := by simpa using fresh
  constructor
  · intro same
    exact .inr ⟨text, List.mem_singleton.mpr rfl, (Option.some.inj same).symm⟩
  · rintro (never | ⟨other, member, rfl⟩)
    · contradiction
    · cases List.mem_singleton.mp member
      rfl

theorem value_gathered (o o' : Options) (option : Valued) (text : String)
    (set : o.setValue option text = .ok o') : Gathers o [.value option text] o' := by
  cases option with
  | flag =>
    obtain rfl := Except.ok.inj set
    exact ⟨rfl, by simp, by simp, by simp⟩
  | file =>
    simp only [setValue] at set
    split at set
    · cases set
    · obtain rfl := Except.ok.inj set
      exact ⟨(List.append_nil _).symm, by simp, by simp, by simp⟩
  | template =>
    simp only [setValue] at set
    split at set
    · cases set
    · rename_i fresh
      obtain rfl := Except.ok.inj set
      refine ⟨(List.append_nil _).symm, by simp, fun path => ?_, by simp⟩
      exact path_given .template text o.template (by simp_all) path
  | compiler =>
    simp only [setValue] at set
    split at set
    · cases set
    · rename_i fresh
      obtain rfl := Except.ok.inj set
      refine ⟨(List.append_nil _).symm, fun path => ?_, by simp, by simp⟩
      exact path_given .compiler text o.compiler (by simp_all) path

theorem plain_gathered (o o' : Options) (option : Plain) (set : o.setPlain option = .ok o') :
    Gathers o [.plain option] o' := by
  cases option with
  | verbose =>
    obtain rfl := Except.ok.inj set
    exact ⟨(List.append_nil _).symm, by simp, by simp, by simp⟩
  | privateDir | pretty | time =>
    simp only [setPlain] at set
    split at set
    · cases set
    · obtain rfl := Except.ok.inj set
      exact ⟨(List.append_nil _).symm, by simp, by simp, by simp⟩

theorem set_last (set : Except Refusal Options) (o : Options) (pending : Option Valued)
    (read : (do let o ← set; return (o, none)) = .ok (o, pending)) : set = .ok o ∧ pending = none := by
  obtain ⟨o', done, same⟩ := except_bind_ok read
  obtain ⟨rfl, rfl⟩ := Prod.mk.inj (Except.ok.inj same)
  exact ⟨done, rfl⟩

theorem short_told (o o' : Options) (cluster : List Char) (pending : Option Valued)
    (read : o.shortOptions cluster = .ok (o', pending)) :
    ∃ given, Cluster cluster given pending ∧ Gathers o given o' := by
  fun_induction shortOptions o cluster with
  | case1 o =>
    obtain ⟨rfl, rfl⟩ := Prod.mk.inj (Except.ok.inj read)
    exact ⟨[], .done, gathers_none o⟩
  | case2 o rest ih =>
    obtain ⟨next, set, later⟩ := except_bind_ok read
    obtain ⟨given, cluster, gathered⟩ := ih next later
    exact ⟨_, .verbose cluster,
      gathers_append o next o' [.plain .verbose] given (plain_gathered o next .verbose set) gathered⟩
  | case3 | case7 => cases read
  | case4 o =>
    obtain ⟨rfl, rfl⟩ := Prod.mk.inj (Except.ok.inj read)
    exact ⟨[], .waiting, gathers_none o⟩
  | case5 o value =>
    obtain ⟨set, rfl⟩ := set_last _ _ _ read
    exact ⟨_, .joined value, value_gathered o o' .file _ set⟩
  | case6 o value something other =>
    obtain ⟨set, rfl⟩ := set_last _ _ _ read
    cases value with
    | nil => exact absurd rfl something
    | cons c more =>
      have different : c ≠ '=' := by
        rintro rfl
        exact other more rfl
      exact ⟨_, .attached c more different, value_gathered o o' .file _ set⟩

theorem split_long_shape (body : List Char) (name : String) (value : Option String)
    (split : splitLong body = (name, value)) :
    body = name.toList ++ (value.map fun v => '=' :: v.toList).getD [] := by
  obtain ⟨rfl, rfl⟩ := Prod.mk.inj split
  have whole := List.takeWhile_append_dropWhile (p := (· ≠ '=')) (l := body)
  have stop := List.head?_dropWhile_not (· ≠ '=') body
  rw [String.toList_ofList]
  cases rest : body.dropWhile (· ≠ '=') with
  | nil =>
    rw [rest] at whole
    exact whole.symm
  | cons c more =>
    rw [rest] at whole stop
    obtain rfl : c = '=' := by simpa using stop
    simpa using whole.symm

theorem listed_of_lookup {α : Type} (all : List (String × α)) (name : String) (option : α)
    (found : all.lookup name = some option) : (name, option) ∈ all := by
  obtain ⟨before, behind, rfl, -⟩ := List.lookup_eq_some_iff.mp found
  simp

theorem long_told (o o' : Options) (text : String) (body : List Char) (pending : Option Valued)
    (shape : text.toList = '-' :: '-' :: body)
    (read : o.longOption body = .ok (o', pending)) :
    ∃ given, Word text given pending ∧ Gathers o given o' := by
  rcases split : splitLong body with ⟨name, value⟩
  have parts := split_long_shape body name value split
  rw [parts] at shape
  simp only [longOption, split] at read
  split at read
  · rename_i option value' valued
    obtain ⟨set, rfl⟩ := set_last _ _ _ read
    have joined : text = "--" ++ name ++ "=" ++ value' := String.toList_inj.mp (by simp [shape])
    exact ⟨_, .joined name value' option (listed_of_lookup _ _ _ valued) joined,
      value_gathered o o' option value' set⟩
  · rename_i option valued
    obtain ⟨rfl, rfl⟩ := Prod.mk.inj (Except.ok.inj read)
    have alone : text = "--" ++ name := String.toList_inj.mp (by simp [shape])
    exact ⟨[], .waiting name option (listed_of_lookup _ _ _ valued) alone, gathers_none o⟩
  · rename_i option _ listed
    obtain ⟨set, rfl⟩ := set_last _ _ _ read
    have alone : text = "--" ++ name := String.toList_inj.mp (by simp [shape])
    exact ⟨_, .plain name option (listed_of_lookup _ _ _ listed) alone,
      plain_gathered o o' option set⟩
  · cases read
  · cases read

theorem word_told (o o' : Options) (text : String) (pending : Option Valued)
    (read : o.word none text = .ok (o', pending)) :
    ∃ given, Word text given pending ∧ Gathers o given o' := by
  simp only [word] at read
  split at read
  · rename_i body shape
    exact long_told o o' text body pending shape read
  · rename_i c more other shape
    obtain ⟨given, cluster, gathered⟩ := short_told o o' (c :: more) pending read
    exact ⟨given, .short c more other shape given pending cluster, gathered⟩
  · rename_i unlong unshort
    split at read
    · cases read
    · obtain ⟨rfl, rfl⟩ := Prod.mk.inj (Except.ok.inj read)
      refine ⟨_, .statements fun c more shape => unshort c more shape, ?_⟩
      exact ⟨(List.append_nil _).symm, by simp, by simp, by simp⟩

theorem words_told (o o' : Options) (pending : Option Valued) (line : List String)
    (read : o.words pending line = .ok o') : ∃ given, Spells pending line given ∧ Gathers o given o' := by
  induction line generalizing o pending with
  | nil =>
    cases pending with
    | none =>
      obtain rfl := Except.ok.inj read
      exact ⟨[], .done, gathers_none o⟩
    | some option => cases read
  | cons text line ih =>
    cases pending with
    | none =>
      by_cases ended : text = "--"
      · simp only [words, ended] at read
        obtain rfl := Except.ok.inj read
        exact ⟨[], ended ▸ .rest line, ⟨by simp, by simp, by simp, by simp⟩⟩
      · simp only [words, ended, decide_false, Bool.false_and] at read
        obtain ⟨⟨next, pending⟩, own, later⟩ := except_bind_ok read
        obtain ⟨given, spelled, gathered⟩ := word_told o next text pending own
        obtain ⟨more, rest, behind⟩ := ih next pending later
        exact ⟨_, .word spelled rest, gathers_append o next o' given more gathered behind⟩
    | some option =>
      by_cases barred : text = "--" ∧ option ≠ .flag
      · simp [words, barred.1, barred.2] at read
      · have ended : text = "--" → option = .flag := by simpa using barred
        have passed : (decide (text = "--") && some option != some .flag) = false := by
          by_cases same : text = "--"
          · simp [ended same]
          · simp [same]
        simp only [words, passed, Bool.false_eq_true, if_false] at read
        obtain ⟨⟨next, pending⟩, own, later⟩ := except_bind_ok read
        simp only [word] at own
        split at own
        · rename_i fits
          obtain ⟨set, rfl⟩ := set_last _ _ _ own
          obtain ⟨given, rest, behind⟩ := ih next none later
          exact ⟨_, .value option fits ended rest,
            gathers_append o next o' [_] given (value_gathered o next option text set) behind⟩
        · cases own

theorem parse_told (line : List String) (o : Options) (parsed : parse line = .ok o) :
    ∃ given, Spells none line given ∧ Gathers default given o := by
  obtain ⟨o', read, checked⟩ := except_bind_ok parsed
  split at checked
  · cases checked
  · obtain rfl := Except.ok.inj checked
    exact words_told default o' none line read

end Options
end Fragment.Command
