import Fragment.Proofs.Loader.Resolution
/-!
Identity of units. Until it is closed, a scope stands by what it has answered: a name that it has
resolved to a unit is that unit from then on, and nothing is loaded for it again. What it has refused
it has not kept, and tries again.
-/
namespace Fragment

variable {σ : Type}

theorem define_serials (P : Platform σ) (mode : ScratchMode) (name : String) (octets : Octets)
    (w : World σ) :
    (LoadedUnit.define P mode name octets w).2.nextSerial =
      match (LoadedUnit.define P mode name octets w).1 with
      | .ok _ => w.nextSerial + 1
      | .error _ => w.nextSerial := by
  have defining := LoadedUnit.define_defining P mode name octets w
  have kept := congrArg Ledger.nextSerial (Backing.ledger_create P mode name octets w)
  generalize (LoadedUnit.define P mode name octets w).1 = result,
    (LoadedUnit.define P mode name octets w).2 = w' at defining ⊢
  cases defining with
  | unbacked cause staged created => rwa [created] at kept
  | refused backing staged created cause answer =>
    rw [created] at kept
    exact (congrArg Ledger.nextSerial (Backing.ledger_discard backing _)).trans kept
  | loaded backing staged created library answer =>
    rw [created] at kept
    exact congrArg (· + 1) kept

namespace Scope

abbrev Query (σ : Type) := String × World σ

def ask (P : Platform σ) (scope : Scope) (queries : List (Query σ)) : Scope :=
  follow P scope (queries.map fun query => .resolve query.1 query.2)

def answers (P : Platform σ) (scope : Scope) :
    List (Query σ) → List (String × Except LoaderFault LoadedUnit)
  | [] => []
  | (name, w) :: rest =>
    (name, (scope.resolve P name w).1) :: answers P (scope.resolve P name w).2.1 rest

-- How many of the questions have made a unit of the name: it takes the next number.
def definitions (P : Platform σ) (name : String) (scope : Scope) : List (Query σ) → Nat
  | [] => 0
  | (asked, w) :: rest =>
    (if asked = name ∧ (scope.resolve P asked w).2.2.nextSerial ≠ w.nextSerial then 1 else 0) +
      definitions P name (scope.resolve P asked w).2.1 rest

theorem lookup_put (defined : List (String × LoadedUnit)) (name other : String)
    (unit : LoadedUnit) :
    ((name, unit) :: defined).lookup other = if other = name then some unit else defined.lookup other := by
  by_cases same : other = name
  · simp [same]
  · have miss : (other == name) = false := by simpa using same
    rw [List.lookup_cons, miss, if_neg same]

theorem resolve_keeps (P : Platform σ) (scope : Scope) (name : String) (w : World σ) :
    ((scope.resolve P name w).2.1 = scope ∧
      (scope.resolve P name w).2.2.nextSerial = w.nextSerial) ∨
    ∃ unit, scope.defined.lookup name = none ∧ (scope.resolve P name w).1 = .ok unit ∧
      (scope.resolve P name w).2.1 = { scope with defined := (name, unit) :: scope.defined } := by
  have resolved := resolve_resolved P scope name w
  generalize (scope.resolve P name w).1 = answer, (scope.resolve P name w).2.1 = next,
    (scope.resolve P name w).2.2 = w' at resolved ⊢
  cases resolved with
  | closed | kept | unfinished | registered | missing => exact .inl ⟨rfl, rfl⟩
  | undefined _ artifact _ _ fault _ refused =>
    have serials := define_serials P scope.mode name artifact.octets w
    rw [refused] at serials
    exact .inl ⟨rfl, serials⟩
  | defined _ unknown artifact _ _ unit _ done => exact .inr ⟨unit, unknown, rfl, rfl⟩

theorem resolve_refused (P : Platform σ) (scope : Scope) (name : String) (w : World σ)
    (fault : LoaderFault) (refused : (scope.resolve P name w).1 = .error fault) :
    (scope.resolve P name w).2.1 = scope := by
  rcases resolve_keeps P scope name w with ⟨same, -⟩ | ⟨unit, -, answered, -⟩
  · exact same
  · rw [answered] at refused
    contradiction

theorem resolve_other (P : Platform σ) (scope : Scope) (name other : String) (w : World σ)
    (different : other ≠ name) :
    (scope.resolve P name w).2.1.defined.lookup other = scope.defined.lookup other := by
  rcases resolve_keeps P scope name w with ⟨same, -⟩ | ⟨unit, -, -, same⟩
  · rw [same]
  · rw [same, lookup_put, if_neg different]

theorem definitions_le (P : Platform σ) (name : String) (scope : Scope) (queries : List (Query σ)) :
    definitions P name scope queries ≤
      if (scope.defined.lookup name).isSome then 0 else 1 := by
  induction queries generalizing scope with
  | nil => exact Nat.zero_le _
  | cons query rest ih =>
    obtain ⟨asked, w⟩ := query
    have later := ih (scope.resolve P asked w).2.1
    rw [definitions]
    rcases resolve_keeps P scope asked w with ⟨same, made⟩ | ⟨unit, unknown, -, same⟩
    · rw [if_neg fun both => both.2 made, Nat.zero_add]
      rwa [same] at later ⊢
    · by_cases mine : asked = name
      · rw [same, lookup_put, if_pos mine.symm] at later
        rw [← mine, unknown, same]
        rw [← mine] at later
        have none : definitions P asked { scope with defined := (asked, unit) :: scope.defined } rest =
          0 := Nat.le_zero.mp later
        rw [none]
        split <;> decide
      · rw [resolve_other P scope asked name w (Ne.symm mine)] at later
        rwa [if_neg fun both => mine both.1, Nat.zero_add]

-- What is known of a scope that has given these answers: it keeps the units that it has defined, and
-- those only, and it has given no other unit but one of the registry, under a name that the store lacks.
structure StandsBy (store : Store) (registry : Registry)
    (told : List (String × Except LoaderFault LoadedUnit)) (scope : Scope) : Prop where
  stored : scope.store = store
  backed : scope.registry = registry
  opened : scope.isOpen = true
  given : ∀ name unit, (name, .ok unit) ∈ told → scope.defined.lookup name = some unit ∨
    scope.defined.lookup name = none ∧ store.artifact? name = none ∧ registry.get? name = some unit
  kept : ∀ name unit, scope.defined.lookup name = some unit →
    (name, .ok unit) ∈ told ∧ store.artifact? name ≠ none

section stands

variable {P : Platform σ} {store : Store} {registry : Registry} {scope : Scope}
  {told : List (String × Except LoaderFault LoadedUnit)}

theorem stands_start (mode : ScratchMode) :
    StandsBy store registry [] (start store registry mode) := by
  refine ⟨rfl, rfl, rfl, by simp, ?_⟩
  intro name unit known
  contradiction

theorem stands_more (stands : StandsBy store registry told scope) (name : String)
    (answer : Except LoaderFault LoadedUnit)
    (right : ∀ unit, answer = .ok unit → scope.defined.lookup name = some unit ∨
      scope.defined.lookup name = none ∧ store.artifact? name = none ∧
        registry.get? name = some unit) :
    StandsBy store registry (told ++ [(name, answer)]) scope := by
  refine ⟨stands.stored, stands.backed, stands.opened, ?_, ?_⟩
  · intro other unit member
    rcases List.mem_append.mp member with old | new
    · exact stands.given other unit old
    · obtain ⟨rfl, answered⟩ := Prod.mk.inj (List.mem_singleton.mp new)
      exact right unit answered.symm
  · intro other unit known
    exact ⟨List.mem_append_left _ (stands.kept other unit known).1, (stands.kept other unit known).2⟩

theorem stands_unknown (stands : StandsBy store registry told scope) (name : String)
    (absent : store.artifact? name = none) : scope.defined.lookup name = none := by
  cases known : scope.defined.lookup name with
  | none => rfl
  | some unit => exact absurd absent (stands.kept name unit known).2

theorem stands_resolve (stands : StandsBy store registry told scope) (name : String) (w : World σ) :
    StandsBy store registry (told ++ [(name, (scope.resolve P name w).1)])
      (scope.resolve P name w).2.1 := by
  have resolved := resolve_resolved P scope name w
  generalize (scope.resolve P name w).1 = answer, (scope.resolve P name w).2.1 = next,
    (scope.resolve P name w).2.2 = w' at resolved ⊢
  cases resolved with
  | closed ended =>
    rw [stands.opened] at ended
    contradiction
  | kept _ unit known =>
    refine stands_more stands name _ ?_
    rintro _ ⟨⟩
    exact .inl known
  | unfinished | undefined | missing =>
    refine stands_more stands name _ ?_
    rintro _ ⟨⟩
  | registered _ absent unit found =>
    rw [stands.stored] at absent
    rw [stands.backed] at found
    refine stands_more stands name _ ?_
    rintro _ ⟨⟩
    exact .inr ⟨stands_unknown stands name absent, absent, found⟩
  | defined _ unknown artifact held _ unit _ done =>
    rw [stands.stored] at held
    have present : store.artifact? name ≠ none := by simp [held]
    refine ⟨stands.stored, stands.backed, stands.opened, ?_, ?_⟩
    · intro other unit' member
      rw [lookup_put]
      rcases List.mem_append.mp member with old | new
      · by_cases same : other = name
        · subst same
          rcases stands.given other unit' old with known | ⟨-, absent, -⟩
          · rw [unknown] at known
            contradiction
          · exact absurd absent present
        · rw [if_neg same]
          exact stands.given other unit' old
      · obtain ⟨rfl, answered⟩ := Prod.mk.inj (List.mem_singleton.mp new)
        obtain rfl := Except.ok.inj answered
        exact .inl (if_pos rfl)
    · intro other unit' known
      rw [lookup_put] at known
      by_cases same : other = name
      · rw [if_pos same] at known
        obtain rfl := Option.some.inj known
        exact ⟨List.mem_append_right _ (List.mem_singleton.mpr (by rw [same])), same ▸ present⟩
      · rw [if_neg same] at known
        exact ⟨List.mem_append_left _ (stands.kept other unit' known).1,
          (stands.kept other unit' known).2⟩

theorem stands_ask (stands : StandsBy store registry told scope) (queries : List (Query σ)) :
    StandsBy store registry (told ++ answers P scope queries) (ask P scope queries) := by
  induction queries generalizing told scope with
  | nil => simpa [answers, ask, follow] using stands
  | cons query rest ih =>
    obtain ⟨name, w⟩ := query
    have next := ih (stands_resolve (P := P) stands name w)
    rwa [List.append_assoc, List.singleton_append] at next

theorem stands_unique (stands : StandsBy store registry told scope) (name : String)
    (unit unit' : LoadedUnit) (given : (name, .ok unit) ∈ told) (given' : (name, .ok unit') ∈ told) :
    unit = unit' := by
  rcases stands.given name unit given with known | ⟨unknown, -, found⟩
  · rcases stands.given name unit' given' with known' | ⟨unknown', -, -⟩
    · exact Option.some.inj (known.symm.trans known')
    · rw [known] at unknown'
      contradiction
  · rcases stands.given name unit' given' with known' | ⟨-, -, found'⟩
    · rw [unknown] at known'
      contradiction
    · exact Option.some.inj (found.symm.trans found')

theorem stands_repeats (stands : StandsBy store registry told scope) (name : String)
    (unit : LoadedUnit) (given : (name, .ok unit) ∈ told) (w : World σ) :
    scope.resolve P name w = (.ok unit, scope, w) := by
  unfold resolve
  rw [if_neg (by simp [stands.opened])]
  rcases stands.given name unit given with known | ⟨unknown, absent, found⟩
  · simp only [known]
  · simp only [unknown, stands.stored, absent, stands.backed, found]

theorem stands_retries (stands : StandsBy store registry told scope) (name : String)
    (artifact : Artifact) (held : store.artifact? name = some artifact)
    (complete : artifact.complete = true) (never : ∀ unit, (name, .ok unit) ∉ told) (w : World σ) :
    ((scope.resolve P name w).1, (scope.resolve P name w).2.2) =
      LoadedUnit.define P scope.mode name artifact.octets w := by
  have unknown : scope.defined.lookup name = none := by
    cases known : scope.defined.lookup name with
    | none => rfl
    | some unit => exact absurd (stands.kept name unit known).1 (never unit)
  unfold resolve
  rw [if_neg (by simp [stands.opened])]
  simp only [unknown, stands.stored, held, complete, Bool.not_true, Bool.false_eq_true, if_false]
  rcases LoadedUnit.define P scope.mode name artifact.octets w with ⟨fault | unit, w'⟩
  · rfl
  · rfl

end stands

theorem ask_followed (P : Platform σ) (store : Store) (registry : Registry) (mode : ScratchMode)
    (queries : List (Query σ)) :
    Followed P store registry mode (queries.map fun query => .resolve query.1 query.2)
      (ask P (start store registry mode) queries) :=
  follow_followed [] _ _ start_followed

theorem resolve_stable (P : Platform σ) (store : Store) (registry : Registry) (mode : ScratchMode)
    (queries : List (Query σ)) (name : String) :
    let scope := ask P (start store registry mode) queries
    let told := answers P (start store registry mode) queries
    (∀ unit unit', (name, .ok unit) ∈ told → (name, .ok unit') ∈ told → unit = unit') ∧
    (∀ unit, (name, .ok unit) ∈ told → ∀ w, scope.resolve P name w = (.ok unit, scope, w)) ∧
    definitions P name (start store registry mode) queries ≤ 1 ∧
    (∀ w fault, (scope.resolve P name w).1 = .error fault → (scope.resolve P name w).2.1 = scope) ∧
    (∀ artifact, store.artifact? name = some artifact → artifact.complete = true →
      (∀ unit, (name, .ok unit) ∉ told) → ∀ w,
        ((scope.resolve P name w).1, (scope.resolve P name w).2.2) =
          LoadedUnit.define P mode name artifact.octets w) ∧
    (∀ w other, other ≠ name →
      (scope.resolve P name w).2.1.defined.lookup other = scope.defined.lookup other) ∧
    ∀ unit, scope.defined.lookup name = some unit →
      ∃ w, (name, w) ∈ queries ∧ DefinedIn P store mode name w unit := by
  intro scope told
  have stands : StandsBy store registry told scope := stands_ask (stands_start mode) queries
  have followed : Followed P store registry mode _ scope :=
    ask_followed P store registry mode queries
  refine ⟨?_, ?_, ?_, ?_, ?_, ?_, ?_⟩
  · exact stands_unique stands name
  · exact fun unit given w => stands_repeats stands name unit given w
  · exact definitions_le P name (start store registry mode) queries
  · exact fun w fault => resolve_refused P scope name w fault
  · intro artifact held complete never w
    rw [stands_retries stands name artifact held complete never w, followed.placed]
  · exact fun w other => resolve_other P scope name other w
  · intro unit known
    obtain ⟨w, asked, made⟩ := followed.kept name unit known
    obtain ⟨query, member, same⟩ := List.mem_map.mp asked
    obtain ⟨rfl, rfl⟩ := Call.resolve.inj same
    exact ⟨query.2, member, made⟩

-- A loader that accepts libraries at some times and refuses them at others.
def wavering : Platform Bool where
  spawn _ process := (.ok .quiet, process)
  load _ _ process := (if process.code then .ok 0 else .error .silent, process)
  symbol _ _ _ := .ok ()
  call _ _ _ _ process := (0, process)
  unload _ process := process
  hasMemoryFiles := true
  refusal _ _ := none
  freshDescriptor used := used.foldl max 2 + 1
  freshDirectory _ := Path.ofString "memrun-0"

def wavers (accepts : Bool) : World Bool := .start ⟨.empty, .empty, [], none, accepts⟩

-- A name of the store is refused, then defined, and asked for again when the loader refuses.
theorem wavering_stable :
    let hosted : Registry := ⟨[("Other", ⟨7, "Other", .host, 4, none⟩)]⟩
    let queries := [("Main", wavers false), ("Other", wavers false), ("Main", wavers true)]
    let scope := ask wavering (start shadowing hosted .memory) queries
    let unit : LoadedUnit := ⟨0, "Main", .compiled, 0, some (.memory 3)⟩
    answers wavering (start shadowing hosted .memory) queries =
        [("Main", .error (.define "Main" .silent)), ("Other", .ok ⟨7, "Other", .host, 4, none⟩),
          ("Main", .ok unit)] ∧
      scope.resolve wavering "Main" (wavers false) = (.ok unit, scope, wavers false) ∧
      definitions wavering "Main" (start shadowing hosted .memory) queries = 1 := by
  intro hosted queries scope unit
  have told : answers wavering (start shadowing hosted .memory) queries =
      [("Main", .error (.define "Main" .silent)), ("Other", .ok ⟨7, "Other", .host, 4, none⟩),
        ("Main", .ok unit)] := rfl
  obtain ⟨-, repeats, -⟩ := resolve_stable wavering shadowing hosted .memory queries "Main"
  exact ⟨told, repeats unit (by rw [told]; simp) (wavers false), rfl⟩

end Scope
end Fragment
