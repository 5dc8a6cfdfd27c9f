import Fragment.Proofs.Compile.Attempt
import Fragment.Proofs.Loader.Registry
/-!
What a scope answers. `Resolved` lists all that resolving a name can do; `Answered` says what comes
of it from the store, the registry and the calls so far, without a word of what the scope has kept.
-/
namespace Fragment.Scope

variable {σ : Type}

inductive Resolved (P : Platform σ) (scope : Scope) (name : String) (w : World σ) :
    Except LoaderFault LoadedUnit → Scope → World σ → Prop where
  | closed (ended : scope.isOpen = false) : Resolved P scope name w (.error (.closed name)) scope w
  | kept (opened : scope.isOpen = true) (unit : LoadedUnit)
      (known : scope.defined.lookup name = some unit) : Resolved P scope name w (.ok unit) scope w
  | unfinished (opened : scope.isOpen = true) (artifact : Artifact)
      (held : scope.store.artifact? name = some artifact) (incomplete : artifact.complete = false) :
      Resolved P scope name w (.error (.incomplete name)) scope w
  | undefined (opened : scope.isOpen = true) (artifact : Artifact)
      (held : scope.store.artifact? name = some artifact) (complete : artifact.complete = true)
      (fault : LoaderFault) (w' : World σ)
      (refused : LoadedUnit.define P scope.mode name artifact.octets w = (.error fault, w')) :
      Resolved P scope name w (.error fault) scope w'
  | defined (opened : scope.isOpen = true) (unknown : scope.defined.lookup name = none)
      (artifact : Artifact) (held : scope.store.artifact? name = some artifact)
      (complete : artifact.complete = true) (unit : LoadedUnit) (w' : World σ)
      (done : LoadedUnit.define P scope.mode name artifact.octets w = (.ok unit, w')) :
      Resolved P scope name w (.ok unit) { scope with defined := (name, unit) :: scope.defined } w'
  | registered (opened : scope.isOpen = true) (absent : scope.store.artifact? name = none)
      (unit : LoadedUnit) (found : scope.registry.get? name = some unit) :
      Resolved P scope name w (.ok unit) scope w
  | missing (opened : scope.isOpen = true) (absent : scope.store.artifact? name = none)
      (unfound : scope.registry.get? name = none) :
      Resolved P scope name w (.error (.notFound name)) scope w

theorem resolve_resolved (P : Platform σ) (scope : Scope) (name : String) (w : World σ) :
    Resolved P scope name w (scope.resolve P name w).1 (scope.resolve P name w).2.1
      (scope.resolve P name w).2.2 := by
  unfold resolve
  by_cases opened : scope.isOpen = true
  · rw [if_neg (by simp [opened])]
    cases known : scope.defined.lookup name with
    | some unit => exact .kept opened unit known
    | none =>
      cases held : scope.store.artifact? name with
      | some artifact =>
        by_cases complete : artifact.complete = true
        · dsimp only
          rw [if_neg (by simp [complete])]
          rcases made : LoadedUnit.define P scope.mode name artifact.octets w with
            ⟨fault | unit, w'⟩
          · exact .undefined opened artifact held complete fault w' made
          · exact .defined opened known artifact held complete unit w' made
        · dsimp only
          rw [if_pos (by simp [complete])]
          exact .unfinished opened artifact held (by simpa using complete)
      | none =>
        cases found : scope.registry.get? name with
        | some unit => exact .registered opened held unit found
        | none => exact .missing opened held found
  · rw [if_pos (by simp [opened])]
    exact .closed (by simpa using opened)

theorem resolve_handed (P : Platform σ) (scope : Scope) (name : String) (w : World σ) :
    ∃ handed : List Event, (scope.resolve P name w).2.2.events = w.events ++ handed ∧
      ∀ event ∈ handed, event.kind = .handover := by
  have resolved := resolve_resolved P scope name w
  generalize (scope.resolve P name w).1 = answer, (scope.resolve P name w).2.1 = next,
    (scope.resolve P name w).2.2 = w' at resolved ⊢
  cases resolved with
  | closed | kept | unfinished | registered | missing => exact ⟨[], by simp, by simp⟩
  | undefined _ artifact _ _ fault _ refused =>
    exact (LoadedUnit.define_refused P _ name artifact.octets fault w w' refused).2
  | defined _ _ artifact _ _ unit _ done =>
    obtain ⟨-, path, content, kept⟩ :=
      LoadedUnit.define_defined P _ name artifact.octets unit w w' done
    exact ⟨_, kept, by simp [Event.kind]⟩

-- What is asked of a scope, each time in the world that the call meets.
inductive Call (σ : Type) where
  | resolve (name : String) (w : World σ)
  | close (held : List Nat) (w : World σ)

def Call.closes : Call σ → Bool
  | .resolve .. => false
  | .close .. => true

def after (P : Platform σ) (scope : Scope) : Call σ → Scope
  | .resolve name w => (scope.resolve P name w).2.1
  | .close held w => (scope.close P held w).1

def follow (P : Platform σ) (scope : Scope) (calls : List (Call σ)) : Scope :=
  calls.foldl (after P) scope

-- The unit was defined, in that world, from what the store holds finished under the name.
def DefinedIn (P : Platform σ) (store : Store) (mode : ScratchMode) (name : String)
    (w : World σ) (unit : LoadedUnit) : Prop :=
  ∃ artifact, store.artifact? name = some artifact ∧ artifact.complete = true ∧
    (LoadedUnit.define P mode name artifact.octets w).1 = .ok unit ∧
    DefinedFrom P mode name artifact.octets w unit

theorem defined_in (P : Platform σ) (store : Store) (mode : ScratchMode) (name : String)
    (artifact : Artifact) (held : store.artifact? name = some artifact)
    (complete : artifact.complete = true) (w w' : World σ) (unit : LoadedUnit)
    (done : LoadedUnit.define P mode name artifact.octets w = (.ok unit, w')) :
    DefinedIn P store mode name w unit :=
  ⟨artifact, held, complete, congrArg Prod.fst done,
    (LoadedUnit.define_defined P mode name artifact.octets unit w w' done).1⟩

-- What is known of a scope after the calls. No call reaches its store, its registry or its mode, and
-- nothing is kept under a name that was not defined from the store.
structure Followed (P : Platform σ) (store : Store) (registry : Registry) (mode : ScratchMode)
    (calls : List (Call σ)) (scope : Scope) : Prop where
  stored : scope.store = store
  backed : scope.registry = registry
  placed : scope.mode = mode
  opened : scope.isOpen = !calls.any Call.closes
  kept : ∀ name unit, scope.defined.lookup name = some unit →
    ∃ w, .resolve name w ∈ calls ∧ DefinedIn P store mode name w unit

section follow

variable {P : Platform σ} {store : Store} {registry : Registry} {mode : ScratchMode}

theorem start_followed : Followed P store registry mode [] (start store registry mode) := by
  refine ⟨rfl, rfl, rfl, rfl, ?_⟩
  intro name unit known
  contradiction

theorem followed_more (calls : List (Call σ)) (call : Call σ) (scope : Scope)
    (followed : Followed P store registry mode calls scope)
    (same : (calls ++ [call]).any Call.closes = calls.any Call.closes) :
    Followed P store registry mode (calls ++ [call]) scope := by
  obtain ⟨stored, backed, placed, opened, kept⟩ := followed
  refine ⟨stored, backed, placed, by rw [same, opened], ?_⟩
  intro name unit known
  obtain ⟨w, asked, made⟩ := kept name unit known
  exact ⟨w, List.mem_append_left _ asked, made⟩

theorem followed_resolve (calls : List (Call σ)) (scope : Scope) (name : String) (w : World σ)
    (followed : Followed P store registry mode calls scope) :
    Followed P store registry mode (calls ++ [.resolve name w]) (scope.resolve P name w).2.1 := by
  have more : Followed P store registry mode (calls ++ [.resolve name w]) scope :=
    followed_more calls _ scope followed (by simp [Call.closes])
  have resolved := resolve_resolved P scope name w
  generalize (scope.resolve P name w).1 = answer, (scope.resolve P name w).2.1 = next,
    (scope.resolve P name w).2.2 = w' at resolved ⊢
  cases resolved with
  | closed | kept | unfinished | undefined | registered | missing => exact more
  | defined opened unknown artifact held complete unit w' done =>
    obtain ⟨rfl, rfl, rfl, opened, kept⟩ := more
    refine ⟨rfl, rfl, rfl, opened, ?_⟩
    intro other unit' known
    rw [List.lookup_cons] at known
    split at known
    · rename_i same
      obtain rfl := Option.some.inj known
      obtain rfl : other = name := by simpa using same
      exact ⟨w, by simp, defined_in P _ _ _ artifact held complete w w' unit done⟩
    · exact kept other unit' known

theorem followed_close (calls : List (Call σ)) (scope : Scope) (held : List Nat) (w : World σ)
    (followed : Followed P store registry mode calls scope) :
    Followed P store registry mode (calls ++ [.close held w]) (scope.close P held w).1 := by
  unfold close
  split
  · obtain ⟨stored, backed, placed, -, -⟩ := followed
    refine ⟨stored, backed, placed, by simp [Call.closes], ?_⟩
    intro name unit known
    contradiction
  · rename_i ended
    refine followed_more calls _ scope followed ?_
    have closed : calls.any Call.closes = true := by simpa [followed.opened] using ended
    rw [List.any_append, closed, Bool.true_or]

theorem follow_followed (past calls : List (Call σ)) (scope : Scope)
    (followed : Followed P store registry mode past scope) :
    Followed P store registry mode (past ++ calls) (follow P scope calls) := by
  induction calls generalizing past scope with
  | nil => simpa [follow] using followed
  | cons call rest ih =>
    have next : Followed P store registry mode (past ++ [call]) (scope.after P call) := by
      cases call with
      | resolve name w => exact followed_resolve past scope name w followed
      | close held w => exact followed_close past scope held w followed
    have whole := ih (past ++ [call]) (scope.after P call) next
    rwa [List.append_assoc, List.singleton_append] at whole

end follow

-- An answer to a name, as the store, the host's calls and the calls so far have it.
inductive Answered (P : Platform σ) (store : Store) (host : List (Registry.Call σ))
    (mode : ScratchMode) (calls : List (Call σ)) (name : String) (w : World σ) :
    Except LoaderFault LoadedUnit → Prop where
  | unfinished (artifact : Artifact) (held : store.artifact? name = some artifact)
      (incomplete : artifact.complete = false) :
      Answered P store host mode calls name w (.error (.incomplete name))
  | defined (unit : LoadedUnit) (made : DefinedIn P store mode name w unit) :
      Answered P store host mode calls name w (.ok unit)
  | definedBefore (unit : LoadedUnit) (w' : World σ) (asked : .resolve name w' ∈ calls)
      (made : DefinedIn P store mode name w' unit) :
      Answered P store host mode calls name w (.ok unit)
  | undefined (artifact : Artifact) (held : store.artifact? name = some artifact)
      (complete : artifact.complete = true) (fault : LoaderFault)
      (refused : (LoadedUnit.define P mode name artifact.octets w).1 = .error fault)
      (shape : (∃ cause, fault = .define name cause) ∨ ∃ cause, fault = .backing name cause) :
      Answered P store host mode calls name w (.error fault)
  | registered (absent : store.artifact? name = none) (unit : LoadedUnit)
      (latest : Registry.latest? P host name = some unit) :
      Answered P store host mode calls name w (.ok unit)
  | missing (absent : store.artifact? name = none)
      (never : Registry.latest? P host name = none) :
      Answered P store host mode calls name w (.error (.notFound name))

theorem answered_followed (P : Platform σ) (store : Store) (host : List (Registry.Call σ))
    (mode : ScratchMode) (calls : List (Call σ)) (scope : Scope)
    (followed : Followed P store (Registry.built P host) mode calls scope)
    (opened : scope.isOpen = true) (name : String) (w : World σ) :
    Answered P store host mode calls name w (scope.resolve P name w).1 := by
  have resolved := resolve_resolved P scope name w
  obtain ⟨rfl, backed, rfl, -, kept⟩ := followed
  generalize (scope.resolve P name w).1 = answer, (scope.resolve P name w).2.1 = next,
    (scope.resolve P name w).2.2 = w' at resolved ⊢
  cases resolved with
  | closed ended =>
    rw [opened] at ended
    contradiction
  | kept _ unit known =>
    obtain ⟨w', asked, made⟩ := kept name unit known
    exact .definedBefore unit w' asked made
  | unfinished _ artifact held incomplete => exact .unfinished artifact held incomplete
  | undefined _ artifact held complete fault w' refused =>
    exact .undefined artifact held complete fault (congrArg Prod.fst refused)
      (LoadedUnit.define_refused P _ name artifact.octets fault w w' refused).1
  | defined _ _ artifact held complete unit w' done =>
    exact .defined unit (defined_in P _ _ name artifact held complete w w' unit done)
  | registered _ absent unit found =>
    rw [backed, Registry.get_built] at found
    exact .registered absent unit found
  | missing _ absent unfound =>
    rw [backed, Registry.get_built] at unfound
    exact .missing absent unfound

def backedBy (scope : Scope) (registry : Registry) : Scope := { scope with registry }

theorem resolve_backed (P : Platform σ) (scope : Scope) (registry : Registry) (name : String)
    (w : World σ) :
    ((scope.backedBy registry).resolve P name w).2.1 =
        (scope.resolve P name w).2.1.backedBy registry ∧
      (scope.store.artifact? name ≠ none →
        ((scope.backedBy registry).resolve P name w).1 = (scope.resolve P name w).1) := by
  unfold resolve backedBy
  by_cases opened : scope.isOpen = true
  · cases scope.defined.lookup name with
    | some unit => simp [opened]
    | none =>
      cases scope.store.artifact? name with
      | some artifact =>
        by_cases complete : artifact.complete = true
        · rcases made : LoadedUnit.define P scope.mode name artifact.octets w with
            ⟨fault | unit, w'⟩
          · simp [opened, complete, made]
          · simp [opened, complete, made]
        · simp [opened, complete]
      | none => cases registry.get? name <;> cases scope.registry.get? name <;> simp [opened]
  · simp [opened]

theorem close_backed (P : Platform σ) (scope : Scope) (registry : Registry) (held : List Nat)
    (w : World σ) :
    ((scope.backedBy registry).close P held w).1 = (scope.close P held w).1.backedBy registry := by
  unfold close backedBy
  by_cases opened : scope.isOpen = true <;> simp [opened]

theorem follow_backed (P : Platform σ) (scope : Scope) (registry : Registry)
    (calls : List (Call σ)) :
    follow P (scope.backedBy registry) calls = (follow P scope calls).backedBy registry := by
  induction calls generalizing scope with
  | nil => rfl
  | cons call rest ih =>
    have next : (scope.backedBy registry).after P call = (scope.after P call).backedBy registry := by
      cases call with
      | resolve name w => exact (resolve_backed P scope registry name w).1
      | close held w => exact close_backed P scope registry held w
    exact (congrArg (follow P · rest) next).trans (ih (scope.after P call))

theorem resolve_answered (P : Platform σ) (store : Store) (host : List (Registry.Call σ))
    (mode : ScratchMode) (calls : List (Call σ)) (name : String) (w : World σ) :
    let scope := follow P (start store (Registry.built P host) mode) calls
    ((∀ call ∈ calls, call.closes = false) →
      Answered P store host mode calls name w (scope.resolve P name w).1) ∧
    ((∃ call ∈ calls, call.closes = true) →
      scope.resolve P name w = (.error (.closed name), scope, w) ∧
        ∀ held, scope.close P held w = (scope, w)) ∧
    (store.artifact? name ≠ none → ∀ registry,
      ((follow P (start store registry mode) calls).resolve P name w).1 =
        (scope.resolve P name w).1) ∧
    ∀ registry path fault, (Registry.load P registry name path w).1 = .error fault →
      (Registry.load P registry name path w).2.1 = registry := by
  intro scope
  have followed : Followed P store (Registry.built P host) mode calls scope :=
    follow_followed [] calls _ start_followed
  refine ⟨?_, ?_, ?_, ?_⟩
  · intro unclosed
    have opened : scope.isOpen = true := by simpa [followed.opened] using unclosed
    exact answered_followed P store host mode calls scope followed opened name w
  · intro closed
    have ended : scope.isOpen = false := by simpa [followed.opened] using closed
    refine ⟨by simp [resolve, ended], fun held => by simp [close, ended]⟩
  · intro present registry
    have other := follow_backed P (start store (Registry.built P host) mode) registry calls
    rw [show start store registry mode =
      (start store (Registry.built P host) mode).backedBy registry from rfl, other]
    refine (resolve_backed P scope registry name w).2 ?_
    rwa [followed.stored]
  · exact fun registry path fault => Registry.load_refused P registry name path fault w

def shadowing : Store := ⟨[⟨"Main", [1], true⟩, ⟨"Half", [], false⟩], true⟩

-- A host that has a library of its own for a name of the store, and could not load another again.
def rivals : List (Registry.Call Unit) :=
  [.load "Main" (Path.ofString "/Main.so") .blank, .load "Other" (Path.ofString "/Other.so") .blank,
    .load "Other" (Path.ofString "/\x00") .blank]

theorem rivals_answered :
    let asked : List (Call Unit) := [.resolve "Main" .blank, .resolve "Half" .blank]
    let P := Platform.steady .quiet 0
    Answered P shadowing rivals .memory asked "Main" .blank
        (.ok ⟨0, "Main", .compiled, 0, some (.memory 3)⟩) ∧
      Answered P shadowing rivals .memory asked "Half" .blank (.error (.incomplete "Half")) ∧
      Answered P shadowing rivals .memory asked "Other" .blank (.ok ⟨0, "Other", .host, 0, none⟩) ∧
      ((follow P (start shadowing (Registry.built P rivals) .memory)
        (asked ++ [.close [] .blank])).resolve P "Main" .blank).1 = .error (.closed "Main") := by
  intro asked P
  have unclosed : ∀ call ∈ asked, call.closes = false := by simp [asked, Call.closes]
  have closed : ∃ call ∈ asked ++ [.close [] .blank], call.closes = true :=
    ⟨.close [] .blank, by simp, rfl⟩
  refine ⟨?_, ?_, ?_, ?_⟩
  · exact (resolve_answered P shadowing rivals .memory asked "Main" .blank).1 unclosed
  · exact (resolve_answered P shadowing rivals .memory asked "Half" .blank).1 unclosed
  · exact (resolve_answered P shadowing rivals .memory asked "Other" .blank).1 unclosed
  · obtain ⟨-, ended, -⟩ := resolve_answered P shadowing rivals .memory
      (asked ++ [.close [] .blank]) "Main" .blank
    rw [(ended closed).1]

end Fragment.Scope
