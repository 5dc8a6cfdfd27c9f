import Fragment.Proofs.Loader.Resolution
/-!
What the origin of a unit says. It is set when the unit is made, by what the unit is made from, and
goes with it wherever a host registers it. So it names the tier that a scope found the unit in just
where every unit that the host has put under a name was opened from a library.
-/
namespace Fragment

variable {σ : Type}

-- How a host can have come by a unit: from a library, from octets, or from a scope over a registry
-- of units that it had come by before.
inductive Obtained (P : Platform σ) : LoadedUnit → Prop where
  | opened (name : String) (path : Path) (w : World σ) (unit : LoadedUnit)
      (done : (LoadedUnit.ofLibrary P name path w).1 = .ok unit) : Obtained P unit
  | defined (mode : ScratchMode) (name : String) (octets : Octets) (w : World σ) (unit : LoadedUnit)
      (done : (LoadedUnit.define P mode name octets w).1 = .ok unit) : Obtained P unit
  | resolved (store : Store) (host : List (Registry.Call σ)) (mode : ScratchMode)
      (calls : List (Scope.Call σ)) (name : String) (w : World σ) (unit : LoadedUnit)
      (known : ∀ other, .register other ∈ host → Obtained P other)
      (done : ((Scope.follow P (.start store (Registry.built P host) mode) calls).resolve P name w).1 =
        .ok unit) : Obtained P unit

theorem library_origin (P : Platform σ) (name : String) (path : Path) (w : World σ)
    (unit : LoadedUnit) (done : (LoadedUnit.ofLibrary P name path w).1 = .ok unit) :
    unit.origin = .host ∧ unit.backing = none := by
  unfold LoadedUnit.ofLibrary at done
  split at done
  · contradiction
  · rw [load_unit_answer] at done
    cases answer : (P.load path none w.process).1 with
    | error cause => simp [answer] at done
    | ok library =>
      simp only [answer] at done
      obtain rfl := Except.ok.inj done
      exact ⟨rfl, rfl⟩

theorem define_origin (P : Platform σ) (mode : ScratchMode) (name : String) (octets : Octets)
    (w : World σ) (unit : LoadedUnit)
    (done : (LoadedUnit.define P mode name octets w).1 = .ok unit) :
    unit.origin = .compiled ∧ unit.backing ≠ none := by
  obtain ⟨made, -⟩ := LoadedUnit.define_defined P mode name octets unit w _ (Prod.ext done rfl)
  obtain ⟨backing, staged, -, -, -, backed⟩ := made.loaded
  exact ⟨made.compiled, by simp [backed]⟩

namespace Registry

theorem latest_put (P : Platform σ) (calls : List (Call σ)) (name : String) (unit : LoadedUnit)
    (latest : latest? P calls name = some unit) :
    .register unit ∈ calls ∨ ∃ path w, (LoadedUnit.ofLibrary P name path w).1 = .ok unit := by
  obtain ⟨call, member, put⟩ := List.exists_of_findSome?_eq_some latest
  have made := List.mem_reverse.mp member
  cases call with
  | register other =>
    rw [put?] at put
    split at put
    · obtain rfl := Option.some.inj put
      exact .inl made
    · contradiction
  | load asked path w =>
    rw [put?] at put
    split at put
    · rename_i same
      subst same
      refine .inr ⟨path, w, ?_⟩
      cases opened : (LoadedUnit.ofLibrary P asked path w).1 with
      | error fault => simp [opened, Except.toOption] at put
      | ok other =>
        simp only [opened, Except.toOption, Option.some.injEq] at put
        rw [put]
    · contradiction

end Registry

namespace Scope

section resolved

variable {P : Platform σ} {store : Store} {host : List (Registry.Call σ)} {mode : ScratchMode}
  {calls : List (Call σ)} {name : String} {w : World σ} {unit : LoadedUnit}

theorem defined_in_held (w' : World σ) (made : DefinedIn P store mode name w' unit) :
    store.artifact? name ≠ none ∧ unit.origin = .compiled ∧ unit.backing ≠ none := by
  obtain ⟨artifact, held, -, done, -⟩ := made
  exact ⟨by simp [held], define_origin P mode name artifact.octets w' unit done⟩

theorem resolved_from
    (done : ((follow P (start store (Registry.built P host) mode) calls).resolve P name w).1 =
      .ok unit) :
    (store.artifact? name ≠ none ∧ unit.origin = .compiled ∧ unit.backing ≠ none) ∨
      (store.artifact? name = none ∧ Registry.latest? P host name = some unit) := by
  obtain ⟨answers, ends, -, -⟩ := resolve_answered P store host mode calls name w
  by_cases closed : ∃ call ∈ calls, call.closes = true
  · rw [(ends closed).1] at done
    contradiction
  · have answered := answers (by simpa using closed)
    rw [done] at answered
    cases answered with
    | defined _ made => exact .inl (defined_in_held w made)
    | definedBefore _ w' asked made => exact .inl (defined_in_held w' made)
    | registered absent _ latest => exact .inr ⟨absent, latest⟩

end resolved

end Scope

theorem obtained_origin (P : Platform σ) (unit : LoadedUnit) (obtained : Obtained P unit) :
    (unit.origin = .compiled ∧ unit.backing ≠ none) ∨
      (unit.origin = .host ∧ unit.backing = none) := by
  induction obtained with
  | opened name path w unit done => exact .inr (library_origin P name path w unit done)
  | defined mode name octets w unit done => exact .inl (define_origin P mode name octets w unit done)
  | resolved store host mode calls name w unit known done ih =>
    cases Scope.resolved_from done with
    | inl defined => exact .inl defined.2
    | inr found =>
      cases Registry.latest_put P host name unit found.2 with
      | inl registered => exact ih unit registered
      | inr loaded =>
        obtain ⟨path, w', loaded⟩ := loaded
        exact .inr (library_origin P name path w' unit loaded)

theorem latest_obtained (P : Platform σ) (host : List (Registry.Call σ))
    (known : ∀ other, .register other ∈ host → Obtained P other) (name : String)
    (unit : LoadedUnit) (latest : Registry.latest? P host name = some unit) : Obtained P unit := by
  cases Registry.latest_put P host name unit latest with
  | inl registered => exact known unit registered
  | inr loaded =>
    obtain ⟨path, w, loaded⟩ := loaded
    exact .opened name path w unit loaded

namespace Scope

-- What a scope gives is told by its origin: compiled from its own store, or of the host's registry.
structure OriginTells (P : Platform σ) (store : Store) (host : List (Registry.Call σ))
    (name : String) (unit : LoadedUnit) : Prop where
  compiled : unit.origin = .compiled ↔ store.artifact? name ≠ none
  host : unit.origin = .host ↔ store.artifact? name = none ∧ Registry.latest? P host name = some unit

theorem resolve_latest (P : Platform σ) (store : Store) (host : List (Registry.Call σ))
    (mode : ScratchMode) (name : String) (w : World σ) (unit : LoadedUnit)
    (absent : store.artifact? name = none) (latest : Registry.latest? P host name = some unit) :
    ((start store (Registry.built P host) mode).resolve P name w).1 = .ok unit := by
  have found : (Registry.built P host).get? name = some unit := by rw [Registry.get_built, latest]
  simp [resolve, start, absent, found]

theorem registered_stays_compiled (P : Platform σ) (before : List (Registry.Call σ))
    (mode mode' : ScratchMode) (name : String) (octets : Octets) (w w' : World σ) (store : Store)
    (unit : LoadedUnit) (made : (LoadedUnit.define P mode name octets w).1 = .ok unit)
    (absent : store.artifact? name = none) :
    ((start store (Registry.built P (before ++ [.register unit])) mode').resolve P name w').1 =
        .ok unit ∧ unit.origin = .compiled := by
  have latest : Registry.latest? P (before ++ [.register unit]) name = some unit := by
    obtain ⟨defined, -⟩ := LoadedUnit.define_defined P mode name octets unit w _ (Prod.ext made rfl)
    simp [Registry.latest?, Registry.put?, defined.named]
  exact ⟨resolve_latest P store _ mode' name w' unit absent latest,
    (define_origin P mode name octets w unit made).1⟩

example :
    let P := Platform.steady .quiet 0
    let main : LoadedUnit := ⟨0, "Main", .compiled, 0, some (.memory 3)⟩
    let host := Registry.built P [.register main]
    ((start shadowing .empty .memory).resolve P "Main" .blank).1 = .ok main ∧
      ((start ⟨[], true⟩ host .memory).resolve P "Main" .blank).1 = .ok main :=
  ⟨rfl, rfl⟩

theorem origin_tells_iff (P : Platform σ) (host : List (Registry.Call σ)) (w : World σ)
    (known : ∀ unit, .register unit ∈ host → Obtained P unit) :
    (∀ store mode calls name unit,
      ((follow P (start store (Registry.built P host) mode) calls).resolve P name w).1 = .ok unit →
        OriginTells P store host name unit) ↔
      ∀ name unit, Registry.latest? P host name = some unit → unit.backing = none := by
  constructor
  · intro tells name unit latest
    -- A store that holds nothing leaves every name to the registry.
    have given := resolve_latest P ⟨[], true⟩ host .memory name w unit rfl latest
    have told := tells ⟨[], true⟩ .memory [] name unit given
    cases obtained_origin P unit (latest_obtained P host known name unit latest) with
    | inl defined => exact absurd rfl (told.compiled.mp defined.1)
    | inr opened => exact opened.2
  · intro libraries store mode calls name unit done
    cases resolved_from done with
    | inl defined =>
      obtain ⟨held, compiled, -⟩ := defined
      refine ⟨iff_of_true compiled held, ?_⟩
      exact iff_of_false (by simp [compiled]) (fun other => held other.1)
    | inr found =>
      obtain ⟨absent, latest⟩ := found
      have bare : unit.backing = none := libraries name unit latest
      cases obtained_origin P unit (latest_obtained P host known name unit latest) with
      | inl defined => exact absurd bare defined.2
      | inr opened =>
        refine ⟨iff_of_false (by simp [opened.1]) (fun held => held absent), ?_⟩
        exact iff_of_true opened.1 ⟨absent, latest⟩

theorem origin_tells_for_libraries (P : Platform σ) (host : List (Registry.Call σ)) (w : World σ)
    (libraries : ∀ unit, .register unit ∈ host →
      ∃ name path w', (LoadedUnit.ofLibrary P name path w').1 = .ok unit)
    (store : Store) (mode : ScratchMode) (calls : List (Call σ)) (name : String)
    (unit : LoadedUnit)
    (done : ((follow P (start store (Registry.built P host) mode) calls).resolve P name w).1 =
      .ok unit) : OriginTells P store host name unit := by
  refine (origin_tells_iff P host w ?_).mpr ?_ store mode calls name unit done
  · intro other registered
    obtain ⟨own, path, w', opened⟩ := libraries other registered
    exact .opened own path w' other opened
  · intro asked other latest
    cases Registry.latest_put P host asked other latest with
    | inl registered =>
      obtain ⟨own, path, w', opened⟩ := libraries other registered
      exact (library_origin P own path w' other opened).2
    | inr loaded =>
      obtain ⟨path, w', opened⟩ := loaded
      exact (library_origin P asked path w' other opened).2

end Scope
end Fragment
