import Fragment.Proofs.Definition
/-!
The host's registry as an account of what the host has called: under a name stands the unit of the
latest call that put one there, and a load that fails puts none.
-/
namespace Fragment.Registry

variable {σ : Type}

-- What a host does to its registry, each load in the world that it meets.
inductive Call (σ : Type) where
  | register (unit : LoadedUnit)
  | load (name : String) (path : Path) (w : World σ)

def after (P : Platform σ) (registry : Registry) : Call σ → Registry
  | .register unit => registry.register unit
  | .load name path w => (registry.load P name path w).2.1

def built (P : Platform σ) (calls : List (Call σ)) : Registry := calls.foldl (after P) .empty

def put? (P : Platform σ) (name : String) : Call σ → Option LoadedUnit
  | .register unit => if unit.name = name then some unit else none
  | .load asked path w =>
    if asked = name then (LoadedUnit.ofLibrary P asked path w).1.toOption else none

def latest? (P : Platform σ) (calls : List (Call σ)) (name : String) : Option LoadedUnit :=
  calls.reverse.findSome? (put? P name)

theorem get_register (registry : Registry) (unit : LoadedUnit) (name : String) :
    (registry.register unit).get? name =
      if unit.name = name then some unit else registry.get? name := by
  by_cases same : unit.name = name
  · simp [register, get?, same]
  · have different : name ≠ unit.name := fun other => same other.symm
    have miss : (name == unit.name) = false := by simpa using different
    simp only [register, get?, List.lookup_cons, miss, if_neg same]
    exact lookup_filter_other registry.units unit.name name different

theorem library_named (P : Platform σ) (name : String) (path : Path) (unit : LoadedUnit)
    (w w' : World σ) (done : LoadedUnit.ofLibrary P name path w = (.ok unit, w')) :
    unit.name = name := by
  unfold LoadedUnit.ofLibrary at done
  split at done
  · simp at done
  · rw [load_unit_answer] at done
    cases answer : (P.load path none w.process).1 with
    | error cause => simp [answer] at done
    | ok library =>
      simp only [answer, Prod.mk.injEq, Except.ok.injEq] at done
      rw [← done.1]

theorem load_refused (P : Platform σ) (registry : Registry) (name : String) (path : Path)
    (fault : LoaderFault) (w : World σ) (refused : (registry.load P name path w).1 = .error fault) :
    (registry.load P name path w).2.1 = registry := by
  unfold load at refused ⊢
  rcases made : LoadedUnit.ofLibrary P name path w with ⟨cause | unit, w'⟩
  · rfl
  · simp [made] at refused

theorem get_after (P : Platform σ) (registry : Registry) (call : Call σ) (name : String) :
    (registry.after P call).get? name = (put? P name call).or (registry.get? name) := by
  cases call with
  | register unit =>
    rw [after, get_register, put?]
    split <;> rfl
  | load asked path w =>
    rw [after, put?]
    unfold load
    rcases made : LoadedUnit.ofLibrary P asked path w with ⟨cause | unit, w'⟩
    · simp [Except.toOption]
    · dsimp only
      rw [get_register, library_named P asked path unit w w' made]
      split <;> simp [Except.toOption]

theorem get_calls (P : Platform σ) (registry : Registry) (calls : List (Call σ)) (name : String) :
    (calls.foldl (after P) registry).get? name =
      (latest? P calls name).or (registry.get? name) := by
  induction calls generalizing registry with
  | nil => rfl
  | cons call rest ih =>
    rw [List.foldl_cons, ih, get_after, latest?, latest?, List.reverse_cons, List.findSome?_append,
      Option.or_assoc]
    congr 2
    simp

theorem get_built (P : Platform σ) (calls : List (Call σ)) (name : String) :
    (built P calls).get? name = latest? P calls name := by
  rw [built, get_calls]
  exact Option.or_none

end Fragment.Registry
