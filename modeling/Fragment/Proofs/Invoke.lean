import Fragment.Proofs.Launch.Arguments
import Fragment.Proofs.Loader.Resolution
/-!
Invocations: the unit is resolved, its function found and the arguments checked, in this order, and
only then is there a call. `Invoked` lists how an invocation can go; `InvokeTold` says when each
answer is given, and `CalledOnce` and `NotCalled` what the entry function has got to see.
-/
namespace Fragment

variable {σ : Type}

def returned (P : Platform σ) (unit : LoadedUnit) (function : Octets) (arguments : List String)
    (w : World σ) : Int :=
  (P.call unit.library function arguments.length (argumentVector arguments)
    (w.setStdout w.process.stdout.flushHost).process).1

def concluded (symbol : String) (status : Int) : Except InvokeFault Unit :=
  if status = 0 then .ok () else .error (.failed symbol status)

-- The entry's unit resolves to this one, which has the function, in the world that is then left.
structure Linked (P : Platform σ) (scope : Scope) (entry : EntryPoint) (w : World σ)
    (unit : LoadedUnit) (function : Octets) (w' : World σ) : Prop where
  resolved : ∃ next, scope.resolve P entry.unit w = (.ok unit, next, w')
  found : unit.find P entry.symbol w' = .ok function

inductive Invoked (P : Platform σ) (scope : Scope) (entry : EntryPoint) (arguments : List String)
    (w : World σ) : Except InvokeFault Unit → World σ → Prop where
  | unresolved (fault : LoaderFault) (next : Scope) (w' : World σ)
      (refused : scope.resolve P entry.unit w = (.error fault, next, w')) :
      Invoked P scope entry arguments w (.error (.loader fault)) w'
  | unfound (unit : LoadedUnit) (cause : LibraryFault) (next : Scope) (w' : World σ)
      (resolved : scope.resolve P entry.unit w = (.ok unit, next, w'))
      (missing : unit.find P entry.symbol w' = .error cause) :
      Invoked P scope entry arguments w
        (.error (.functionNotFound entry.unit entry.symbol cause)) w'
  | unfit (unit : LoadedUnit) (function : Octets) (fault : InvokeFault) (w' : World σ)
      (linked : Linked P scope entry w unit function w')
      (bad : argumentFault? arguments = some fault) :
      Invoked P scope entry arguments w (.error fault) w'
  | called (unit : LoadedUnit) (function : Octets) (w' : World σ)
      (linked : Linked P scope entry w unit function w') (passable : Passable arguments) :
      Invoked P scope entry arguments w
        (concluded entry.symbol (returned P unit function arguments w'))
        (callEntry P unit entry.symbol function arguments w').2

section outcome

variable (P : Platform σ) (scope : Scope) (entry : EntryPoint) (arguments : List String)
  (w : World σ)

theorem invoke_unresolved (fault : LoaderFault) (next : Scope) (w' : World σ)
    (refused : scope.resolve P entry.unit w = (.error fault, next, w')) :
    invoke P scope entry arguments w = (.error (.loader fault), next, w') := by
  rw [invoke, refused]

theorem invoke_unlinked (unit : LoadedUnit) (cause : LibraryFault) (next : Scope) (w' : World σ)
    (resolved : scope.resolve P entry.unit w = (.ok unit, next, w'))
    (missing : unit.find P entry.symbol w' = .error cause) :
    invoke P scope entry arguments w =
      (.error (.functionNotFound entry.unit entry.symbol cause), next, w') := by
  rw [invoke, resolved]
  dsimp only
  rw [missing]

theorem invoke_unfit (unit : LoadedUnit) (function : Octets) (fault : InvokeFault) (w' : World σ)
    (linked : Linked P scope entry w unit function w')
    (bad : argumentFault? arguments = some fault) :
    invoke P scope entry arguments w =
      (.error fault, (scope.resolve P entry.unit w).2.1, w') := by
  obtain ⟨⟨next, resolved⟩, found⟩ := linked
  rw [invoke, resolved]
  dsimp only
  rw [found]
  dsimp only
  rw [bad]

theorem invoke_called (unit : LoadedUnit) (function : Octets) (w' : World σ)
    (linked : Linked P scope entry w unit function w') (passable : Passable arguments) :
    invoke P scope entry arguments w =
      (concluded entry.symbol (returned P unit function arguments w'),
        (scope.resolve P entry.unit w).2.1,
        (callEntry P unit entry.symbol function arguments w').2) := by
  obtain ⟨⟨next, resolved⟩, found⟩ := linked
  have status : (callEntry P unit entry.symbol function arguments w').1 =
      returned P unit function arguments w' := rfl
  rw [invoke, resolved]
  dsimp only
  rw [found]
  dsimp only
  rw [(argument_fault_none_iff arguments).mpr passable]
  dsimp only
  rw [status, concluded]
  split
  · rfl
  · rfl

theorem invoke_invoked :
    Invoked P scope entry arguments w (invoke P scope entry arguments w).1
      (invoke P scope entry arguments w).2.2 := by
  rcases resolved : scope.resolve P entry.unit w with ⟨fault | unit, next, w'⟩
  · rw [invoke_unresolved P scope entry arguments w fault next w' resolved]
    exact .unresolved fault next w' resolved
  · cases found : unit.find P entry.symbol w' with
    | error cause =>
      rw [invoke_unlinked P scope entry arguments w unit cause next w' resolved found]
      exact .unfound unit cause next w' resolved found
    | ok function =>
      have linked : Linked P scope entry w unit function w' := ⟨⟨next, resolved⟩, found⟩
      cases fit : argumentFault? arguments with
      | some fault =>
        rw [invoke_unfit P scope entry arguments w unit function fault w' linked fit]
        exact .unfit unit function fault w' linked fit
      | none =>
        have passable := (argument_fault_none_iff arguments).mp fit
        rw [invoke_called P scope entry arguments w unit function w' linked passable]
        exact .called unit function w' linked passable

end outcome

section told

variable {P : Platform σ} {scope : Scope} {entry : EntryPoint} {arguments : List String}
  {w w' : World σ} {result : Except InvokeFault Unit}

end told

structure NotCalled (P : Platform σ) (scope : Scope) (entry : EntryPoint) (arguments : List String)
    (w : World σ) (after : World σ) : Prop where
  left : after = (scope.resolve P entry.unit w).2.2
  unasked : ∀ call, invoke { P with call } scope entry arguments w = invoke P scope entry arguments w
  recorded : ∃ earlier, after.events = w.events ++ earlier ∧ ∀ event ∈ earlier, event.kind ≠ .call

theorem resolve_uncalled (P : Platform σ) (scope : Scope) (name : String) (w : World σ) :
    ∃ earlier : List Event, (scope.resolve P name w).2.2.events = w.events ++ earlier ∧
      ∀ event ∈ earlier, event.kind ≠ .call := by
  obtain ⟨handed, kept, only⟩ := Scope.resolve_handed P scope name w
  exact ⟨handed, kept, fun event member => by simp [only event member]⟩

-- No stage before the call asks what a call would do.
theorem invoke_unasked (P : Platform σ) (scope : Scope) (entry : EntryPoint)
    (arguments : List String) (w : World σ)
    (never : ∀ unit function w', Linked P scope entry w unit function w' → ¬ Passable arguments)
    (call : Library → Octets → Nat → List (Option Octets) → Process σ → Int × Process σ) :
    invoke { P with call } scope entry arguments w = invoke P scope entry arguments w := by
  have invoked := invoke_invoked P scope entry arguments w
  generalize (invoke P scope entry arguments w).1 = result,
    (invoke P scope entry arguments w).2.2 = after at invoked
  cases invoked with
  | unresolved fault next _ refused =>
    rw [invoke_unresolved P scope entry arguments w fault next after refused]
    exact invoke_unresolved { P with call } scope entry arguments w fault next after refused
  | unfound unit cause next _ resolved missing =>
    rw [invoke_unlinked P scope entry arguments w unit cause next after resolved missing]
    exact invoke_unlinked { P with call } scope entry arguments w unit cause next after resolved
      missing
  | unfit unit function fault _ linked bad =>
    rw [invoke_unfit P scope entry arguments w unit function fault after linked bad]
    exact invoke_unfit { P with call } scope entry arguments w unit function fault after
      ⟨linked.resolved, linked.found⟩ bad
  | called unit function w' linked passable => exact absurd passable (never unit function w' linked)

theorem invoke_not_called (P : Platform σ) (scope : Scope) (entry : EntryPoint)
    (arguments : List String) (w : World σ)
    (never : ∀ unit function w', Linked P scope entry w unit function w' → ¬ Passable arguments) :
    NotCalled P scope entry arguments w (invoke P scope entry arguments w).2.2 := by
  have left : (invoke P scope entry arguments w).2.2 = (scope.resolve P entry.unit w).2.2 := by
    have invoked := invoke_invoked P scope entry arguments w
    generalize (invoke P scope entry arguments w).1 = result,
      (invoke P scope entry arguments w).2.2 = after at invoked ⊢
    cases invoked with
    | unresolved fault next _ refused => rw [refused]
    | unfound unit cause next _ resolved missing => rw [resolved]
    | unfit unit function fault _ linked bad =>
      obtain ⟨next, resolved⟩ := linked.resolved
      rw [resolved]
    | called unit function w' linked passable =>
      exact absurd passable (never unit function w' linked)
  refine ⟨left, invoke_unasked P scope entry arguments w never, ?_⟩
  rw [left]
  exact resolve_uncalled P scope entry.unit w

-- The function that an invocation calls, if it gets that far.
def callee? (P : Platform σ) (scope : Scope) (entry : EntryPoint) (arguments : List String)
    (w : World σ) : Option (LoadedUnit × Octets) :=
  match scope.resolve P entry.unit w with
  | (.error _, _, _) => none
  | (.ok unit, _, w) => match unit.find P entry.symbol w with
    | .error _ => none
    | .ok function => if (argumentFault? arguments).isNone then some (unit, function) else none

theorem callee_some (P : Platform σ) (scope : Scope) (entry : EntryPoint) (arguments : List String)
    (w : World σ) (unit : LoadedUnit) (function : Octets)
    (reached : callee? P scope entry arguments w = some (unit, function)) :
    Linked P scope entry w unit function (scope.resolve P entry.unit w).2.2 ∧
      Passable arguments := by
  unfold callee? at reached
  rcases resolved : scope.resolve P entry.unit w with ⟨fault | loaded, next, w'⟩
  · simp [resolved] at reached
  · cases found : loaded.find P entry.symbol w' with
    | error cause => simp [resolved, found] at reached
    | ok symbol =>
      simp only [resolved, found, Option.isNone_iff_eq_none, Option.ite_none_right_eq_some,
        Option.some.injEq, Prod.mk.injEq] at reached
      obtain ⟨fit, rfl, rfl⟩ := reached
      exact ⟨⟨⟨next, resolved⟩, found⟩, (argument_fault_none_iff arguments).mp fit⟩

theorem callee_none (P : Platform σ) (scope : Scope) (entry : EntryPoint) (arguments : List String)
    (w : World σ) (never : callee? P scope entry arguments w = none) (unit : LoadedUnit)
    (function : Octets) (w' : World σ) (linked : Linked P scope entry w unit function w') :
    ¬ Passable arguments := by
  obtain ⟨⟨next, resolved⟩, found⟩ := linked
  intro passable
  have fit := (argument_fault_none_iff arguments).mpr passable
  simp [callee?, resolved, found, fit] at never

-- A scope whose host has a library for the entry function.
def Scope.served : Scope := .start .empty ⟨[("Main", ⟨0, "Main", .host, 0, none⟩)]⟩ .memory

end Fragment
