import Fragment.Loader
import Fragment.Proofs.Scratch
/-!
The ledger of a world: what it has recorded, which units are loaded, and the next unit's number.
Scratch files come and go without a mark in it; a run of a program, a path for the dynamic loader
and the end of a unit each leave one event.
-/
namespace Fragment

variable {σ : Type}

structure Ledger where
  events : List Event
  units : List LoadedUnit
  nextSerial : Nat

def World.ledger (w : World σ) : Ledger := ⟨w.events, w.units, w.nextSerial⟩

def Ledger.record (ledger : Ledger) (event : Event) : Ledger :=
  { ledger with events := ledger.events ++ [event] }

def Ledger.unload (ledger : Ledger) (serial : Nat) : Ledger :=
  { ledger with units := ledger.units.filter (·.serial != serial)
                events := ledger.events ++ [.unloaded serial] }

inductive EventKind where
  | run
  | handover
  | call
  | unload
  | close
deriving DecidableEq

def Event.kind : Event → EventKind
  | .spawned .. => .run
  | .handed .. => .handover
  | .called .. => .call
  | .unloaded _ => .unload
  | .scopeClosed => .close

namespace World

@[simp] theorem ledger_record (w : World σ) (event : Event) :
    (w.record event).ledger = w.ledger.record event := rfl

@[simp] theorem ledger_setFiles (w : World σ) (files : FileTree) :
    (w.setFiles files).ledger = w.ledger := rfl

end World

namespace OutputTarget

theorem ledger_create (P : Platform σ) (mode : ScratchMode) (label : String) (w : World σ) :
    (create P mode label w).2.ledger = w.ledger := by
  have created := create_created P mode label w
  generalize (create P mode label w).1 = made, (create P mode label w).2 = w' at created ⊢
  cases created with
  | refused | memory | privateDir => rfl

theorem ledger_write (target written : OutputTarget) (octets : Octets) (w w' : World σ)
    (done : target.write octets w = .ok (written, w')) : w'.ledger = w.ledger := by
  cases target with
  | memory descriptor content =>
    simp only [write, Except.ok.injEq, Prod.mk.injEq] at done
    rw [← done.2]
  | privateDir directory path =>
    cases put : w.process.files.write path octets with
    | error cause => simp [write, argument, put, Except.map] at done
    | ok files =>
      simp only [write, argument, put, Except.map, Except.ok.injEq, Prod.mk.injEq] at done
      rw [← done.2, World.ledger_setFiles]

theorem ledger_receive (target : OutputTarget) (emissions : List Emission) (w : World σ) :
    (target.receive emissions w).2.ledger = w.ledger := by
  cases target with
  | memory descriptor content => rfl
  | privateDir directory path =>
    unfold receive
    cases left : Scratch.outputContent emissions with
    | none => rfl
    | some content =>
      cases put : (privateDir directory path).write content w with
      | error cause => simp [put]
      | ok written => simpa [put] using ledger_write _ _ _ _ _ put

@[simp] theorem ledger_discard (target : OutputTarget) (w : World σ) :
    (target.discard w).ledger = w.ledger := by
  cases target <;> rfl

end OutputTarget

namespace Backing

theorem ledger_create (P : Platform σ) (mode : ScratchMode) (unit : String) (octets : Octets)
    (w : World σ) : (create P mode unit octets w).2.ledger = w.ledger := by
  have created := create_created P mode unit octets w
  generalize (create P mode unit octets w).1 = made, (create P mode unit octets w).2 = w' at created ⊢
  cases created with
  | refused | unfilled | memory | unwritten | written => rfl

@[simp] theorem ledger_discard (backing : Backing) (w : World σ) :
    (backing.discard w).ledger = w.ledger := by
  cases backing <;> rfl

end Backing

namespace LoadedUnit

theorem ledger_unload (P : Platform σ) (w : World σ) (unit : LoadedUnit) :
    (unload P w unit).ledger = w.ledger.unload unit.serial := by
  cases held : unit.backing with
  | none => simp only [unload, held]; rfl
  | some backing =>
    simp only [unload, held, World.ledger_record, Backing.ledger_discard]
    rfl

end LoadedUnit

namespace World

-- The fold runs over the units that are let go, so nothing but their ends is recorded.
theorem events_unload_all (P : Platform σ) (released : List LoadedUnit) (w : World σ) :
    (released.foldl (LoadedUnit.unload P) w).events =
      w.events ++ released.map fun unit => .unloaded unit.serial := by
  induction released generalizing w with
  | nil => simp
  | cons unit rest ih =>
    have step : (LoadedUnit.unload P w unit).events = w.events ++ [.unloaded unit.serial] :=
      congrArg Ledger.events (LoadedUnit.ledger_unload P w unit)
    rw [List.foldl_cons, ih, step]
    simp

theorem events_keepOnly (P : Platform σ) (held : List Nat) (w : World σ) :
    ∃ ends : List Event, (w.keepOnly P held).events = w.events ++ ends ∧
      ∀ event ∈ ends, event.kind = .unload := by
  refine ⟨_, events_unload_all P _ w, ?_⟩
  intro event member
  obtain ⟨unit, _, rfl⟩ := List.mem_map.mp member
  rfl

end World

theorem Scope.events_close (P : Platform σ) (held : List Nat) (scope : Scope) (w : World σ)
    (opened : scope.isOpen = true) :
    ∃ ends : List Event, (scope.close P held w).2.events = w.events ++ (ends ++ [.scopeClosed]) ∧
      ∀ event ∈ ends, event.kind = .unload := by
  obtain ⟨ends, kept, only⟩ := World.events_keepOnly P held w
  refine ⟨ends, ?_, only⟩
  simp only [close, opened, if_true, World.record, kept, List.append_assoc]

end Fragment
