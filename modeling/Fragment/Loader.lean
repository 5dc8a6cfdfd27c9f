import Fragment.Scratch
/-!
Loaded units, the host's registry of them, and scopes. A scope resolves names for one run: first
among the units it has defined, then in its store, then in the registry. Once closed it resolves
nothing.
-/
namespace Fragment

variable {σ : Type}

def loadUnit (P : Platform σ) (name : String) (origin : Origin) (path : Path)
    (content : Option Octets) (backing : Option Backing) (w : World σ) :
    Except LibraryFault LoadedUnit × World σ :=
  let (loaded, process) := P.load path content w.process
  let w := { w with process }.record (.handed path content)
  match loaded with
  | .error cause => (.error cause, w)
  | .ok library =>
    let unit : LoadedUnit := ⟨w.nextSerial, name, origin, library, backing⟩
    (.ok unit, { w with units := w.units ++ [unit], nextSerial := w.nextSerial + 1 })

namespace LoadedUnit

def define (P : Platform σ) (mode : ScratchMode) (name : String) (octets : Octets) (w : World σ) :
    Except LoaderFault LoadedUnit × World σ :=
  match Backing.create P mode name octets w with
  | (.error cause, w) => (.error (.backing name cause), w)
  | (.ok backing, w) =>
    match loadUnit P name .compiled backing.path (backing.content octets) (some backing) w with
    | (.error cause, w) => (.error (.define name cause), backing.discard w)
    | (.ok unit, w) => (.ok unit, w)

def ofLibrary (P : Platform σ) (name : String) (path : Path) (w : World σ) :
    Except LoaderFault LoadedUnit × World σ :=
  match path.nulAt? with
  | some position => (.error (.define name (.innerNul position)), w)
  | none => match loadUnit P name .host path none none w with
    | (.error cause, w) => (.error (.define name cause), w)
    | (.ok unit, w) => (.ok unit, w)

-- The octets by which a symbol is looked up: those of its name, without one zero at the end. No
-- other zero is allowed.
def symbolOctets (symbol : String) : Except LibraryFault Octets :=
  let octets := Octets.ofString symbol
  if octets.getLast? = some 0 then
    match Octets.nulAt? octets.dropLast with
    | some position => .error (.innerNulTerminated position)
    | none => .ok octets.dropLast
  else match octets.nulAt? with
    | some position => .error (.innerNul position)
    | none => .ok octets

def find (P : Platform σ) (unit : LoadedUnit) (symbol : String) (w : World σ) :
    Except LibraryFault Octets := do
  let octets ← symbolOctets symbol
  P.symbol unit.library octets w.process
  return octets

def unload (P : Platform σ) (w : World σ) (unit : LoadedUnit) : World σ :=
  let w := { w with
    process := P.unload unit.library w.process
    units := w.units.filter (·.serial != unit.serial) }
  let w := match unit.backing with
    | some backing => backing.discard w
    | none => w
  w.record (.unloaded unit.serial)

end LoadedUnit

def World.keepOnly (P : Platform σ) (held : List Nat) (w : World σ) : World σ :=
  (w.units.filter fun unit => !held.contains unit.serial).foldl (LoadedUnit.unload P) w

structure Registry where
  units : List (String × LoadedUnit)
deriving DecidableEq, Repr

namespace Registry

def empty : Registry := ⟨[]⟩

def get? (registry : Registry) (name : String) : Option LoadedUnit := registry.units.lookup name

def contains (registry : Registry) (name : String) : Bool := (registry.get? name).isSome

def register (registry : Registry) (unit : LoadedUnit) : Registry :=
  ⟨(unit.name, unit) :: registry.units.filter (·.1 != unit.name)⟩

def serials (registry : Registry) : List Nat := registry.units.map (·.2.serial)

def load (P : Platform σ) (registry : Registry) (name : String) (path : Path) (w : World σ) :
    Except LoaderFault LoadedUnit × Registry × World σ :=
  match LoadedUnit.ofLibrary P name path w with
  | (.error fault, w) => (.error fault, registry, w)
  | (.ok unit, w) => (.ok unit, registry.register unit, w)

end Registry

structure Scope where
  store : Store
  registry : Registry
  mode : ScratchMode
  isOpen : Bool
  defined : List (String × LoadedUnit)
deriving DecidableEq, Repr

namespace Scope

def start (store : Store) (registry : Registry) (mode : ScratchMode) : Scope :=
  ⟨store, registry, mode, true, []⟩

def resolve (P : Platform σ) (scope : Scope) (name : String) (w : World σ) :
    Except LoaderFault LoadedUnit × Scope × World σ :=
  if !scope.isOpen then (.error (.closed name), scope, w)
  else match scope.defined.lookup name with
    | some unit => (.ok unit, scope, w)
    | none => match scope.store.artifact? name with
      | some artifact =>
        if !artifact.complete then (.error (.incomplete name), scope, w)
        else match LoadedUnit.define P scope.mode name artifact.octets w with
          | (.error fault, w) => (.error fault, scope, w)
          | (.ok unit, w) => (.ok unit, { scope with defined := (name, unit) :: scope.defined }, w)
      | none => match scope.registry.get? name with
        | some unit => (.ok unit, scope, w)
        | none => (.error (.notFound name), scope, w)

-- Forgets the units defined here; those that nobody else holds are unloaded.
def close (P : Platform σ) (held : List Nat) (scope : Scope) (w : World σ) : Scope × World σ :=
  if scope.isOpen then
    ({ scope with isOpen := false, defined := [] }, (w.keepOnly P held).record .scopeClosed)
  else (scope, w)

end Scope
end Fragment
