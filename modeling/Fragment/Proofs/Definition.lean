import Fragment.Proofs.Files.ReadBack
import Fragment.Proofs.Ledger
/-!
Defining a unit from octets. The dynamic loader is handed one path, and finds exactly those octets
under it; the unit that comes of it has the next number and the origin of a compiled one.
-/
namespace Fragment

variable {σ : Type}

-- What the dynamic loader finds under a path: the memory file that is meant, or the file there.
def World.found (w : World σ) (path : Path) (content : Option Octets) : Except OsFault Octets :=
  match content with
  | some octets => .ok octets
  | none => w.process.files.read path

theorem Backing.create_found (P : Platform σ) (mode : ScratchMode) (name : String)
    (octets : Octets) (backing : Backing) (w w' : World σ)
    (made : create P mode name octets w = (.ok backing, w')) :
    w'.found backing.path (backing.content octets) = .ok octets := by
  have created := create_created P mode name octets w
  rw [made] at created
  cases created with
  | memory => rfl
  | written elsewhere files done => exact FileTree.read_write _ files _ octets done

-- The path has been handed to the dynamic loader, and the code that loading runs has run.
def World.handOver (P : Platform σ) (path : Path) (content : Option Octets) (w : World σ) :
    World σ :=
  { w with process := (P.load path content w.process).2 }.record (.handed path content)

def World.addUnit (unit : LoadedUnit) (w : World σ) : World σ :=
  { w with units := w.units ++ [unit], nextSerial := w.nextSerial + 1 }

theorem load_unit_answer (P : Platform σ) (name : String) (origin : Origin) (path : Path)
    (content : Option Octets) (backing : Option Backing) (w : World σ) :
    loadUnit P name origin path content backing w =
      match (P.load path content w.process).1 with
      | .error cause => (.error cause, w.handOver P path content)
      | .ok library => (.ok ⟨w.nextSerial, name, origin, library, backing⟩,
          (w.handOver P path content).addUnit ⟨w.nextSerial, name, origin, library, backing⟩) := by
  unfold loadUnit World.handOver
  rcases P.load path content w.process with ⟨cause | library, process⟩
  · rfl
  · rfl

-- A unit that was loaded from exactly these octets, and from nothing that was loaded before.
structure DefinedFrom (P : Platform σ) (mode : ScratchMode) (name : String) (octets : Octets)
    (w : World σ) (unit : LoadedUnit) : Prop where
  loaded : ∃ backing staged, Backing.create P mode name octets w = (.ok backing, staged) ∧
    staged.found backing.path (backing.content octets) = .ok octets ∧
    (P.load backing.path (backing.content octets) staged.process).1 = .ok unit.library ∧
    unit.backing = some backing
  named : unit.name = name
  compiled : unit.origin = .compiled
  fresh : unit.serial = w.nextSerial

namespace LoadedUnit

-- How far defining a unit gets. The library is loaded from the backing that was made for it; if it
-- is refused, the backing is given up again.
inductive Defining (P : Platform σ) (mode : ScratchMode) (name : String) (octets : Octets)
    (w : World σ) : Except LoaderFault LoadedUnit → World σ → Prop where
  | unbacked (cause : OsFault) (staged : World σ)
      (created : Backing.create P mode name octets w = (.error cause, staged)) :
      Defining P mode name octets w (.error (.backing name cause)) staged
  | refused (backing : Backing) (staged : World σ)
      (created : Backing.create P mode name octets w = (.ok backing, staged)) (cause : LibraryFault)
      (answer : (P.load backing.path (backing.content octets) staged.process).1 = .error cause) :
      Defining P mode name octets w (.error (.define name cause))
        (backing.discard (staged.handOver P backing.path (backing.content octets)))
  | loaded (backing : Backing) (staged : World σ)
      (created : Backing.create P mode name octets w = (.ok backing, staged)) (library : Library)
      (answer : (P.load backing.path (backing.content octets) staged.process).1 = .ok library) :
      Defining P mode name octets w
        (.ok ⟨staged.nextSerial, name, .compiled, library, some backing⟩)
        ((staged.handOver P backing.path (backing.content octets)).addUnit
          ⟨staged.nextSerial, name, .compiled, library, some backing⟩)

theorem define_defining (P : Platform σ) (mode : ScratchMode) (name : String) (octets : Octets)
    (w : World σ) :
    Defining P mode name octets w (define P mode name octets w).1
      (define P mode name octets w).2 := by
  unfold define
  rcases created : Backing.create P mode name octets w with ⟨cause | backing, staged⟩
  · exact .unbacked cause staged created
  · dsimp only
    rw [load_unit_answer]
    cases answer : (P.load backing.path (backing.content octets) staged.process).1 with
    | error cause => exact .refused backing staged created cause answer
    | ok library => exact .loaded backing staged created library answer

theorem define_defined (P : Platform σ) (mode : ScratchMode) (name : String) (octets : Octets)
    (unit : LoadedUnit) (w w' : World σ)
    (done : define P mode name octets w = (.ok unit, w')) :
    DefinedFrom P mode name octets w unit ∧
      ∃ path content, w'.events = w.events ++ [.handed path content] := by
  have defining := define_defining P mode name octets w
  rw [done] at defining
  cases defining with
  | loaded backing staged created library answer =>
    have kept := Backing.ledger_create P mode name octets w
    rw [created] at kept
    have record : staged.events = w.events := congrArg Ledger.events kept
    refine ⟨⟨⟨backing, staged, created, Backing.create_found P mode name octets backing w staged
      created, answer, rfl⟩, rfl, rfl, congrArg Ledger.nextSerial kept⟩, backing.path,
      backing.content octets, ?_⟩
    rw [← record]
    rfl

theorem define_refused (P : Platform σ) (mode : ScratchMode) (name : String) (octets : Octets)
    (fault : LoaderFault) (w w' : World σ)
    (refused : define P mode name octets w = (.error fault, w')) :
    ((∃ cause, fault = .define name cause) ∨ ∃ cause, fault = .backing name cause) ∧
      ∃ handed : List Event, w'.events = w.events ++ handed ∧
        ∀ event ∈ handed, event.kind = .handover := by
  have defining := define_defining P mode name octets w
  have kept := Backing.ledger_create P mode name octets w
  rw [refused] at defining
  cases defining with
  | unbacked cause staged created =>
    rw [created] at kept
    exact ⟨.inr ⟨cause, rfl⟩, [], (congrArg Ledger.events kept).trans (List.append_nil _).symm,
      by simp⟩
  | refused backing staged created cause answer =>
    rw [created] at kept
    have record : staged.events = w.events := congrArg Ledger.events kept
    have dropped := congrArg Ledger.events (Backing.ledger_discard backing
      (staged.handOver P backing.path (backing.content octets)))
    refine ⟨.inl ⟨cause, rfl⟩, [.handed backing.path (backing.content octets)], ?_,
      by simp [Event.kind]⟩
    rw [← record]
    exact dropped

end LoadedUnit

theorem Scope.resolve_stored (P : Platform σ) (store : Store) (registry : Registry)
    (mode : ScratchMode) (name : String) (octets : Octets) (w : World σ)
    (stored : store.octets? name = some octets) :
    (start store registry mode).resolve P name w =
      match LoadedUnit.define P mode name octets w with
      | (.error fault, w') => (.error fault, start store registry mode, w')
      | (.ok unit, w') =>
        (.ok unit, { start store registry mode with defined := [(name, unit)] }, w') := by
  obtain ⟨artifact, held, complete, rfl⟩ : ∃ artifact, store.artifact? name = some artifact ∧
      artifact.complete = true ∧ artifact.octets = octets := by
    unfold Store.octets? at stored
    cases found : store.artifact? name with
    | none => simp [found] at stored
    | some artifact =>
      cases complete : artifact.complete with
      | false => simp [found, complete] at stored
      | true => exact ⟨artifact, rfl, complete, by simpa [found, complete] using stored⟩
  unfold resolve
  rcases made : LoadedUnit.define P mode name artifact.octets w with ⟨fault | unit, w'⟩
  · simp [start, held, complete, made]
  · simp [start, held, complete, made]

end Fragment
