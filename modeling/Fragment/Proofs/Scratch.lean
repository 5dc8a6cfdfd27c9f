import Fragment.Proofs.Skeleton
import Fragment.Scratch
/-!
How output targets and backings come about: as a memory file, or as a file in a directory that is made
for it. A refusal takes the directory away again.
-/
namespace Fragment

variable {σ : Type}

theorem file_name_octets (kind : UnitKind) (name : String) :
    Octets.ofString (kind.fileName name) =
      Octets.ofString name ++ 46 :: Octets.ofString kind.extension := by
  rw [UnitKind.fileName, Octets.ofString_append, Octets.ofString_append, List.append_assoc]
  rfl

def privatePath (directory : Location) (name : String) : Path :=
  (Scratch.ofLocation directory).join (Path.ofString (UnitKind.output.fileName name))

@[simp] theorem ScratchMode.resolve_resolve (mode : ScratchMode) (hasMemoryFiles : Bool) :
    (mode.resolve hasMemoryFiles).resolve = mode.resolve hasMemoryFiles := by
  cases mode <;> cases hasMemoryFiles <;> rfl

theorem World.ask_granted (P : Platform σ) (request : Request) (w : World σ)
    (granted : P.refusal request w.process = none) : w.ask P request = .ok () := by
  rw [World.ask, granted]

theorem World.ask_refused (P : Platform σ) (request : Request) (w : World σ) (cause : OsFault)
    (refused : P.refusal request w.process = some cause) : w.ask P request = .error cause := by
  rw [World.ask, refused]

theorem Scratch.check_elsewhere (mode : ScratchMode) (hasMemoryFiles : Bool) (label : String)
    (elsewhere : mode.resolve hasMemoryFiles ≠ .memory) :
    Scratch.checkFor (mode.resolve hasMemoryFiles) label = .ok () := by
  unfold Scratch.checkFor
  rw [ScratchMode.resolve_resolve]
  split
  · contradiction
  · rfl

def Platform.Grants (P : Platform σ) : Prop :=
  ∀ request (process : Process σ), P.refusal request process = none

section granted

variable {P : Platform σ} {w : World σ}

theorem World.stage_granted (granted : P.Grants) (mode : ScratchMode) (label : String)
    (octets : Octets) (fits : Scratch.checkFor (mode.resolve P.hasMemoryFiles) label = .ok ()) :
    w.stage P mode label octets = .ok octets := by
  rw [World.stage, Scratch.anonymous, fits, World.ask_granted P .openInput w (granted _ _),
    World.ask_granted P .fillInput w (granted _ _)]
  rfl

theorem OutputTarget.share_granted (granted : P.Grants) (target : OutputTarget) :
    target.share P w = .ok () := by
  cases target with
  | memory descriptor content => exact World.ask_granted P .shareOutput w (granted _ _)
  | privateDir directory path => rfl

theorem OutputTarget.collect_granted (granted : P.Grants) (target : OutputTarget) :
    target.collect P w = target.drain w := by
  rw [OutputTarget.collect, World.ask_granted P .readOutput w (granted _ _)]
  rfl

end granted

theorem World.permit_granted (P : Platform σ) (mode : ScratchMode) (label : String)
    (request : Request) (w : World σ)
    (fits : Scratch.checkFor (mode.resolve P.hasMemoryFiles) label = .ok ())
    (granted : P.refusal request w.process = none) : w.permit P mode label request = .ok () := by
  rw [World.permit, fits]
  exact World.ask_granted P request w granted

theorem World.stage_verbatim (P : Platform σ) (mode : ScratchMode) (label : String)
    (octets staged : Octets) (w : World σ) (done : w.stage P mode label octets = .ok staged) :
    staged = octets := by
  unfold World.stage at done
  obtain ⟨content, checked, done⟩ := except_bind_ok done
  obtain ⟨-, -, done⟩ := except_bind_ok done
  obtain ⟨-, -, done⟩ := except_bind_ok done
  obtain rfl := Except.ok.inj done
  unfold Scratch.anonymous at checked
  cases fits : Scratch.checkFor (mode.resolve P.hasMemoryFiles) label with
  | error cause => simp [fits, Except.map] at checked
  | ok _ => simpa [fits, Except.map] using checked.symm

inductive OutputTarget.Created (P : Platform σ) (mode : ScratchMode) (label : String)
    (w : World σ) : Except OsFault OutputTarget → World σ → Prop where
  | refused (cause : OsFault) (refused : w.permit P mode label .openOutput = .error cause) :
      Created P mode label w (.error cause) w
  | memory (inMemory : mode.resolve P.hasMemoryFiles = .memory)
      (permitted : w.permit P mode label .openOutput = .ok ()) :
      Created P mode label w (.ok (.memory (w.openDescriptor P).1 [])) (w.openDescriptor P).2
  | privateDir (elsewhere : mode.resolve P.hasMemoryFiles ≠ .memory)
      (permitted : w.permit P mode label .openOutput = .ok ()) :
      Created P mode label w
        (.ok (.privateDir (w.openDirectory P).1
          ((Scratch.ofLocation (w.openDirectory P).1).join (Path.ofString label))))
        (w.openDirectory P).2

theorem OutputTarget.create_created (P : Platform σ) (mode : ScratchMode) (label : String)
    (w : World σ) :
    Created P mode label w (create P mode label w).1 (create P mode label w).2 := by
  unfold create
  cases permitted : w.permit P mode label .openOutput with
  | error cause => exact .refused cause permitted
  | ok _ =>
    cases resolved : mode.resolve P.hasMemoryFiles with
    | memory => exact .memory resolved permitted
    | auto | privateDir => exact .privateDir (by simp [resolved]) permitted

theorem OutputTarget.created_private (P : Platform σ) (mode : ScratchMode) (name : String)
    (target : OutputTarget) (w w' : World σ)
    (elsewhere : mode.resolve P.hasMemoryFiles ≠ .memory)
    (made : create P mode (UnitKind.output.fileName name) w = (.ok target, w')) :
    target = .privateDir (w.openDirectory P).1 (privatePath (w.openDirectory P).1 name) ∧
      w' = (w.openDirectory P).2 := by
  have created := create_created P mode (UnitKind.output.fileName name) w
  rw [made] at created
  cases created with
  | memory inMemory => exact absurd inMemory elsewhere
  | privateDir => exact ⟨rfl, rfl⟩

theorem OutputTarget.created_memory (P : Platform σ) (mode : ScratchMode) (label : String)
    (target : OutputTarget) (w w' : World σ) (inMemory : mode.resolve P.hasMemoryFiles = .memory)
    (made : create P mode label w = (.ok target, w')) :
    target = .memory (w.openDescriptor P).1 [] ∧ w' = (w.openDescriptor P).2 := by
  have created := create_created P mode label w
  rw [made] at created
  cases created with
  | memory => exact ⟨rfl, rfl⟩
  | privateDir elsewhere => exact absurd inMemory elsewhere

theorem OutputTarget.create_private (P : Platform σ) (mode : ScratchMode) (name : String)
    (w : World σ) (elsewhere : mode.resolve P.hasMemoryFiles ≠ .memory)
    (granted : P.refusal .openOutput w.process = none) :
    create P mode (UnitKind.output.fileName name) w =
      (.ok (.privateDir (w.openDirectory P).1 (privatePath (w.openDirectory P).1 name)),
        (w.openDirectory P).2) := by
  have fits := Scratch.check_elsewhere mode P.hasMemoryFiles (UnitKind.output.fileName name) elsewhere
  rw [create, World.permit_granted P mode _ .openOutput w fits granted]
  cases resolved : mode.resolve P.hasMemoryFiles with
  | memory => contradiction
  | auto | privateDir => rfl

theorem OutputTarget.receive_private (directory : Location) (path : Path)
    (emissions : List Emission) (w : World σ) :
    let target := OutputTarget.privateDir directory path
    let filled := target.receive emissions w
    filled.1 = target ∧
      (filled.2 = w ∧ (∀ content written, Scratch.outputContent emissions = some content →
          w.process.files.write path content ≠ .ok written) ∨
        ∃ content written, Scratch.outputContent emissions = some content ∧
          w.process.files.write path content = .ok written ∧ filled.2 = w.setFiles written) := by
  intro target filled
  cases left : Scratch.outputContent emissions with
  | none =>
    simp only [filled, target, receive, left]
    exact ⟨trivial, .inl ⟨trivial, nofun⟩⟩
  | some content =>
    cases put : w.process.files.write path content with
    | error cause =>
      simp only [filled, target, receive, left, write, argument, put, Except.map]
      refine ⟨trivial, .inl ⟨trivial, ?_⟩⟩
      rintro content' written ⟨⟩ done
      cases put.symm.trans done
    | ok written =>
      simp only [filled, target, receive, left, write, argument, put, Except.map]
      exact ⟨trivial, .inr ⟨content, written, rfl, put, rfl⟩⟩

inductive Backing.Created (P : Platform σ) (mode : ScratchMode) (unit : String) (octets : Octets)
    (w : World σ) : Except OsFault Backing → World σ → Prop where
  | refused (cause : OsFault)
      (refused : w.permit P mode (UnitKind.output.fileName unit) .openBacking = .error cause) :
      Created P mode unit octets w (.error cause) w
  | unfilled (inMemory : mode.resolve P.hasMemoryFiles = .memory) (cause : OsFault)
      (failed : (w.openDescriptor P).2.ask P .fillBacking = .error cause) :
      Created P mode unit octets w (.error cause)
        ((w.openDescriptor P).2.closeDescriptor (w.openDescriptor P).1)
  | memory (inMemory : mode.resolve P.hasMemoryFiles = .memory) :
      Created P mode unit octets w (.ok (.memory (P.freshDescriptor w.descriptors)))
        (w.openDescriptor P).2
  | unwritten (elsewhere : mode.resolve P.hasMemoryFiles ≠ .memory) (cause : OsFault) :
      Created P mode unit octets w (.error cause)
        ((w.openDirectory P).2.removeDirectory (w.openDirectory P).1)
  | written (elsewhere : mode.resolve P.hasMemoryFiles ≠ .memory) (files : FileTree)
      (done : (w.openDirectory P).2.process.files.write (privatePath (w.openDirectory P).1 unit)
        octets = .ok files) :
      Created P mode unit octets w
        (.ok (.privateDir (w.openDirectory P).1 (privatePath (w.openDirectory P).1 unit)))
        ((w.openDirectory P).2.setFiles files)

theorem Backing.create_created (P : Platform σ) (mode : ScratchMode) (unit : String)
    (octets : Octets) (w : World σ) :
    Created P mode unit octets w (create P mode unit octets w).1 (create P mode unit octets w).2 := by
  unfold create
  dsimp only
  cases permitted : w.permit P mode (UnitKind.output.fileName unit) .openBacking with
  | error cause => exact .refused cause permitted
  | ok _ =>
    cases resolved : mode.resolve P.hasMemoryFiles with
    | memory =>
      dsimp only
      cases filled : (w.openDescriptor P).2.ask P .fillBacking with
      | error cause => exact .unfilled resolved cause filled
      | ok _ => exact .memory resolved
    | auto | privateDir =>
      have elsewhere : mode.resolve P.hasMemoryFiles ≠ .memory := by simp [resolved]
      dsimp only
      cases (w.openDirectory P).2.ask P .fillBacking with
      | error cause => exact .unwritten elsewhere cause
      | ok _ =>
        cases done : (w.openDirectory P).2.process.files.write
            (privatePath (w.openDirectory P).1 unit) octets with
        | error cause =>
          rw [privatePath] at done
          simp only [bind, Except.bind, done]
          exact .unwritten elsewhere cause
        | ok files =>
          have put := done
          rw [privatePath] at put
          simp only [bind, Except.bind, put]
          exact .written elsewhere files done

theorem Backing.create_written (P : Platform σ) (mode : ScratchMode) (unit : String)
    (octets : Octets) (w : World σ) (files : FileTree)
    (elsewhere : mode.resolve P.hasMemoryFiles ≠ .memory)
    (opened : P.refusal .openBacking w.process = none)
    (filled : P.refusal .fillBacking (w.openDirectory P).2.process = none)
    (done : (w.openDirectory P).2.process.files.write (privatePath (w.openDirectory P).1 unit)
      octets = .ok files) :
    create P mode unit octets w =
      (.ok (.privateDir (w.openDirectory P).1 (privatePath (w.openDirectory P).1 unit)),
        (w.openDirectory P).2.setFiles files) := by
  have fits := Scratch.check_elsewhere mode P.hasMemoryFiles (UnitKind.output.fileName unit) elsewhere
  rw [privatePath] at done
  rw [create, World.permit_granted P mode _ .openBacking w fits opened]
  cases resolved : mode.resolve P.hasMemoryFiles with
  | memory => contradiction
  | auto | privateDir =>
    simp only [World.ask_granted P .fillBacking _ filled, bind, Except.bind, done, privatePath]

end Fragment
