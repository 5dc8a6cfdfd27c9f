import Fragment.Platform
/-!
Scratch files: where a toolchain reads its input, leaves its output, and where the dynamic loader
finds a unit. In memory they are files without a name, reached through their descriptor; in a
private directory they are files of a directory that is made for one of them and removed with it.
-/
namespace Fragment

namespace ScratchMode

-- Memory files are preferred; without them every scratch file is in a private directory.
def resolve (mode : ScratchMode) (hasMemoryFiles : Bool := true) : ScratchMode :=
  match mode with
  | .privateDir => .privateDir
  | .auto | .memory => if hasMemoryFiles then .memory else .privateDir

end ScratchMode

namespace Scratch

-- The system cuts the label of a memory file off at no octet: it refuses longer ones.
def labelLimit : Nat := 249

def checkLabel (label : String) : Except OsFault Unit :=
  let octets := Octets.ofString label
  match octets.nulAt? with
  | some position => .error (.nulAt position)
  | none => if labelLimit < octets.length then .error .invalidArgument else .ok ()

def checkFor (mode : ScratchMode) (label : String) : Except OsFault Unit :=
  match mode.resolve with
  | .memory => checkLabel label
  | _ => .ok ()

-- What is read of an anonymous file that the octets were put into.
def anonymous (mode : ScratchMode) (label : String) (octets : Octets) : Except OsFault Octets :=
  (checkFor mode label).map fun _ => octets

def temporary : Octets := Path.ofString "tmp"

def ofLocation (location : Location) : Path :=
  location.foldl (fun path name => path ++ Path.slash :: name) []

-- Puts octets into a content from an offset on; a gap is filled with zeros. No octets make no gap.
def overwrite (content : Octets) (offset : Nat) (octets : Octets) : Octets :=
  if octets.isEmpty then content
  else content.take offset ++ List.replicate (offset - content.length) 0 ++ octets ++
    content.drop (offset + octets.length)

-- A memory file that is both the output file and the standard output of a program: its content,
-- and how far each of the two has got.
structure Shared where
  content : Octets
  outputAt : Option Nat
  printedAt : Nat

def Shared.take (s : Shared) : Emission → Shared
  | .create => { s with content := [], outputAt := some 0 }
  | .write octets => match s.outputAt with
    | some offset =>
      { s with content := overwrite s.content offset octets
               outputAt := some (offset + octets.length) }
    | none => s
  | .print octets =>
    { s with content := overwrite s.content s.printedAt octets
             printedAt := s.printedAt + octets.length }

def sharedContent (emissions : List Emission) : Octets :=
  (emissions.foldl Shared.take ⟨[], none, 0⟩).content

def outputContent (emissions : List Emission) : Option Octets :=
  emissions.foldl (fun content emission =>
    match emission with
    | .create => some []
    | .write octets => content.map (· ++ octets)
    | .print _ => content) none

end Scratch

namespace World

variable {σ : Type}

def openDescriptor (P : Platform σ) (w : World σ) : Nat × World σ :=
  let descriptor := P.freshDescriptor w.descriptors
  (descriptor, { w with descriptors := w.descriptors ++ [descriptor] })

def closeDescriptor (w : World σ) (descriptor : Nat) : World σ :=
  { w with descriptors := w.descriptors.erase descriptor }

def openDirectory (P : Platform σ) (w : World σ) : Location × World σ :=
  let files := w.process.files
  let location := [Scratch.temporary, P.freshDirectory files]
  (location, w.setFiles (files.addDirectory location))

def removeDirectory (w : World σ) (directory : Location) : World σ :=
  w.setFiles (w.process.files.remove directory)

-- May a scratch file be made? Its label is checked before the system is asked.
def permit (P : Platform σ) (mode : ScratchMode) (label : String) (request : Request)
    (w : World σ) : Except OsFault Unit := do
  Scratch.checkFor (mode.resolve P.hasMemoryFiles) label
  w.ask P request

def stage (P : Platform σ) (mode : ScratchMode) (label : String) (octets : Octets) (w : World σ) :
    Except OsFault Octets := do
  let staged ← Scratch.anonymous (mode.resolve P.hasMemoryFiles) label octets
  w.ask P .openInput
  w.ask P .fillInput
  return staged

end World

def memoryPath (descriptor : Nat) : Path :=
  Path.ofString ("/proc/self/fd/" ++ toString descriptor)

inductive OutputTarget where
  | memory (descriptor : Nat) (content : Octets)
  | privateDir (directory : Location) (path : Path)
deriving DecidableEq, Repr

namespace OutputTarget

variable {σ : Type}

def create (P : Platform σ) (mode : ScratchMode) (label : String) (w : World σ) :
    Except OsFault OutputTarget × World σ :=
  match w.permit P mode label .openOutput with
  | .error cause => (.error cause, w)
  | .ok _ => match mode.resolve P.hasMemoryFiles with
    | .memory =>
      let (descriptor, w) := w.openDescriptor P
      (.ok (.memory descriptor []), w)
    | _ =>
      let (directory, w) := w.openDirectory P
      let path := (Scratch.ofLocation directory).join (Path.ofString label)
      (.ok (.privateDir directory path), w)

def isPrivate : OutputTarget → Bool
  | .memory .. => false
  | .privateDir .. => true

-- The output file as the toolchain is told it. A memory file is its standard output.
def argument : OutputTarget → Path
  | .memory .. => memoryPath 1
  | .privateDir _ path => path

-- Makes the target the standard output of a program, if it is a memory file.
def share (P : Platform σ) (target : OutputTarget) (w : World σ) : Except OsFault Unit :=
  match target with
  | .memory .. => w.ask P .shareOutput
  | .privateDir .. => .ok ()

def write (target : OutputTarget) (octets : Octets) (w : World σ) :
    Except OsFault (OutputTarget × World σ) :=
  match target with
  | .memory descriptor _ => .ok (.memory descriptor octets, w)
  | .privateDir .. => (w.process.files.write target.argument octets).map
      fun files => (target, w.setFiles files)

-- Takes in what a run emitted. An output file that cannot be made is not made, and what a run
-- prints counts only where standard output is the output file.
def receive (target : OutputTarget) (emissions : List Emission) (w : World σ) :
    OutputTarget × World σ :=
  match target with
  | .memory descriptor _ => (.memory descriptor (Scratch.sharedContent emissions), w)
  | .privateDir .. => match Scratch.outputContent emissions with
    | none => (target, w)
    | some content => match target.write content w with
      | .ok written => written
      | .error _ => (target, w)

-- All that was left there. A file that was never made leaves nothing.
def drain (target : OutputTarget) (w : World σ) : Except OsFault Octets :=
  match target with
  | .memory _ content => .ok content
  | .privateDir _ path => match w.process.files.read path with
    | .error cause => if cause = .noSuchFile then .ok [] else .error cause
    | .ok content => .ok content

def collect (P : Platform σ) (target : OutputTarget) (w : World σ) : Except OsFault Octets := do
  w.ask P .readOutput
  target.drain w

def discard (target : OutputTarget) (w : World σ) : World σ :=
  match target with
  | .memory descriptor _ => w.closeDescriptor descriptor
  | .privateDir directory _ => w.removeDirectory directory

end OutputTarget

namespace Backing

variable {σ : Type}

def path : Backing → Path
  | .memory descriptor => memoryPath descriptor
  | .privateDir _ path => path

def content (backing : Backing) (octets : Octets) : Option Octets :=
  match backing with
  | .memory _ => some octets
  | .privateDir .. => none

def discard (backing : Backing) (w : World σ) : World σ :=
  match backing with
  | .memory descriptor => w.closeDescriptor descriptor
  | .privateDir directory _ => w.removeDirectory directory

def create (P : Platform σ) (mode : ScratchMode) (unit : String) (octets : Octets) (w : World σ) :
    Except OsFault Backing × World σ :=
  let label := UnitKind.output.fileName unit
  match w.permit P mode label .openBacking with
  | .error cause => (.error cause, w)
  | .ok _ => match mode.resolve P.hasMemoryFiles with
    | .memory =>
      let (descriptor, w) := w.openDescriptor P
      match w.ask P .fillBacking with
      | .error cause => (.error cause, w.closeDescriptor descriptor)
      | .ok _ => (.ok (.memory descriptor), w)
    | _ =>
      let (directory, w) := w.openDirectory P
      let path := (Scratch.ofLocation directory).join (Path.ofString label)
      match w.ask P .fillBacking >>= fun _ => w.process.files.write path octets with
      | .ok files => (.ok (.privateDir directory path), w.setFiles files)
      | .error cause => (.error cause, w.removeDirectory directory)

end Backing
end Fragment
