import Fragment.Platform
import Fragment.Program.Memory
import Std.Data.HashMap
/-!
The state of running code: its memory, its streams, the environment, and the libraries that are
loaded. Running code also sees the files and the standard output of its process. It ends early when
the process ends, by a call or by a fault.
-/
namespace Fragment.Program

inductive Sink where
  | input
  | output
  | errors
  | file (location : Location)
deriving DecidableEq, Repr, Inhabited

structure Stream where
  sink : Sink
  canRead : Bool
  canWrite : Bool
  appends : Bool
  position : Nat
  pending : Octets
  pushed : Octets
  atEnd : Bool
  failed : Bool
  isOpen : Bool
  direct : Bool
deriving Inhabited

-- A loaded library. One of the system has no image of its own.
structure Loaded where
  path : Path
  holders : Nat
  image : Image
  routines : Std.HashMap String Routine
  symbols : Std.HashMap String Nat
  texts : Array Nat
  offers : String → Bool
  exports : Std.HashMap String Nat
deriving Inhabited

structure Machine where
  memory : Memory
  streams : Array Stream
  environment : List (Octets × Octets)
  libraries : List (Nat × Loaded)
  nextLibrary : Nat
  current : Nat
  standards : Std.HashMap String Nat
  atEnd : List (Nat × Nat)
  signals : List (Nat × Nat)
  random : Array Nat
  word : Nat
  errorNumber : Nat
deriving Inhabited

-- Something that running code does. The process may end in the middle of it.
abbrev Act := EStateM Ending (Process Machine)

namespace Act

def machine : Act Machine := return (← get).code

def modifyMachine (f : Machine → Machine) : Act Unit := modify fun p => { p with code := f p.code }

def modifyMemory (f : Memory → Memory) : Act Unit :=
  modifyMachine fun m => { m with memory := f m.memory }

def killed {α : Type} (signal : Nat) : Act α := throw (.killed signal)

def badAccess {α : Type} : Act α := killed 11

def readOctets (address count : Nat) : Act Octets := do
  if count = 0 then return []
  else match (← machine).memory.read? address count with
    | some octets => return octets
    | none => badAccess

def readText (address : Nat) : Act Octets := do
  match (← machine).memory.readText? address with
  | some octets => return octets
  | none => badAccess

def writeOctets (address : Nat) (octets : Octets) : Act Unit := do
  if octets.isEmpty then return
  else match (← machine).memory.write? address octets with
    | some memory => modifyMemory fun _ => memory
    | none => badAccess

def load (shape : Shape) (address : Nat) : Act Value :=
  return shape.decode (← readOctets address shape.size)

def store (shape : Shape) (address : Nat) (v : Value) : Act Unit :=
  writeOctets address (shape.encode v)

def addBlock (b : Block) : Act Nat := do
  let (address, memory) := (← machine).memory.add b
  modifyMemory fun _ => memory
  return address

def allocate (size : Nat) : Act Nat := addBlock (.octets (Array.replicate size 0))

def free (address : Nat) : Act Unit := modifyMemory (·.free address)

def allocateWith (octets : Octets) : Act Nat := addBlock (.octets octets.toArray)

def setError (number : Nat) : Act Unit := do
  store (.integer 4 true) (← machine).errorNumber (.integer number)

def setFault (fault : OsFault) : Act Unit :=
  match fault with
  | .number n => setError n
  | _ => setError 22

/-! Streams. -/

def stream? (address : Nat) : Act (Option (Nat × Stream)) := do
  let m ← machine
  match m.memory.block address with
  | .stream n => return (m.streams[n]?).bind fun s => if s.isOpen then some (n, s) else none
  | _ => return none

def stream (address : Nat) : Act (Nat × Stream) := do
  match ← stream? address with
  | some s => return s
  | none => badAccess

def setStream (n : Nat) (s : Stream) : Act Unit :=
  modifyMachine fun m => { m with streams := m.streams.setIfInBounds n s }

def addStream (s : Stream) : Act Nat := do
  let n := (← machine).streams.size
  modifyMachine fun m => { m with streams := m.streams.push s }
  addBlock (.stream n)

def bufferSize : Nat := 4096

def print (octets : Octets) : Act Unit := modify fun p =>
  let out := p.stdout.act (.loadedPrint octets)
  let held := out.loaded.length
  { p with stdout :=
      if bufferSize < held then out.act (.loadedSpill (held / bufferSize * bufferSize)) else out }

def fileContent (location : Location) : Act Octets := do
  match (← get).files.entry? location with
  | some (.file _ content) => return content
  | _ => return []

def setContent (location : Location) (content : Octets) : Act Unit := modify fun p =>
  match p.files.entry? location with
  | some (.file mode _) => { p with files := p.files.put location (.file mode content) }
  | _ => p

def overwritten (content : Octets) (position : Nat) (octets : Octets) : Octets :=
  let before := content.take position
  before ++ List.replicate (position - before.length) 0 ++ octets ++
    content.drop (position + octets.length)

def flushStream (n : Nat) : Act Unit := do
  match (← machine).streams[n]? with
  | none => return
  | some s =>
    match s.sink with
    | .output => modify fun p => { p with stdout := p.stdout.flushLoaded }
    | .file location =>
      if !s.pending.isEmpty then
        let content ← fileContent location
        let first := if s.appends then content.length else s.position
        setContent location (overwritten content first s.pending)
        setStream n { s with pending := [], position := first + s.pending.length }
    | _ => return

def flushAll : Act Unit := do
  for n in List.range (← machine).streams.size do
    flushStream n

def writeStream (n : Nat) (s : Stream) (octets : Octets) : Act Bool := do
  if !s.canWrite then
    setStream n { s with failed := true }
    setError 9
    return false
  else
    match s.sink with
    | .output =>
      print octets
      if s.direct then flushStream n
    | .errors => modify fun p => { p with stderr := p.stderr ++ octets }
    | .file _ =>
      let pending := s.pending ++ octets
      setStream n { s with pending }
      if s.direct || bufferSize < pending.length then flushStream n
    | .input => pure ()
    return true

def readStream (n : Nat) (count : Nat) : Act Octets := do
  flushStream n
  match (← machine).streams[n]? with
  | none => return []
  | some s =>
    if !s.canRead then
      setStream n { s with failed := true }
      setError 9
      return []
    else
      let content ← match s.sink with
        | .file location => fileContent location
        | _ => pure []
      let again := s.pushed.take count
      let rest := (content.drop s.position).take (count - again.length)
      let got := again ++ rest
      setStream n { s with
        pushed := s.pushed.drop again.length
        position := s.position + rest.length
        atEnd := s.atEnd || got.length < count }
      return got

end Act

namespace Machine

def openStream (sink : Sink) (canRead canWrite : Bool) : Stream :=
  ⟨sink, canRead, canWrite, false, 0, [], [], false, false, true, false⟩

def streamNames : List String := ["stdin", "stdout", "stderr"]

def start (environment : List (Octets × Octets)) : Machine :=
  let (errorNumber, memory) := Memory.start.allocate 4
  let (memory, standards) := (streamNames.zip [0, 1, 2]).foldl (fun (memory, standards) (name, n) =>
    let (stream, memory) := memory.add (.stream n)
    let (object, memory) := memory.add (.octets (littleEndian 8 stream).toArray)
    (memory, standards.insert name object)) (memory, (∅ : Std.HashMap String Nat))
  { memory
    streams := #[openStream .input true false, openStream .output false true,
      { openStream .errors false true with direct := true }]
    environment
    libraries := []
    nextLibrary := 0
    current := 0
    standards
    atEnd := []
    signals := []
    random := #[]
    word := 0
    errorNumber }

end Machine
end Fragment.Program
