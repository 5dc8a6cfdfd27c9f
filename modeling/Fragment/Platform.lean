import Fragment.Config
import Fragment.Fault.Basic
import Fragment.Files.Tree
import Fragment.Stdout
/-!
What surrounds a launcher. A `Platform` says how programs run, how libraries are loaded and called,
and which names are free; every part of it may answer in any way. A `Process` is what programs and
loaded code can see and change, a `World` that and what the launcher itself keeps of it: open memory
files, loaded units, and the record of what it had done.
-/
namespace Fragment

structure Invocation where
  program : Path
  arguments : List String
  locale : String
  input : Octets
deriving DecidableEq, Repr

inductive Emission where
  -- Creates the output file, or empties it, and starts at its beginning.
  | create
  | write (octets : Octets)
  | print (octets : Octets)
deriving DecidableEq, Repr

inductive Ending where
  | exited (status : Nat)
  | killed (signal : Nat)
  -- Killed, and the memory of the program was kept in a file.
  | dumped (signal : Nat)
deriving DecidableEq, Repr

def signalNames : List (Nat × String) := [
  (1, "SIGHUP"), (2, "SIGINT"), (3, "SIGQUIT"), (4, "SIGILL"), (5, "SIGTRAP"), (6, "SIGABRT"),
  (7, "SIGBUS"), (8, "SIGFPE"), (9, "SIGKILL"), (10, "SIGUSR1"), (11, "SIGSEGV"), (12, "SIGUSR2"),
  (13, "SIGPIPE"), (14, "SIGALRM"), (15, "SIGTERM"), (16, "SIGSTKFLT"), (17, "SIGCHLD"),
  (18, "SIGCONT"), (19, "SIGSTOP"), (20, "SIGTSTP"), (21, "SIGTTIN"), (22, "SIGTTOU"),
  (23, "SIGURG"), (24, "SIGXCPU"), (25, "SIGXFSZ"), (26, "SIGVTALRM"), (27, "SIGPROF"),
  (28, "SIGWINCH"), (29, "SIGIO"), (30, "SIGPWR"), (31, "SIGSYS")]

namespace Ending

def isSuccess : Ending → Bool
  | .exited 0 => true
  | _ => false

def signalText (signal : Nat) : String :=
  "signal: " ++ toString signal ++ match signalNames.lookup signal with
    | some name => " (" ++ name ++ ")"
    | none => ""

def render : Ending → String
  | .exited status => "exit status: " ++ toString status
  | .killed signal => signalText signal
  | .dumped signal => signalText signal ++ " (core dumped)"

end Ending

structure Run where
  emissions : List Emission
  stderr : Octets
  ending : Ending
deriving DecidableEq, Repr

-- What programs and loaded code can see and change. Once the process has ended, by a call that
-- did not come back, nothing more happens in it.
structure Process (σ : Type) where
  files : FileTree
  stdout : Stdout
  stderr : Octets
  ended : Option Ending
  code : σ

abbrev Library := Nat

-- What a scratch file needs of the operating system, which may refuse it at any time.
inductive Request where
  | openInput
  | fillInput
  | openOutput
  | shareOutput
  | readOutput
  | openBacking
  | fillBacking
deriving DecidableEq, Repr

structure Platform (σ : Type) where
  spawn : Invocation → Process σ → Except OsFault Run × Process σ
  -- Loads the library at the path. The content is given if the path is that of a memory file.
  load : Path → Option Octets → Process σ → Except LibraryFault Library × Process σ
  -- Can the symbol be got from the library, or from one that it depends on?
  symbol : Library → Octets → Process σ → Except LibraryFault Unit
  -- Calls the symbol with a count and a vector of arguments, and gives the returned status.
  call : Library → Octets → Nat → List (Option Octets) → Process σ → Int × Process σ
  unload : Library → Process σ → Process σ
  -- Are there memory files that programs and the dynamic loader find by a path?
  hasMemoryFiles : Bool
  refusal : Request → Process σ → Option OsFault
  freshDescriptor : List Nat → Nat
  freshDirectory : FileTree → Octets

inductive Origin where
  | compiled
  | host
deriving DecidableEq, Repr

inductive Backing where
  | memory (descriptor : Nat)
  | privateDir (directory : Location) (path : Path)
deriving DecidableEq, Repr

-- A library under a unit's name. The serial number tells units apart.
structure LoadedUnit where
  serial : Nat
  name : String
  origin : Origin
  library : Library
  backing : Option Backing
deriving DecidableEq, Repr

inductive Event where
  | spawned (invocation : Invocation) (run : Run)
  -- A path was handed to the dynamic loader, with these octets under it if they are in memory.
  | handed (path : Path) (content : Option Octets)
  | called (serial : Nat) (symbol : String) (arguments : List (Option Octets))
  | unloaded (serial : Nat)
  | scopeClosed
deriving DecidableEq, Repr

structure World (σ : Type) where
  process : Process σ
  descriptors : List Nat
  units : List LoadedUnit
  nextSerial : Nat
  events : List Event

namespace World

variable {σ : Type}

def record (w : World σ) (event : Event) : World σ := { w with events := w.events ++ [event] }

def setFiles (w : World σ) (files : FileTree) : World σ :=
  { w with process := { w.process with files } }

def setStdout (w : World σ) (stdout : Stdout) : World σ :=
  { w with process := { w.process with stdout } }

def print (w : World σ) (line : String) : World σ :=
  if w.process.ended.isSome then w else w.setStdout (w.process.stdout.hostLine line)

def ask (P : Platform σ) (request : Request) (w : World σ) : Except OsFault Unit :=
  match P.refusal request w.process with
  | some cause => .error cause
  | none => .ok ()

def lastRun? (w : World σ) : Option (Invocation × Run) :=
  w.events.reverse.findSome? fun
    | .spawned invocation run => some (invocation, run)
    | _ => none

def start (process : Process σ) : World σ := ⟨process, [], [], 0, []⟩

end World
end Fragment
