import Fragment.Platform
/-!
Scripted programs: programs that do the same at every run. They stand for a toolchain where none is
at hand.
-/
namespace Fragment

structure Script where
  stderr : Octets
  output : Option Octets
  ending : Ending
deriving DecidableEq, Repr

namespace Script

def run (script : Script) : Run where
  emissions := match script.output with
    | some octets => [.create, .write octets]
    | none => []
  stderr := script.stderr
  ending := script.ending

def install {σ : Type} (P : Platform σ) (program : Path) (script : Except OsFault Script) :
    Platform σ :=
  { P with spawn := fun invocation process =>
      if invocation.program = program then (script.map run, process)
      else P.spawn invocation process }

end Script
end Fragment
