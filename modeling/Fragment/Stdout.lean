import Fragment.Text.Octets
/-!
Standard output with two buffers in front of it: that of the host and that of loaded code. Either
buffer may pass a part of what it holds on to the descriptor at any time; what is passed on stays in
order.
-/
namespace Fragment

structure Stdout where
  written : Octets
  host : Octets
  loaded : Octets
deriving DecidableEq, Repr

namespace Stdout

def empty : Stdout := ⟨[], [], []⟩

-- What happens to standard output: someone prints into a buffer, or the first `count` octets of
-- a buffer spill to the descriptor.
inductive Action where
  | hostPrint (octets : Octets)
  | hostSpill (count : Nat)
  | loadedPrint (octets : Octets)
  | loadedSpill (count : Nat)

def act (out : Stdout) : Action → Stdout
  | .hostPrint octets => { out with host := out.host ++ octets }
  | .hostSpill count =>
    { out with written := out.written ++ out.host.take count, host := out.host.drop count }
  | .loadedPrint octets => { out with loaded := out.loaded ++ octets }
  | .loadedSpill count =>
    { out with written := out.written ++ out.loaded.take count, loaded := out.loaded.drop count }

def flushHost (out : Stdout) : Stdout := out.act (.hostSpill out.host.length)

def flushLoaded (out : Stdout) : Stdout := out.act (.loadedSpill out.loaded.length)

-- The host prints a line; its buffer is passed on at the end of a line.
def hostLine (out : Stdout) (line : String) : Stdout :=
  (out.act (.hostPrint (Octets.ofString (line ++ "\n")))).flushHost

theorem host_flushHost (out : Stdout) : out.flushHost.host = [] := by
  simp [flushHost, act]

theorem loaded_flushLoaded (out : Stdout) : out.flushLoaded.loaded = [] := by
  simp [flushLoaded, act]

end Stdout
end Fragment
