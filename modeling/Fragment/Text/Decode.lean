import Fragment.Text.Octets
/-!
Reading octets as UTF-8, one octet at a time. An ill-formed stretch counts once for each maximal
subpart: the longest run of octets that starts a well-formed character and then cannot go on.
Main fact: a run over two stretches is a run over the first and, from the state it ends in, a run
over the second, so what a character of one octet separates is read independently.
-/
namespace Fragment.Utf8

-- Between characters, or inside one that lacks `missing + 1` octets, the next of which lies
-- between `low` and `high`; `value` collects the code point.
inductive State where
  | between
  | inside (missing low high value : Nat)
deriving DecidableEq

-- What one octet starts: a whole character, a longer one, or nothing well formed (`none`).
def start (octet : Nat) : State × List (Option Char) :=
  if octet < 0x80 then (.between, [some (Char.ofNat octet)])
  else if octet < 0xC2 then (.between, [none])
  else if octet < 0xE0 then (.inside 0 0x80 0xBF (octet - 0xC0), [])
  else if octet = 0xE0 then (.inside 1 0xA0 0xBF 0, [])
  else if octet = 0xED then (.inside 1 0x80 0x9F 0xD, [])
  else if octet < 0xF0 then (.inside 1 0x80 0xBF (octet - 0xE0), [])
  else if octet = 0xF0 then (.inside 2 0x90 0xBF 0, [])
  else if octet < 0xF4 then (.inside 2 0x80 0xBF (octet - 0xF0), [])
  else if octet = 0xF4 then (.inside 2 0x80 0x8F 4, [])
  else (.between, [none])

def step (state : State) (octet : UInt8) : State × List (Option Char) :=
  let o := octet.toNat
  match state with
  | .between => start o
  | .inside missing low high value =>
    if low ≤ o ∧ o ≤ high then
      let value := 64 * value + (o - 0x80)
      match missing with
      | 0 => (.between, [some (Char.ofNat value)])
      | m + 1 => (.inside m 0x80 0xBF value, [])
    else
      let next := start o
      (next.1, none :: next.2)

-- An input that ends inside a character leaves one ill-formed stretch.
def finish : State → List (Option Char)
  | .between => []
  | .inside .. => [none]

def run (state : State) : Octets → List (Option Char) × State
  | [] => ([], state)
  | o :: rest =>
    let next := step state o
    let tail := run next.1 rest
    (next.2 ++ tail.1, tail.2)

def scan (octets : Octets) : List (Option Char) :=
  let read := run .between octets
  read.1 ++ finish read.2

def lossyChars (octets : Octets) : List Char := (scan octets).map (·.getD '\uFFFD')

def lossy (octets : Octets) : String := String.ofList (lossyChars octets)

def decode? (octets : Octets) : Option String := (scan octets).mapM id |>.map String.ofList

theorem run_append (state : State) (a b : Octets) :
    run state (a ++ b) =
      ((run state a).1 ++ (run (run state a).2 b).1, (run (run state a).2 b).2) := by
  induction a generalizing state with
  | nil => simp [run]
  | cons o rest ih => simp [run, ih]

end Fragment.Utf8
