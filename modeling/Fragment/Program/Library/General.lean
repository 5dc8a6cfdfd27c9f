import Fragment.Program.Library.Texts
/-!
Functions of the standard library for memory, numbers, the environment, order, signals, and the end
of the process.
-/
namespace Fragment.Program.Library

/-! The end of the process. -/

-- Calls what was said to be called at the end, the last first, for one library or for all.
def runAtEnd (call : Caller) (library : Option Nat) : Nat → Act Unit
  | 0 => return
  | fuel + 1 => do
    let m ← Act.machine
    match m.atEnd.find? fun (owner, _) => library.isNone || library == some owner with
    | none => return
    | some (owner, function) =>
      Act.modifyMachine fun m => { m with atEnd := m.atEnd.erase (owner, function) }
      let _ ← call function []
      runAtEnd call library fuel

def runDestructors (call : Caller) (l : Loaded) : Act Unit := do
  for name in l.image.destructors do
    match l.symbols[name]? with
    | some function => let _ ← call function []
    | none => pure ()

def exit (call : Caller) (status : Int) : Act Value := do
  runAtEnd call none 1000
  for (_, l) in (← Act.machine).libraries do
    runDestructors call l
  Act.flushAll
  throw (.exited (status % 256).toNat)

/-! The environment. -/

def setVariable (name value : Octets) (replace : Bool) : Act Unit :=
  Act.modifyMachine fun m =>
    if (m.environment.lookup name).isSome then
      if replace then
        { m with environment := m.environment.map fun (n, old) =>
            (n, if n == name then value else old) }
      else m
    else { m with environment := m.environment ++ [(name, value)] }

def unsetVariable (name : Octets) : Act Unit := Act.modifyMachine fun m =>
  { m with environment := m.environment.filter (·.1 != name) }

def badName (name : Octets) : Bool := name.isEmpty || name.contains 61

/-! Numbers. -/

def parseInteger (least greatest : Int) (wraps : Bool) (values : List Value) : Act Value := do
  let t := Format.charsOf (← text values 0)
  let (n, rest) := (Format.integerAt? (address values 2) t).getD (0, t)
  if address values 1 != 0 then
    Act.store .address (address values 1)
      (.integer (address values 0 + (t.length - rest.length)))
  if n < least && !wraps then
    Act.setError 34
    answer least
  else if greatest < n then
    Act.setError 34
    answer greatest
  else answer (if n < 0 && wraps then n % (greatest + 1) else n)

def decimalOf (values : List Value) : Act Int := do
  return ((Format.integerAt? 10 (Format.charsOf (← text values 0))).getD (0, [])).1

def seeded (seed : Nat) : Array Nat :=
  let first := if seed = 0 then 1 else seed % Nat.pow 2 32
  let start := (List.range 30).foldl (fun (a : Array Nat) _ =>
    let last : Int := Int.bmod (a.getD (a.size - 1) 0) (Nat.pow 2 32)
    let next := (16807 * last).tmod 2147483647
    a.push (if next < 0 then next + 2147483647 else next).toNat) #[first]
  let ring := start.extract 3 31 ++ start.extract 0 3
  (List.range 310).foldl (fun a _ => advance a) ring
where
  advance (a : Array Nat) : Array Nat :=
    (a.extract 1 31).push ((a.getD 28 0 + a.getD 0 0) % Nat.pow 2 32)

def nextRandom : Act Value := do
  let m ← Act.machine
  let ring := if m.random.isEmpty then seeded 1 else m.random
  let ring := seeded.advance ring
  Act.modifyMachine fun m => { m with random := ring }
  answerNat (ring.getD 30 0 / 2)

def real (f : Float → Float) : Function := plain fun v => return .real (f (argument v 0).toReal)

def remainder (x y : Float) : Float :=
  let q := x / y
  x - y * (if q < 0 then q.ceil else q.floor)

def roundAway (x : Float) : Float := if x < 0 then (x - 0.5).ceil else (x + 0.5).floor

/-! Order. -/

def insertSorted (less : Octets → Octets → Act Bool) (x : Octets) : List Octets → Act (List Octets)
  | [] => return [x]
  | y :: rest => do
    if ← less x y then return x :: y :: rest
    else return y :: (← insertSorted less x rest)

def sortElements (less : Octets → Octets → Act Bool) : List Octets → Act (List Octets) → Act (List Octets)
  | [], done => done
  | x :: rest, done => sortElements less rest do insertSorted less x (← done)

def chunks (size : Nat) : Nat → Octets → List Octets
  | 0, _ => []
  | n + 1, octets => octets.take size :: chunks size n (octets.drop size)

def sortMemory (call : Caller) (values : List Value) : Act Value := do
  let (base, count, size) := (address values 0, address values 1, address values 2)
  let octets ← Act.readOctets base (count * size)
  let a ← Act.allocate size
  let b ← Act.allocate size
  let less (x y : Octets) : Act Bool := do
    Act.writeOctets a x
    Act.writeOctets b y
    return (← call (address values 3) [.integer a, .integer b]).toInt < 0
  let sorted ← sortElements less (chunks size count octets) (pure [])
  Act.writeOctets base sorted.flatten
  answer 0

def search (call : Caller) (key base size compare : Nat) : Nat → Nat → Act Value
  | 0, _ => answer 0
  | count + 1, place => do
    let n ← call compare [.integer key, .integer place]
    if n.toInt = 0 then answerNat place else search call key base size compare count (place + size)

/-! Signals. -/

def harmless : List Nat := [13, 17, 18, 23, 28]

def raise (call : Caller) (n : Nat) : Act Value := do
  match (← Act.machine).signals.lookup n with
  | some 1 => answer 0
  | some 0 | none =>
    if n = 0 || harmless.contains n then answer 0
    else if 64 < n then
      Act.setError 22
      answer (-1)
    else Act.killed n
  | some handler =>
    let _ ← call handler [.integer n]
    answer 0

def setHandler (n handler : Nat) : Act Value := do
  let old := ((← Act.machine).signals.lookup n).getD 0
  if n = 9 || n = 19 || n = 0 || 64 < n then
    Act.setError 22
    answer (Nat.pow 2 64 - 1 : Nat)
  else
    Act.modifyMachine fun m =>
      { m with signals := (n, handler) :: m.signals.filter (·.1 != n) }
    answerNat old

def reallocate (old size : Nat) : Act Value := do
  let new ← Act.allocate size
  match (← Act.machine).memory.behind old with
  | some (content, _) =>
    Act.writeOctets new (content.toList.take size)
    Act.free old
  | none => pure ()
  answerNat new

def quotient (size : Nat) : Function := plain fun v => do
  let (a, b) := (integer v 0, integer v 1)
  if b = 0 then Act.killed 8
  else return .block (littleEndian size (a.tdiv b % (Nat.pow 2 (8 * size) : Nat)).toNat ++
    littleEndian size (a.tmod b % (Nat.pow 2 (8 * size) : Nat)).toNat)

def general : Functions := [
  ("malloc", plain fun v => do answerNat (← Act.allocate (address v 0))),
  ("calloc", plain fun v => do answerNat (← Act.allocate (address v 0 * address v 1))),
  ("realloc", plain fun v => reallocate (address v 0) (address v 1)),
  ("alloca", plain fun v => do answerNat (← Act.allocate (address v 0))),
  ("free", plain fun v => do
    if address v 0 != 0 then Act.free (address v 0)
    answer 0),
  ("exit", fun call v => exit call (integer v 0)),
  ("_exit", plain fun v => throw (.exited (integer v 0 % 256).toNat)),
  ("_Exit", plain fun v => throw (.exited (integer v 0 % 256).toNat)),
  ("abort", fun call _ => raise call 6),
  ("atexit", plain fun v => do
    Act.modifyMachine fun m => { m with atEnd := (m.current, address v 0) :: m.atEnd }
    answer 0),
  ("__assert_fail", plain fun v => do
    let note := "a.out: " ++ Utf8.lossy (← text v 1) ++ ":" ++ toString (integer v 2) ++ ": " ++
      Utf8.lossy (← text v 3) ++ ": Assertion `" ++ Utf8.lossy (← text v 0) ++ "' failed.\n"
    modify fun p => { p with stderr := p.stderr ++ Octets.ofString note }
    Act.killed 6),
  ("getenv", plain fun v => do
    match (← Act.machine).environment.lookup (← text v 0) with
    | some value => answerNat (← Act.allocateWith (value ++ [0]))
    | none => answer 0),
  ("setenv", plain fun v => do
    let name ← text v 0
    if badName name then
      Act.setError 22
      answer (-1)
    else
      setVariable name (← text v 1) (integer v 2 != 0)
      answer 0),
  ("unsetenv", plain fun v => do
    let name ← text v 0
    if badName name then
      Act.setError 22
      answer (-1)
    else
      unsetVariable name
      answer 0),
  ("putenv", plain fun v => do
    let t ← text v 0
    let name := t.takeWhile (· != 61)
    if name.length < t.length then setVariable name (t.drop (name.length + 1)) true
    else unsetVariable t
    answer 0),
  ("clearenv", plain fun _ => do
    Act.modifyMachine fun m => { m with environment := [] }
    answer 0),
  ("atoi", plain fun v => do answer ((Shape.integer 4 true).wrap (← decimalOf v))),
  ("atol", plain fun v => do answer ((Shape.integer 8 true).wrap (← decimalOf v))),
  ("atoll", plain fun v => do answer ((Shape.integer 8 true).wrap (← decimalOf v))),
  ("atof", plain fun v => do
    return .real ((Format.realAt? (Format.charsOf (← text v 0))).getD (0, [])).1),
  ("strtol", plain (parseInteger (-(Nat.pow 2 63 : Nat)) (Nat.pow 2 63 - 1 : Nat) false)),
  ("strtoll", plain (parseInteger (-(Nat.pow 2 63 : Nat)) (Nat.pow 2 63 - 1 : Nat) false)),
  ("strtoul", plain (parseInteger 0 (Nat.pow 2 64 - 1 : Nat) true)),
  ("strtoull", plain (parseInteger 0 (Nat.pow 2 64 - 1 : Nat) true)),
  ("strtod", plain fun v => do
    let t := Format.charsOf (← text v 0)
    let (x, rest) := (Format.realAt? t).getD (0, t)
    if address v 1 != 0 then
      Act.store .address (address v 1) (.integer (address v 0 + (t.length - rest.length)))
    return .real x),
  ("abs", plain fun v => answer ((Shape.integer 4 true).wrap (integer v 0).natAbs)),
  ("labs", plain fun v => answer ((Shape.integer 8 true).wrap (integer v 0).natAbs)),
  ("llabs", plain fun v => answer ((Shape.integer 8 true).wrap (integer v 0).natAbs)),
  ("div", quotient 4),
  ("ldiv", quotient 8),
  ("rand", plain fun _ => nextRandom),
  ("random", plain fun _ => nextRandom),
  ("srand", plain fun v => do
    Act.modifyMachine fun m => { m with random := seeded (address v 0) }
    answer 0),
  ("srandom", plain fun v => do
    Act.modifyMachine fun m => { m with random := seeded (address v 0) }
    answer 0),
  ("qsort", fun call v => sortMemory call v),
  ("bsearch", fun call v =>
    search call (address v 0) (address v 1) (address v 3) (address v 4) (address v 2) (address v 1)),
  ("system", plain fun v => answer (if address v 0 = 0 then 0 else -1)),
  ("raise", fun call v => raise call (integer v 0).toNat),
  ("kill", fun call v => raise call (integer v 1).toNat),
  ("signal", plain fun v => setHandler (integer v 0).toNat (address v 1)),
  ("__errno_location", plain fun _ => do answerNat (← Act.machine).errorNumber),
  ("getpid", plain fun _ => answer 1000),
  ("sleep", plain fun _ => answer 0),
  ("usleep", plain fun _ => answer 0),
  ("time", plain fun v => do
    if address v 0 != 0 then Act.store (.integer 8 true) (address v 0) (.integer 1735689600)
    answer 1735689600),
  ("clock", plain fun _ => answer 0),
  ("difftime", plain fun v => return .real ((argument v 0).toReal - (argument v 1).toReal))]

def mathematics : Functions := [
  ("sqrt", real Float.sqrt), ("cbrt", real Float.cbrt), ("sin", real Float.sin),
  ("cos", real Float.cos), ("tan", real Float.tan), ("asin", real Float.asin),
  ("acos", real Float.acos), ("atan", real Float.atan), ("exp", real Float.exp),
  ("log", real Float.log), ("log2", real Float.log2), ("log10", real Float.log10),
  ("floor", real Float.floor), ("ceil", real Float.ceil), ("fabs", real Float.abs),
  ("round", real roundAway),
  ("trunc", real fun x => if x < 0 then x.ceil else x.floor),
  ("pow", plain fun v => return .real (Float.pow (argument v 0).toReal (argument v 1).toReal)),
  ("atan2", plain fun v =>
    return .real (Float.atan2 (argument v 0).toReal (argument v 1).toReal)),
  ("fmod", plain fun v =>
    return .real (remainder (argument v 0).toReal (argument v 1).toReal))]

def functions : Functions := streams ++ texts ++ general ++
  mathematics.map fun (name, f) => ("__builtin_" ++ name, f)

def allFunctions : Functions := functions ++ mathematics

end Fragment.Program.Library
