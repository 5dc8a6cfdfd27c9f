import Fragment.Loader
/-!
Calling an entry function with text arguments. Everything that can be refused is refused before the
call; the function is then called once, between two flushes of standard output.
-/
namespace Fragment

variable {σ : Type}

def argumentLimit : Nat := 2147483647

def firstWithNul? (arguments : List String) : Option Nat :=
  arguments.findIdx? fun argument => (Octets.ofString argument).nulAt?.isSome

def argumentVector (arguments : List String) : List (Option Octets) :=
  arguments.map (fun argument => some (Octets.ofString argument ++ [0])) ++ [none]

def argumentFault? (arguments : List String) : Option InvokeFault :=
  match firstWithNul? arguments with
  | some index => some (.invalidArgument index)
  | none =>
    if argumentLimit < arguments.length then some (.tooManyArguments arguments.length) else none

def callEntry (P : Platform σ) (unit : LoadedUnit) (symbol : String) (function : Octets)
    (arguments : List String) (w : World σ) : Int × World σ :=
  let vector := argumentVector arguments
  let w := w.setStdout w.process.stdout.flushHost
  let (status, process) := P.call unit.library function arguments.length vector w.process
  let w := { w with process }.record (.called unit.serial symbol vector)
  (status, w.setStdout w.process.stdout.flushLoaded)

def invoke (P : Platform σ) (scope : Scope) (entry : EntryPoint) (arguments : List String)
    (w : World σ) : Except InvokeFault Unit × Scope × World σ :=
  match scope.resolve P entry.unit w with
  | (.error fault, scope, w) => (.error (.loader fault), scope, w)
  | (.ok unit, scope, w) => match unit.find P entry.symbol w with
    | .error cause => (.error (.functionNotFound entry.unit entry.symbol cause), scope, w)
    | .ok function => match argumentFault? arguments with
      | some fault => (.error fault, scope, w)
      | none =>
        let (status, w) := callEntry P unit entry.symbol function arguments w
        if status = 0 then (.ok (), scope, w)
        else (.error (.failed entry.symbol status), scope, w)

end Fragment
