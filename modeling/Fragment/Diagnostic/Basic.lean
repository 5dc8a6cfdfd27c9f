import Fragment.Source
/-!
Diagnostics: what a compiler says about a unit, one message at a time, and how it is written.
-/
namespace Fragment

inductive Severity where
  | error
  | warning
  | note
deriving DecidableEq, Repr

namespace Severity

def word : Severity → String
  | .error => "error"
  | .warning => "warning"
  | .note => "note"

end Severity

structure Diagnostic where
  severity : Severity
  source : Option String
  line : Option Nat
  column : Option Nat
  message : String
deriving DecidableEq, Repr

namespace Diagnostic

def ofMessage (message : String) : Diagnostic := ⟨.error, none, none, none, message⟩

def isError (d : Diagnostic) : Bool := d.severity == .error

def refersTo (d : Diagnostic) (unit : SourceUnit) : Bool := d.source == some unit.fileName

def position (number : Option Nat) : String :=
  match number with
  | some n => toString n ++ ":"
  | none => ""

def location (d : Diagnostic) : String :=
  match d.source with
  | some source => source ++ ":" ++ position d.line ++ position d.column ++ " "
  | none => ""

def render (d : Diagnostic) : String := d.location ++ d.severity.word ++ ": " ++ d.message

end Diagnostic
end Fragment
