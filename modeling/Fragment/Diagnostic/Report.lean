import Fragment.Diagnostic.Basic
/-!
Reports: a diagnostic with the stretch of the unit's text that it points to, if it points there.
-/
namespace Fragment

structure Report where
  severity : Severity
  message : String
  unit : SourceUnit
  span : Option Span
deriving DecidableEq, Repr

namespace Report

def code (r : Report) : String := "memrun::compile::" ++ r.severity.word

def level (r : Report) : String :=
  match r.severity with
  | .error => "Error"
  | .warning => "Warning"
  | .note => "Advice"

def labels (r : Report) : List (String × Span) :=
  match r.span with
  | some span => [(r.severity.word, span)]
  | none => []

end Report

-- The report of a diagnostic against a unit. It has a span if the diagnostic refers to the unit
-- and has a line that the unit has.
def Diagnostic.report (d : Diagnostic) (unit : SourceUnit) : Report :=
  let span := match d.line with
    | some line => if d.refersTo unit then unit.span? line d.column else none
    | none => none
  ⟨d.severity, d.message, unit, span⟩

end Fragment
