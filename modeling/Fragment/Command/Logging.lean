import Fragment.Config
import Fragment.Text.Word
/-!
Log lines and the filter that lets them through. A filter is a list of directives, each a level for
the modules whose path starts with a target; the directive with the longest target decides.
-/
namespace Fragment.Command

inductive Level where
  | error
  | warn
  | info
  | debug
  | trace
deriving DecidableEq, Repr

namespace Level

def rank : Level → Nat
  | .error => 1
  | .warn => 2
  | .info => 3
  | .debug => 4
  | .trace => 5

def rankOf? (word : String) : Option Nat :=
  [("off", 0), ("error", 1), ("warn", 2), ("info", 3), ("debug", 4), ("trace", 5),
    ("0", 0), ("1", 1), ("2", 2), ("3", 3), ("4", 4), ("5", 5)].lookup word.toLower

end Level

structure LogLine where
  level : Level
  target : String
deriving DecidableEq, Repr

structure Directive where
  target : String
  rank : Nat
deriving DecidableEq, Repr

namespace Directive

def isTargetChar (c : Char) : Bool := Text.isWord c || c == ':' || c == '-'

def parse? (text : List Char) : Option Directive :=
  match Level.rankOf? (String.ofList text) with
  | some rank => some ⟨"", rank⟩
  | none =>
    let target := text.takeWhile isTargetChar
    if target.isEmpty then none
    else match text.dropWhile isTargetChar with
      | [] | ['='] => some ⟨String.ofList target, Level.trace.rank⟩
      | '=' :: level => (Level.rankOf? (String.ofList level)).map (⟨String.ofList target, ·⟩)
      | _ => none

def covers (d : Directive) (line : LogLine) : Bool := d.target.isPrefixOf line.target

end Directive

abbrev LogFilter := List Directive

namespace LogFilter

def ofRank (rank : Nat) : LogFilter := [⟨"", rank⟩]

def splitCommas : List Char → List (List Char)
  | [] => [[]]
  | ',' :: rest => [] :: splitCommas rest
  | c :: rest => match splitCommas rest with
    | [] => [[c]]
    | part :: parts => (c :: part) :: parts

-- The filter that a text describes, if each of its directives is one. Without any directive
-- only errors pass.
def parse? (text : String) : Option LogFilter := do
  let parts := (splitCommas text.toList).filter (!·.isEmpty)
  let directives ← parts.mapM Directive.parse?
  return if directives.isEmpty then ofRank Level.error.rank else directives

def defaultRank (verbosity : Nat) : Nat :=
  match verbosity with
  | 0 => Level.warn.rank
  | 1 => Level.debug.rank
  | _ => Level.trace.rank

def ofEnvironment (environment : Environment) (verbosity : Nat) : LogFilter :=
  (environment.get? "RUST_LOG" >>= Utf8.decode? >>= parse?).getD (ofRank (defaultRank verbosity))

def lets (directives : LogFilter) (line : LogLine) : Bool :=
  let best := (directives.filter (·.covers line)).foldl
    (fun (best : Option Directive) d => match best with
      | some b => if b.target.length ≤ d.target.length then some d else some b
      | none => some d) none
  match best with
  | some d => line.level.rank ≤ d.rank
  | none => false

end LogFilter
end Fragment.Command
