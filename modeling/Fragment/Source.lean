import Fragment.Text.Octets
import Fragment.Text.Line
/-!
Source units: a named text that a compiler reads, and the spans of its lines and columns.
A span never leaves the line that it is asked for, whatever the numbers.
-/
namespace Fragment

inductive UnitKind where
  | source
  | output
deriving DecidableEq, Repr

namespace UnitKind

def label : UnitKind → String
  | .source => "source"
  | .output => "output"

def extension : UnitKind → String
  | .source => "c"
  | .output => "so"

def fileName (kind : UnitKind) (name : String) : String := name ++ "." ++ kind.extension

end UnitKind

structure Span where
  offset : Nat
  length : Nat
deriving DecidableEq, Repr

structure SourceUnit where
  name : String
  text : String
deriving DecidableEq, Repr

namespace SourceUnit

def kind (_ : SourceUnit) : UnitKind := .source

def fileName (unit : SourceUnit) : String := unit.kind.fileName unit.name

def octets (unit : SourceUnit) : Octets := Octets.ofString unit.text

end SourceUnit

def lineFeed : UInt8 := 10

def isLineEnd (o : UInt8) : Bool := o == 10 || o == 13

-- A line without the run of line feeds and carriage returns that ends it.
def lineContent (piece : Octets) : Octets := (piece.reverse.dropWhile isLineEnd).reverse

def lineAt? (text : Octets) (line : Nat) : Option (Nat × Octets) :=
  match line with
  | 0 => none
  | n + 1 =>
    let all := Text.pieces lineFeed text
    all[n]?.map fun piece => ((all.take n).flatten.length, piece)

-- One octet of the line content at the column, none past its end; without a column, all of it.
def spanWithin (start : Nat) (content : Octets) : Option Nat → Span
  | some column =>
    let skipped := min (column - 1) content.length
    ⟨start + skipped, min 1 (content.length - skipped)⟩
  | none => ⟨start, content.length⟩

def spanOf (text : Octets) (line : Nat) (column : Option Nat) : Option Span :=
  (lineAt? text line).map fun found => spanWithin found.1 (lineContent found.2) column

-- The span of a line, counted from one, and a column in octets, counted from one.
def SourceUnit.span? (unit : SourceUnit) (line : Nat) (column : Option Nat) : Option Span :=
  spanOf unit.octets line column

end Fragment
