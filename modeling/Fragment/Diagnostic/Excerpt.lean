import Fragment.Diagnostic.Report
import Fragment.Text.Decode
import Fragment.Text.Paint
import Fragment.Text.Wrap
/-!
Reports as drawings: the code, the message, and the lines around the span with a mark under it.
A lone carriage return counts as a line break where lines are counted, and not where they are drawn.
-/
namespace Fragment.Report

-- A stretch of the text around a span: where it starts, the octets, and the number (from zero)
-- of the line and the column at which it starts.
structure Surroundings where
  start : Nat
  octets : Octets
  line : Nat
  column : Nat
deriving DecidableEq, Repr

structure Scan where
  offset : Nat
  startLine : Nat
  startColumn : Nat
  -- Starts of the lines before the span that are kept, the first kept first.
  kept : List Nat
  lineStart : Nat
  linesAfter : Nat
  passed : Bool
  passedLine : Bool

inductive Stride where
  | lineBreak (length : Nat)
  | other
deriving DecidableEq, Repr

def strides : Octets → List Stride
  | [] => []
  | 13 :: 10 :: rest => .lineBreak 2 :: strides rest
  | o :: rest => (if o = 13 ∨ o = 10 then .lineBreak 1 else .other) :: strides rest

def Scan.breakLine (span : Span) (around : Nat) (s : Scan) : Scan × Bool :=
  if s.offset < span.offset then
    let kept := s.kept ++ [s.lineStart]
    let (kept, startLine) :=
      if around < kept.length then (kept.drop 1, s.startLine + 1) else (kept, s.startLine)
    ({ s with startColumn := 0, kept, startLine, lineStart := s.offset + 1 }, false)
  else if span.offset + (span.length - 1) ≤ s.offset && s.passed then
    let linesAfter := if s.passedLine then s.linesAfter + 1 else s.linesAfter
    ({ s with startColumn := 0, passedLine := true, linesAfter, lineStart := s.offset + 1 },
      around ≤ linesAfter)
  else ({ s with lineStart := s.offset + 1 }, false)

def scan (span : Span) (around : Nat) (s : Scan) : List Stride → Scan
  | [] => s
  | stride :: rest =>
    let (s, stop) := match stride with
      | .lineBreak length =>
        Scan.breakLine span around { s with offset := s.offset + (length - 1) }
      | .other =>
        (if s.offset < span.offset then { s with startColumn := s.startColumn + 1 } else s, false)
    let reached := span.offset + span.length - 1 ≤ s.offset
    let next := { s with offset := s.offset + 1, passed := s.passed || reached }
    if stop || (reached && around ≤ s.linesAfter) then next else scan span around next rest

def surroundings (text : Octets) (span : Span) (around : Nat) : Surroundings :=
  let s := scan span around ⟨0, 0, 0, [], 0, 0, false, false⟩ (strides text)
  let start := s.kept.headD (if around = 0 then span.offset else 0)
  ⟨start, (text.drop start).take (s.offset - start), s.startLine,
    if around = 0 then s.startColumn else 0⟩

structure DrawnLine where
  number : Nat
  offset : Nat
  length : Nat
  text : List Char
deriving DecidableEq, Repr

-- Cuts a stretch that starts at line `line` (from zero) and octet `offset` into lines.
def drawnLines (line offset : Nat) (current : List Char) (length : Nat) :
    List Char → List DrawnLine
  | [] => if length = 0 then [] else [⟨line + 1, offset, length, current.reverse⟩]
  | '\r' :: '\n' :: rest =>
    ⟨line + 1, offset, length + 2, current.reverse⟩ ::
      drawnLines (line + 1) (offset + length + 2) [] 0 rest
  | '\n' :: rest =>
    ⟨line + 1, offset, length + 1, current.reverse⟩ ::
      drawnLines (line + 1) (offset + length + 1) [] 0 rest
  | c :: rest => drawnLines line offset (c :: current) (length + c.utf8Size) rest

namespace DrawnLine

-- Is the span, which counts as one octet if it is empty, on this line?
def touches (l : DrawnLine) (span : Span) : Bool :=
  let length := if span.length = 0 then 1 else span.length
  let stop := l.offset + l.length
  (l.offset ≤ span.offset && span.offset < stop) ||
  (span.offset < l.offset && stop < span.offset + length) ||
  (l.offset < span.offset + length && span.offset + length ≤ stop)

end DrawnLine

def tabWidth : Nat := 4

-- The columns that each character takes from a column on; a tab goes to the next multiple of
-- four, and what stands between an escape character and the letter m takes none.
def charColumns (column : Nat) (escaped : Bool) : List Char → List Nat
  | [] => []
  | c :: rest =>
    if escaped then 0 :: charColumns column (c != 'm') rest
    else if c = '\x1b' then 0 :: charColumns column true rest
    else
      let w := if c = '\t' then tabWidth - column % tabWidth else Text.width c
      w :: charColumns (column + w) false rest

-- The characters of the first `count` octets, to the start of a character that is cut.
def takeOctets (count : Nat) : List Char → List Char
  | [] => []
  | c :: rest => if c.utf8Size ≤ count then c :: takeOctets (count - c.utf8Size) rest else []

-- The same, to the end of a character that is cut.
def takeOctetsUp (count : Nat) : List Char → List Char
  | [] => []
  | c :: rest => if count = 0 then [] else c :: takeOctetsUp (count - c.utf8Size) rest

def columnOf (l : DrawnLine) (offset : Nat) (isStart : Bool) : Nat :=
  let index := offset - l.offset
  let shown := if isStart then takeOctets index l.text else takeOctetsUp index l.text
  let columns := (charColumns 0 false shown).foldl (· + ·) 0
  if (Octets.ofChars l.text).length < index then columns + 1 else columns

def drawText (text : List Char) : String :=
  String.ofList ((text.zip (charColumns 0 false text)).flatMap fun (c, w) =>
    if c = '\t' then List.replicate w ' ' else [c])

def blanks (n : Nat) : String := "".pushn ' ' n

def padLeft (n : Nat) (text : String) : String := blanks (n - text.length) ++ text

def markStyle : List String := ["35;1"]
def numberStyle : List String := ["2"]
def placeStyle : List String := ["36;1;4"]

def severityStyle (r : Report) : List String :=
  match r.severity with
  | .error => ["31"]
  | .warning => ["33"]
  | .note => ["36"]

def drawMark (coloured : Bool) (l : DrawnLine) (span : Span) (gutter label : String) :
    List String :=
  let paint := Text.paint coloured markStyle
  let start := columnOf l span.offset true
  let stop := if span.length = 0 then start + 1
    else max (columnOf l (span.offset + span.length) false) (start + 1)
  let middle := (start + stop) / 2
  let mark := if span.length = 0 then "▲" else "┬"
  [gutter ++ paint (blanks start ++ "".pushn '─' (middle - start) ++ mark ++
      "".pushn '─' (stop - middle - 1)),
    gutter ++ blanks middle ++ paint ("╰── " ++ paint label)]

def drawExcerpt (r : Report) (coloured : Bool) (span : Span) (label : String) : List String :=
  let text := r.unit.octets
  let around := surroundings text span 1
  let lines := drawnLines around.line around.start [] 0 (Utf8.lossyChars around.octets)
  let digits := (toString ((lines.getLast?.map (·.number)).getD 0)).length
  let place := surroundings text span 0
  let header := blanks (digits + 2) ++ "╭─[" ++ Text.paint coloured placeStyle (r.unit.fileName ++
    ":" ++ toString (place.line + 1) ++ ":" ++ toString (place.column + 1)) ++ "]"
  let gutter := " " ++ blanks digits ++ " · "
  let body := lines.flatMap fun l =>
    (" " ++ Text.paint coloured numberStyle (padLeft digits (toString l.number)) ++ " │ " ++
        drawText l.text) ::
      if l.touches span then drawMark coloured l span gutter label else []
  header :: body ++ [blanks (digits + 2) ++ "╰────"]

def sign (r : Report) : String :=
  match r.severity with
  | .error => "×"
  | .warning => "⚠"
  | .note => "☞"

def drawingWidth : Nat := 80

-- How much narrower the message is than the drawing: the indents take four columns, and two
-- stay free.
def messageInset : Nat := 6

def draw (r : Report) (coloured : Bool) : String :=
  let paint := Text.paint coloured r.severityStyle
  let message := Text.wrap (drawingWidth - messageInset) ("  " ++ paint r.sign ++ " ")
    ("  " ++ paint "│" ++ " ") r.message.toList
  let excerpt := r.labels.flatMap fun (label, span) => r.drawExcerpt coloured span label
  paint r.code ++ "\n\n" ++ message ++ "\n" ++ String.join (excerpt.map (· ++ "\n"))

end Fragment.Report
