import Fragment.Diagnostic.Basic
import Fragment.Text.Blank
import Fragment.Text.Digit
import Fragment.Text.Word
/-!
Reading diagnostics out of what a toolchain prints. A line has one of four shapes, tried in this
order, or is no diagnostic:

* positioned, `file:12: error: text` or `file:12:3: error: text`;
* from a tool, `tool: warning: text`;
* about a section, `file:(section): text`;
* from a linker, `…ld: text` or `…ld.name: text`.
-/
namespace Fragment.Diagnostic

def after? : (start text : List Char) → Option (List Char)
  | [], text => some text
  | _ :: _, [] => none
  | s :: start, c :: text => if s = c then after? start text else none

def severityWords : List (String × Severity) :=
  [("fatal error", .error), ("error", .error), ("warning", .warning), ("note", .note)]

def severity? (text : List Char) : Option (Severity × List Char) :=
  severityWords.findSome? fun w =>
    (after? (w.1.toList ++ [':', ' ']) text).map fun rest => (w.2, rest)

def digitsColon? (text : List Char) : Option (List Char × List Char) :=
  let digits := text.takeWhile Text.isDigit
  match digits, text.dropWhile Text.isDigit with
  | _ :: _, ':' :: rest => some (digits, rest)
  | _, _ => none

-- The longest start without a colon, which must be neither empty nor led by white space.
def fileColon? (text : List Char) : Option (List Char × List Char) :=
  match text.takeWhile (· ≠ ':'), text.dropWhile (· ≠ ':') with
  | c :: file, ':' :: rest => if Text.isBlank c then none else some (c :: file, rest)
  | _, _ => none

-- The longest start without colon and white space, which must not be empty, before a colon.
def nameColon? (text : List Char) : Option (List Char × List Char) :=
  let inName (c : Char) : Bool := c ≠ ':' && !Text.isBlank c
  match text.takeWhile inName, text.dropWhile inName with
  | c :: name, ':' :: rest => some (c :: name, rest)
  | _, _ => none

def positioned? (text : List Char) : Option Diagnostic := do
  let (file, rest) ← fileColon? text
  let (line, rest) ← digitsColon? rest
  let (column, rest) := match digitsColon? rest with
    | some (column, rest) => (Text.number? column, rest)
    | none => (none, rest)
  let (severity, message) ← after? [' '] rest >>= severity?
  return ⟨severity, some (String.ofList file), Text.number? line, column, String.ofList message⟩

def ofTool? (text : List Char) : Option Diagnostic := do
  let (tool, rest) ← nameColon? text
  let (severity, message) ← after? [' '] rest >>= severity?
  return ⟨severity, none, none, none, String.ofList (tool ++ [':', ' '] ++ message)⟩

def ofSection? (text : List Char) : Option Diagnostic := do
  let (file, rest) ← nameColon? text
  let rest ← after? ['('] rest
  let inside := rest.takeWhile (· ≠ ')')
  let message ← after? [')', ':', ' '] (rest.dropWhile (· ≠ ')'))
  return { ofMessage (String.ofList (message ++ " (in ".toList ++ inside ++ [')'])) with
    source := some (String.ofList file) }

def atWordStart : List Char → Bool
  | [] => true
  | c :: _ => !Text.isWord c

def endsInLd : List Char → Bool
  | 'd' :: 'l' :: rest => atWordStart rest
  | _ => false

-- A linker's name ends in `ld`, or in `ld`, a point and word characters.
def isLinker (name : List Char) : Bool :=
  let back := name.reverse
  endsInLd back ||
    match back.takeWhile Text.isWord, back.dropWhile Text.isWord with
    | _ :: _, '.' :: rest => endsInLd rest
    | _, _ => false

def ofLinker? (text : List Char) : Option Diagnostic := do
  let name := text.takeWhile (!Text.isBlank ·)
  let message ← after? [' '] (text.dropWhile (!Text.isBlank ·))
  if name.getLast? = some ':' ∧ isLinker name.dropLast then
    return ofMessage (String.ofList (name ++ [' '] ++ message))
  else none

def ofLine? (line : List Char) : Option Diagnostic :=
  let text := Text.trimEnd line
  positioned? text <|> ofTool? text <|> ofSection? text <|> ofLinker? text

end Fragment.Diagnostic
