import Fragment.Program.Declaration
/-!
Whole files: from tokens to an image, or to messages that say why there is none.
-/
namespace Fragment.Program

def nestingLimit : Nat := 400

def forms : Nat → Nested
  | 0 =>
    let tooDeep {α : Type} (a : α) : Read α := do
      Read.refuse "nesting level exceeds maximum"
      return a
    { expression := tooDeep default
      assignment := tooDeep default
      conditional := tooDeep default
      operand := tooDeep default
      specifiers := fun _ => tooDeep default
      declarator := fun _ _ => tooDeep none
      initial := fun ty => tooDeep (ty, fun _ => [])
      declaration := tooDeep []
      statement := tooDeep default }
  | depth + 1 =>
    let inner := forms depth
    { expression := Read.expression inner
      assignment := Read.assignment inner
      conditional := Read.conditional inner
      operand := Read.operand inner
      specifiers := Read.specifiers inner
      declarator := Read.declarator inner
      initial := Read.initial inner
      declaration := Read.declaration inner
      statement := Read.statement inner }

def readAll (nested : Nested) : Nat → Read Unit
  | 0 => return
  | fuel + 1 => do
    if (← get).tokens.isEmpty then return
    else
      if !(← Read.accept ";") then
        let _ ← nested.declaration
      readAll nested fuel

-- Says which functions nothing uses, although nothing else can, and which are used and not
-- there.
def sayUnused : Read Unit := do
  let s ← get
  for g in s.globals.reverse do
    if g.isStatic && g.ty.isFunction && g.isDefined && !s.referenced.contains g.name &&
        !s.constructors.any (·.2 == g.name) && !s.destructors.any (·.2 == g.name) then
      Read.warn "unused-function" g.spot ("'" ++ g.name ++ "' defined but not used")
    if g.isStatic && g.ty.isFunction && !g.isDefined && s.referenced.contains g.name then
      Read.warn "" g.spot ("'" ++ g.name ++ "' used but never defined")

def byPriority (routines : List Routine) (functions : List (Nat × String)) : List String :=
  let ordered := routines.filterMap fun r =>
    (functions.find? (·.2 == r.name)).map fun (priority, name) => (priority, name)
  (ordered.mergeSort fun a b => a.1 ≤ b.1).map (·.2)

namespace Reading

def start (tokens : List Token) : Reading :=
  { (default : Reading) with
    tokens
    ending := (tokens.getLast?.map (·.spot)).getD default
    levels := [⟨[], []⟩] }

def objects (s : Reading) : List Datum :=
  let size (g : Global) : Nat :=
    match g.ty.plain with
    | .array element none => (element.size? s.records).getD 0
    | ty => (ty.size? s.records).getD 0
  s.data ++ s.globals.filterMap fun g =>
    if g.ty.isFunction || g.isOutside then none else some ⟨g.name, size g, g.content⟩

def image (s : Reading) : Image :=
  let routines := s.routines.reverse
  let data := s.objects
  let own := routines.map (·.name) ++ data.map (·.name)
  let exported := s.globals.filterMap fun g =>
    if g.isStatic || g.isOutside then none else some g.name
  let constructors := byPriority routines s.constructors
  let destructors := (byPriority routines s.destructors).reverse
  let reached := Image.reached routines data (exported ++ constructors ++ destructors)
  { routines
    data
    texts := s.texts
    exported
    linkNames := s.linkNames
    constructors
    destructors
    needed := reached.filter (!own.contains ·) }

end Reading

def readUnit (tokens : List Token) : Image × List Message :=
  let read : Read Unit := do
    readAll (forms nestingLimit) (tokens.length + 1)
    sayUnused
  let (_, s) := read.run (.start tokens)
  (s.image, s.messages.reverse)

end Fragment.Program
