import Fragment.Program.Token
/-!
Messages about a program text, and which warnings are given. A warning belongs to a group; options
turn groups on and off, or make errors of their warnings.
-/
namespace Fragment.Program

inductive Weight where
  | error
  | fatal
  | warning (group : String)
deriving DecidableEq, Repr

structure Message where
  weight : Weight
  spot : Spot
  text : String
  function : Option String
deriving DecidableEq, Repr

namespace Message

def isError (m : Message) : Bool :=
  match m.weight with
  | .warning _ => false
  | _ => true

def render (m : Message) : String :=
  let label := match m.weight with
    | .error => "error"
    | .fatal => "fatal error"
    | .warning _ => "warning"
  let column := if m.spot.column = 0 then "" else toString m.spot.column ++ ":"
  m.spot.file ++ ":" ++ toString m.spot.line ++ ":" ++ column ++ " " ++ label ++ ": " ++ m.text

def renderAll : Option String → List Message → List String
  | _, [] => []
  | before, m :: rest =>
    let place := if m.function == before then []
      else match m.function with
        | some f => [m.spot.file ++ ": In function '" ++ f ++ "':"]
        | none => [m.spot.file ++ ": At top level:"]
    place ++ m.render :: renderAll m.function rest

end Message

structure Warnings where
  all : Bool
  extra : Bool
  silent : Bool
  strict : Bool
  single : List (String × Bool)
  -- Groups whose warnings are errors, or are not although all others are, the latest first.
  strictSingle : List (String × Bool)
deriving DecidableEq, Repr

namespace Warnings

def default : Warnings := ⟨false, false, false, false, [], []⟩

def groupsOfAll : List String := ["unused-variable", "unused-but-set-variable", "unused-function",
  "unused-label", "unused-value", "return-type", "parentheses", "main", "misleading-indentation",
  "format", "format-extra-args", "format-zero-length", "uninitialized"]

def groupsOfExtra : List String := ["unused-parameter", "unused-but-set-parameter", "sign-compare",
  "empty-body", "missing-field-initializers"]

-- Groups that are on by themselves. The one without a name is that of all warnings that have no
-- option of their own.
def groupsAlways : List String := ["", "cpp", "div-by-zero", "overflow", "discarded-qualifiers",
  "implicit-function-declaration", "implicit-int", "int-conversion", "incompatible-pointer-types",
  "return-mismatch", "builtin-declaration-mismatch", "int-to-pointer-cast", "pointer-to-int-cast"]

def isOn (w : Warnings) (group : String) : Bool :=
  if w.silent then false
  else match w.single.lookup group with
    | some on => on
    | none => groupsAlways.contains group || w.all && groupsOfAll.contains group ||
        w.extra && groupsOfExtra.contains group

def judge (w : Warnings) (m : Message) : Option Message :=
  match m.weight with
  | .warning group =>
    if !w.isOn group then none
    else
      let strict := (w.strictSingle.lookup group).getD w.strict
      some { m with
        weight := if strict then .error else m.weight
        text := m.text ++ (if group.isEmpty then (if strict then " [-Werror]" else "")
          else (if strict then " [-Werror=" else " [-W") ++ group ++ "]") }
  | _ => some m

def option? (w : Warnings) (name : String) : Option Warnings :=
  let known := groupsAlways ++ groupsOfAll ++ groupsOfExtra
  let text := name.toList
  let behind (start : String) : Option String :=
    if start.toList.isPrefixOf text then some (String.ofList (text.drop start.length)) else none
  if name == "all" then some { w with all := true }
  else if name == "extra" || name.isEmpty then some { w with extra := true }
  else if name == "no-all" then some { w with all := false }
  else if name == "error" then some { w with strict := true }
  else if name == "no-error" then some { w with strict := false }
  else if name == "unused" then
    some { w with single := ["unused-variable", "unused-but-set-variable", "unused-function",
      "unused-label", "unused-value"].map (·, true) ++ w.single }
  else if name == "no-unused" then
    some { w with single := (groupsOfAll ++ groupsOfExtra).filterMap (fun g =>
      if "unused".toList.isPrefixOf g.toList then some (g, false) else none) ++ w.single }
  else match behind "error=", behind "no-error=", behind "no-" with
    | some group, _, _ => some { w with
        single := (group, true) :: w.single
        strictSingle := (group, true) :: w.strictSingle }
    | none, some group, _ => some { w with strictSingle := (group, false) :: w.strictSingle }
    | none, none, some group => some { w with single := (group, false) :: w.single }
    | none, none, none =>
      if known.contains name then some { w with single := (name, true) :: w.single } else none

end Warnings
end Fragment.Program
