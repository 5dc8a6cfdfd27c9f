import Fragment.Program.Code
/-!
Which names a library needs. Only code that can be reached counts: what follows a statement that does
not go on, and a part that a constant test rules out, is left out, and so is a function that nothing
outside can see and nothing inside uses.
-/
namespace Fragment.Program

namespace Code

mutual

def names : Code → List String
  | .symbol name | .inner name _ => [name]
  | .load _ address => names address
  | .store _ address value => names address ++ names value
  | .clear _ address => names address
  | .convert _ value => names value
  | .compute _ _ left right => names left ++ names right
  | .both left right =>
    if constant? left == some 0 then [] else names left ++ names right
  | .either left right =>
    match constant? left with
    | some n => if n = 0 then names right else []
    | none => names left ++ names right
  | .choose test yes no =>
    match constant? test with
    | some n => if n = 0 then names no else names yes
    | none => names test ++ names yes ++ names no
  | .sequence first second => names first ++ names second
  | .call function arguments _ => names function ++ argumentNames arguments
  | _ => []

def argumentNames : List (Shape × Code) → List String
  | [] => []
  | (_, code) :: rest => names code ++ argumentNames rest

end

end Code

namespace Statement

mutual

def ends : Statement → Bool
  | .give _ | .jump _ | .leave | .again => true
  | .block statements => anyEnds statements
  | .choose test yes no =>
    match test.constant? with
    | some n => if n = 0 then ends no else ends yes
    | none => ends yes && ends no
  | .loop _ test _ body => (test.constant?).any (· != 0) && !leaves body
  | _ => false

def anyEnds : List Statement → Bool
  | [] => false
  | s :: rest => ends s || anyEnds rest

def leaves : Statement → Bool
  | .leave => true
  | .block statements => anyLeaves statements
  | .choose _ yes no => leaves yes || leaves no
  | _ => false

def anyLeaves : List Statement → Bool
  | [] => false
  | s :: rest => leaves s || anyLeaves rest

def isLabelled : Statement → Bool
  | .label _ => true
  | .block statements => anyLabelled statements
  | .choose _ yes no => isLabelled yes || isLabelled no
  | .loop _ _ _ body => isLabelled body
  | .select _ _ _ body => isLabelled body
  | _ => false

def anyLabelled : List Statement → Bool
  | [] => false
  | s :: rest => isLabelled s || anyLabelled rest

end

mutual

def names : Statement → List String
  | .act code => code.names
  | .block statements => allNames true statements
  | .choose test yes no =>
    match test.constant? with
    | some n =>
      (if n != 0 || isLabelled yes then names yes else []) ++
        (if n = 0 || isLabelled no then names no else [])
    | none => test.names ++ names yes ++ names no
  | .loop testFirst test step body =>
    if testFirst && test.constant? == some 0 && !isLabelled body then []
    else test.names ++ step.names ++ names body
  | .select value _ _ body => value.names ++ names body
  | .give (some code) => code.names
  | _ => []

def allNames : Bool → List Statement → List String
  | _, [] => []
  | reached, s :: rest =>
    if reached || isLabelled s then names s ++ allNames (!ends s) rest
    else allNames false rest

end

end Statement

namespace Image

def reachedFrom (routines : List Routine) : Nat → List String → List String → List String
  | 0, done, _ => done
  | _ + 1, done, [] => done
  | fuel + 1, done, name :: rest =>
    if done.contains name then reachedFrom routines fuel done rest
    else match routines.find? (·.name == name) with
      | some r => reachedFrom routines fuel (name :: done) (r.body.names ++ rest)
      | none => reachedFrom routines fuel (name :: done) rest

def reached (routines : List Routine) (data : List Datum) (roots : List String) : List String :=
  let dataNames := data.flatMap fun d => d.content.flatMap Code.names
  let count := routines.foldl (fun n r => n + r.body.names.length + 1) 0 + dataNames.length + roots.length
  reachedFrom routines (2 * count + 1) [] (roots ++ dataNames)

end Image
end Fragment.Program
