import Fragment.Source
/-!
Skeletons: a program text with one gap, written as a template in which `%s` marks the gap and `%%`
a per cent sign. A fragment goes into the gap verbatim.
-/
namespace Fragment

inductive TemplateFault where
  -- A per cent sign, at that octet, before a character other than `%` and `s`.
  | malformed (found : Char) (offset : Nat)
  | gaps (count : Nat)
deriving DecidableEq, Repr

namespace Template

inductive Token where
  | plain (c : Char)
  | gap
deriving DecidableEq, Repr

def tokens (offset : Nat) : List Char → Except TemplateFault (List Token)
  | [] => .ok []
  | '%' :: '%' :: rest => return .plain '%' :: (← tokens (offset + 2) rest)
  | '%' :: 's' :: rest => return .gap :: (← tokens (offset + 2) rest)
  | '%' :: c :: _ => .error (.malformed c offset)
  | ['%'] => .error (.malformed ' ' offset)
  | c :: rest => return .plain c :: (← tokens (offset + c.utf8Size) rest)

def Token.plain? : Token → Option Char
  | .plain c => some c
  | .gap => none

def plainText (ts : List Token) : List Char := ts.filterMap Token.plain?

def isGap (t : Token) : Bool := t == .gap

def write : List Token → List Char
  | [] => []
  | .gap :: ts => '%' :: 's' :: write ts
  | .plain c :: ts => if c = '%' then '%' :: '%' :: write ts else c :: write ts

-- Writes a text so that a template stands for it: every per cent sign twice.
def escape (text : List Char) : List Char := write (text.map .plain)

end Template

structure Skeleton where
  unit : String
  before : String
  after : String
deriving DecidableEq, Repr

namespace Skeleton

def parse (unit template : String) : Except TemplateFault Skeleton := do
  let ts ← Template.tokens 0 template.toList
  let gaps := ts.countP Template.isGap
  if gaps = 1 then
    let before := ts.takeWhile (!Template.isGap ·)
    let after := ts.dropWhile (!Template.isGap ·)
    return ⟨unit, String.ofList (Template.plainText before),
      String.ofList (Template.plainText after)⟩
  else
    throw (.gaps gaps)

def bundledTemplate : String :=
  "#include <stdio.h>\n#include <stdlib.h>\n#include <string.h>\n\n" ++
  "int Main_main(int argc, char **args) \x7b\n    (void) argc;\n    (void) args;\n" ++
  "    %s\n    return 0;\n\x7d\n"

-- The skeleton to use when no template is given. It defines `Main_main` whatever the unit.
def bundledFor (unit : String) : Except TemplateFault Skeleton := parse unit bundledTemplate

def bundled : Except TemplateFault Skeleton := bundledFor "Main"

def expand (skeleton : Skeleton) (statements : String) : SourceUnit :=
  ⟨skeleton.unit, skeleton.before ++ statements ++ skeleton.after⟩

end Skeleton
end Fragment
