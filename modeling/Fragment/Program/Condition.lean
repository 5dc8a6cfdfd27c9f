import Fragment.Program.Literal
/-!
Conditions of conditional text: integer expressions over the tokens that macros have left. A word
that is no macro counts as zero.
-/
namespace Fragment.Program.Condition

def truth (b : Bool) : Int := if b then 1 else 0

def operator? (spelling : String) : Option (Nat × (Int → Int → Option Int)) :=
  match spelling with
  | "||" => some (1, fun a b => some (truth (a != 0 || b != 0)))
  | "&&" => some (2, fun a b => some (truth (a != 0 && b != 0)))
  | "|" => some (3, fun a b => some (Int.ofNat (a.toNat ||| b.toNat)))
  | "^" => some (4, fun a b => some (Int.ofNat (a.toNat ^^^ b.toNat)))
  | "&" => some (5, fun a b => some (Int.ofNat (a.toNat &&& b.toNat)))
  | "==" => some (6, fun a b => some (truth (a == b)))
  | "!=" => some (6, fun a b => some (truth (a != b)))
  | "<" => some (7, fun a b => some (truth (a < b)))
  | ">" => some (7, fun a b => some (truth (a > b)))
  | "<=" => some (7, fun a b => some (truth (a ≤ b)))
  | ">=" => some (7, fun a b => some (truth (a ≥ b)))
  | "<<" => some (8, fun a b => some (a * (Nat.pow 2 b.toNat : Nat) % (Nat.pow 2 64 : Nat)))
  | ">>" => some (8, fun a b => some (a / (Nat.pow 2 b.toNat : Nat)))
  | "+" => some (9, fun a b => some (a + b))
  | "-" => some (9, fun a b => some (a - b))
  | "*" => some (10, fun a b => some (a * b))
  | "/" => some (10, fun a b => if b = 0 then none else some (a.tdiv b))
  | "%" => some (10, fun a b => if b = 0 then none else some (a.tmod b))
  | _ => none

abbrev Answer := Option (Int × List Token)

mutual

def operand : Nat → List Token → Answer
  | 0, _ => none
  | _ + 1, [] => none
  | depth + 1, t :: rest =>
    match t.kind with
    | .number => match Literal.integer t.spelling with
      | .ok n => some (n.value, rest)
      | .error _ => none
    | .character => some (Literal.character t.spelling, rest)
    | .word => some (if t.spelling == "true" then 1 else 0, rest)
    | .mark =>
      let unary (f : Int → Int) : Answer := (operand depth rest).map fun (v, rest) => (f v, rest)
      match t.spelling with
      | "+" => unary id
      | "-" => unary (- ·)
      | "~" => unary fun v => -v - 1
      | "!" => unary fun v => truth (v == 0)
      | "(" => match expression depth 0 rest with
        | some (v, close :: rest) => if close.isMark ")" then some (v, rest) else none
        | _ => none
      | _ => none
    | _ => none

def expression : Nat → Nat → List Token → Answer
  | 0, _, _ => none
  | depth + 1, strength, tokens => match operand depth tokens with
    | none => none
    | some (v, rest) => extend depth strength v rest

def extend : Nat → Nat → Int → List Token → Answer
  | 0, _, _, _ => none
  | _ + 1, _, v, [] => some (v, [])
  | depth + 1, strength, v, t :: rest =>
    if t.isMark "?" && strength == 0 then
      match expression depth 0 rest with
      | some (yes, colon :: rest) =>
        if colon.isMark ":" then
          (expression depth 0 rest).map fun (no, rest) => (if v != 0 then yes else no, rest)
        else none
      | _ => none
    else match operator? t.spelling with
      | none => some (v, t :: rest)
      | some (own, apply) =>
        if own ≤ strength then some (v, t :: rest)
        else match expression depth own rest with
          | none => none
          | some (right, rest) =>
            let value := match t.spelling with
              | "||" => if v != 0 then some 1 else apply v right
              | "&&" => if v == 0 then some 0 else apply v right
              | _ => apply v right
            match value with
            | some v => extend depth strength v rest
            | none => none

end

def holds? (tokens : List Token) : Option Bool :=
  match expression (4 * tokens.length + 4) 0 tokens with
  | some (v, []) => some (v != 0)
  | _ => none

end Fragment.Program.Condition
