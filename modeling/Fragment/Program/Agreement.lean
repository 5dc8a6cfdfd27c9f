import Fragment.Program.Format
import Fragment.Program.Typing
/-!
Do the arguments of formatted output agree with its format text? Where the text is a literal, each
directive in it says what kind of argument it takes, and warnings tell of those that are of another
kind, too few or too many.
-/
namespace Fragment.Program

inductive Wanted where
  | integer (rank : Rank)
  | real
  | text
  | pointer
deriving DecidableEq, Repr

namespace Wanted

def accepts (w : Wanted) (ty : Ty) : Bool :=
  match w, ty.promote.plain with
  | .integer rank, .integer given _ => rank == given
  | .real, .real _ => true
  | .text, .pointer target => match target.plain with
    | .integer .char _ => true
    | _ => false
  | .pointer, .pointer _ => true
  | _, .unknown => true
  | _, _ => false

def rank (letters : List Char) : Rank :=
  match letters with
  | 'l' :: 'l' :: _ | 'q' :: _ => .longLong
  | 'l' :: _ | 'z' :: _ | 'j' :: _ | 't' :: _ => .long
  | _ => .int

-- What the directives of a text take, in order; nothing if they name their arguments.
def ofText : Nat → List Char → Option (List Wanted)
  | 0, _ | _ + 1, [] => some []
  | fuel + 1, '%' :: chars =>
    if (Format.place? chars).isSome then none
    else
      let (_, afterFlags) := Format.flags default chars
      let (d, rest, _) := Format.directive chars []
      let before := afterFlags.take (afterFlags.length - rest.length)
      let stars := (before.filter (· == '*')).map fun _ => Wanted.integer .int
      let letters := before.dropWhile fun c => c.isDigit || c == '*' || c == '.'
      let own : List Wanted := match d.letter with
        | 'd' | 'i' | 'u' | 'x' | 'X' | 'o' => [.integer (rank letters)]
        | 'c' => [.integer .int]
        | 'f' | 'F' | 'e' | 'E' | 'g' | 'G' | 'a' | 'A' => [.real]
        | 's' => [.text]
        | 'p' | 'n' => [.pointer]
        | _ => []
      (ofText fuel rest).map (stars ++ own ++ ·)
  | fuel + 1, _ :: chars => ofText fuel chars

end Wanted

namespace Read

def formatting : List (String × Nat) :=
  [("printf", 0), ("fprintf", 1), ("dprintf", 1), ("sprintf", 1), ("snprintf", 2)]

def sayDisagreement (wanted : List Wanted) (given : List Typed) (spot : Spot) : Read Unit := do
  match wanted, given with
  | [], [] => return
  | [], e :: _ => warn "format-extra-args" e.spot "too many arguments for format"
  | _ :: _, [] => warn "format" spot "format expects a matching argument"
  | w :: wanted, e :: given =>
    let ty := match e.ty.plain with
      | .array element _ => .pointer element
      | ty => ty
    if !w.accepts ty then warn "format" spot "format expects an argument of another type"
    sayDisagreement wanted given spot

def sayFormat (function : Typed) (arguments : List Typed) : Read Unit := do
  match function.code with
  | .symbol name =>
    match formatting.lookup name with
    | some index =>
      match arguments.drop index with
      | format :: values =>
        match format.code with
        | .text n =>
          let octets := ((← get).texts[n]?).getD []
          let text := Format.charsOf octets.dropLast
          if text.isEmpty then warn "format-zero-length" format.spot "zero-length format string"
          match Wanted.ofText (text.length + 1) text with
          | some wanted => sayDisagreement wanted values format.spot
          | none => pure ()
        | _ => pure ()
      | [] => pure ()
    | none => pure ()
  | _ => pure ()

end Read
end Fragment.Program
