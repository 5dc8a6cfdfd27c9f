/-!
Texts as lines: pieces that keep their terminator, and lines that have lost it.
-/
namespace Fragment.Text

variable {α : Type} [DecidableEq α]

def pieces (separator : α) : List α → List (List α)
  | [] => []
  | c :: rest =>
    if c = separator then [c] :: pieces separator rest
    else match pieces separator rest with
      | [] => [[c]]
      | p :: ps => (c :: p) :: ps

theorem pieces_flatten (separator : α) (text : List α) :
    (pieces separator text).flatten = text := by
  induction text with
  | nil => rfl
  | cons c rest ih =>
    unfold pieces
    split
    · simp [ih]
    · split <;> simp_all

def dropLast? (c : α) (text : List α) : Option (List α) :=
  if text.getLast? = some c then some text.dropLast else none

def dropTerminator (piece : List Char) : List Char :=
  match dropLast? '\n' piece with
  | none => piece
  | some line => (dropLast? '\r' line).getD line

def lines (text : List Char) : List (List Char) := (pieces '\n' text).map dropTerminator

end Fragment.Text
