/-!
Terminal colours: a text between the codes of its style and the code that ends all styles.
-/
namespace Fragment.Text

-- The text in a style, if there are colours at all; each code stands in a sequence of its own.
def paint (coloured : Bool) (codes : List String) (text : String) : String :=
  if coloured then
    String.join (codes.map fun c => "\x1b[" ++ c ++ "m") ++ text ++ "\x1b[0m"
  else text

theorem paint_plain (codes : List String) (text : String) : paint false codes text = text := rfl

end Fragment.Text
