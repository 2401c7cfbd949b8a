/-!
# Shapes

Texts made of pieces in a row: fixed words, runs of one character class, and a given number of
characters of a class. A run takes all it can get. That loses no text as long as what comes
behind a run never starts with a character of its class.

## Main definitions

* `Piece`, `Shape`: one piece, and pieces in a row;
* `Shape.accepts`: the text is of the shape from its first to its last character.
-/

namespace ElasticGroups.Text

/-- One piece of a shape. -/
inductive Piece
  /-- A fixed word. -/
  | word (text : String)
  /-- One or more characters of a class. -/
  | run (member : Char → Bool)
  /-- A given number of characters of a class. -/
  | exactly (count : Nat) (member : Char → Bool)

/-- Take a piece off the start of a text. -/
def Piece.strip? : Piece → List Char → Option (List Char)
  | word text, cs => text.toList.isPrefixOf? cs
  | run member, cs => if (cs.takeWhile member).isEmpty then none else some (cs.dropWhile member)
  | exactly count member, cs =>
    if (cs.take count).length = count ∧ (cs.take count).all member = true then
      some (cs.drop count)
    else none

/-- Pieces in a row. -/
abbrev Shape := List Piece

/-- The text is of the shape from its first to its last character. -/
def Shape.accepts (shape : Shape) (s : String) : Bool :=
  (shape.foldlM (fun rest piece => piece.strip? rest) s.toList) == some []

end ElasticGroups.Text
