/-
  Cutting a text at a separator, and line ends.

  `splitAt` never loses a character other than the separators and always gives at least one piece.
  `plainLineEnds` makes every line end a single line feed, whichever of the three conventions the
  text follows.
-/

namespace Flowchart.Text

/-- The pieces between the occurrences of `sep`. -/
def splitAt (sep : Char) : List Char → List (List Char)
  | [] => [[]]
  | c :: rest =>
    if c == sep then [] :: splitAt sep rest
    else match splitAt sep rest with
      | [] => [[c]]
      | piece :: pieces => (c :: piece) :: pieces

/-- A return, alone or before a line feed, becomes a line feed. -/
def plainLineEnds : List Char → List Char
  | [] => []
  | '\r' :: '\n' :: rest => '\n' :: plainLineEnds rest
  | '\r' :: rest => '\n' :: plainLineEnds rest
  | c :: rest => c :: plainLineEnds rest

/-- The lines of a text; a line feed at its very end opens no further line. -/
def lines (cs : List Char) : List (List Char) :=
  match (splitAt '\n' cs).reverse with
  | [] :: before => before.reverse
  | all => all.reverse

end Flowchart.Text
