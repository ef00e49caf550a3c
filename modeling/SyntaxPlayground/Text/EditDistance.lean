import SyntaxPlayground.Text.Basic

/-!
# Edit distance

How many bytes must be inserted, removed or replaced to turn one text into another. The distances
from the beginnings of the first text to all beginnings of the second form a row; a row follows
from the one before it.
-/

namespace SyntaxPlayground

namespace Text

/-- The rest of the row for one more byte `a`: `left` is the distance just found, and the list holds
the old distances from there on. -/
def editRowFrom (a : UInt8) : Nat → List Nat → Text → List Nat
  | left, diagonal :: above :: row, b :: t =>
    let n := if a = b then diagonal else 1 + min diagonal (min above left)
    n :: editRowFrom a n (above :: row) t
  | _, _, _ => []

/-- The row for one more byte. -/
def editRow (t : Text) (row : List Nat) (a : UInt8) : List Nat :=
  let first := row.headD 0 + 1
  first :: editRowFrom a first row t

/-- The number of edits between two texts. -/
def editDistance (s t : Text) : Nat :=
  (s.foldl (editRow t) (List.range (t.length + 1))).getLastD 0

end Text

end SyntaxPlayground
