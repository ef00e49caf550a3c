import SyntaxPlayground.Text.Scalar

/-!
# White space

White space is the Unicode property `White_Space`. A byte that starts no character is never white
space, so trimming leaves it alone.
-/

namespace SyntaxPlayground

/-- Whether a character is white space. -/
def isBlank (c : Nat) : Bool :=
  (0x09 ≤ c && c ≤ 0x0D) || c == 0x20 || c == 0x85 || c == 0xA0 || c == 0x1680 ||
    (0x2000 ≤ c && c ≤ 0x200A) || c == 0x2028 || c == 0x2029 || c == 0x202F || c == 0x205F ||
    c == 0x3000

namespace Piece

/-- Whether the piece is white space. -/
def isBlank (p : Piece) : Bool :=
  SyntaxPlayground.isBlank p.scalar

end Piece

namespace Text

/-- The pieces left when white space is dropped at both ends. -/
def trimPieces (ps : List Piece) : List Piece :=
  ((ps.dropWhile Piece.isBlank).reverse.dropWhile Piece.isBlank).reverse

/-- The text without white space at either end. -/
def trim (t : Text) : Text :=
  ofPieces (trimPieces t.pieces)

/-- Collects the words of some pieces: the word they begin with, empty if they begin with white
space, and the words after it. -/
def collectWords : List Piece → Text × List Text
  | [] => ([], [])
  | p :: ps =>
    let (word, words) := collectWords ps
    if p.isBlank then ([], if word.isEmpty then words else word :: words)
    else (p.bytes ++ word, words)

/-- The words of a text: its longest parts without white space. -/
def words (t : Text) : List Text :=
  let (word, words) := collectWords t.pieces
  if word.isEmpty then words else word :: words

/-- Whether a text holds white space only. -/
def isBlank (t : Text) : Bool :=
  t.pieces.all Piece.isBlank

end Text

end SyntaxPlayground
