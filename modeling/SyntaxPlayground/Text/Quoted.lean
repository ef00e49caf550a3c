import SyntaxPlayground.Text.Decimal
import SyntaxPlayground.Text.Printable

/-!
# Quoted text

Messages show foreign text between double quotes and single characters between single ones. The
quotes and backslashes are escaped, printable characters stand for themselves, the usual control
characters have a letter, and everything else is written by its number: `\x7f` for small ones and
single bytes, `\u200b`, `\U0001f3fb`.
-/

namespace SyntaxPlayground

namespace Text

/-- The letter that stands for a control character after a backslash. -/
def escapeLetter? (c : Nat) : Option UInt8 :=
  match c with
  | 7 => some 97
  | 8 => some 98
  | 12 => some 102
  | 10 => some 110
  | 13 => some 114
  | 9 => some 116
  | 11 => some 118
  | _ => none

/-- One character of a text between two marks `mark`, which are the only quotes it escapes. -/
def quotePiece (mark : UInt8) (p : Piece) : Text :=
  if p.isIll then utf8 "\\x" ++ ofHex 2 ((p.bytes.headD 0).toNat)
  else if p.scalar = mark.toNat ∨ p.scalar = 92 then 92 :: p.bytes
  else if isPrintable p.scalar then p.bytes
  else
    match escapeLetter? p.scalar with
    | some letter => [92, letter]
    | none =>
      if p.scalar < 0x20 ∨ p.scalar = 0x7F then utf8 "\\x" ++ ofHex 2 p.scalar
      else if p.scalar < 0x10000 then utf8 "\\u" ++ ofHex 4 p.scalar
      else utf8 "\\U" ++ ofHex 8 p.scalar

/-- The text between double quotes. -/
def quoted (t : Text) : Text :=
  [34] ++ t.pieces.flatMap (quotePiece 34) ++ [34]

/-- A character between single quotes. -/
def quotedScalar (c : Nat) : Text :=
  [39] ++ quotePiece 39 ⟨encodeScalar c, c⟩ ++ [39]

end Text

end SyntaxPlayground
