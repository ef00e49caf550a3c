import SyntaxPlayground.Text.Basic

/-!
# Characters of a text

A text falls into *pieces*: each well-formed UTF-8 sequence is one piece, and so is each byte that
starts none. A piece stands for one character, an ill-formed byte for the replacement character
U+FFFD. Nothing is lost: the bytes of the pieces, put together, are the text.
-/

namespace SyntaxPlayground

/-- The replacement character, which stands for a byte that is no part of a character. -/
def replacementScalar : Nat := 0xFFFD

/-- The UTF-8 sequence of a code point; the replacement character's if there is none. -/
def encodeScalar (c : Nat) : Text :=
  if c < 0x80 then [c.toUInt8]
  else if c < 0x800 then [(0xC0 + c / 64).toUInt8, (0x80 + c % 64).toUInt8]
  else if 0xD800 ≤ c ∧ c ≤ 0xDFFF ∨ 0x10FFFF < c then [0xEF, 0xBF, 0xBD]
  else if c < 0x10000 then
    [(0xE0 + c / 4096).toUInt8, (0x80 + c / 64 % 64).toUInt8, (0x80 + c % 64).toUInt8]
  else
    [(0xF0 + c / 262144).toUInt8, (0x80 + c / 4096 % 64).toUInt8,
      (0x80 + c / 64 % 64).toUInt8, (0x80 + c % 64).toUInt8]

/-- One character of a text: its bytes and its code point. -/
structure Piece where
  bytes : Text
  scalar : Nat
deriving DecidableEq, Repr

namespace Piece

/-- A byte that starts no well-formed sequence. -/
def ill (b : UInt8) : Piece :=
  ⟨[b], replacementScalar⟩

/-- Whether the piece is a byte that starts no well-formed sequence. -/
def isIll (p : Piece) : Bool :=
  p.scalar == replacementScalar && p.bytes.length == 1

/-- The UTF-16 units of a character: two beyond the basic plane. -/
def units16 (p : Piece) : Nat :=
  if p.scalar < 0x10000 then 1 else 2

end Piece

namespace Text

/-- A byte that may follow the first one of a sequence. -/
def isContinuation (b : UInt8) : Bool :=
  0x80 ≤ b && b ≤ 0xBF

/-- Whether `a b` is a well-formed sequence of two bytes. -/
def isPair (a b : UInt8) : Bool :=
  0xC2 ≤ a && a ≤ 0xDF && isContinuation b

/-- Whether `a b` begin a well-formed sequence of three bytes. -/
def opensTriple (a b : UInt8) : Bool :=
  (a == 0xE0 && 0xA0 ≤ b && b ≤ 0xBF) ||
  (0xE1 ≤ a && a ≤ 0xEF && a != 0xED && isContinuation b) ||
  (a == 0xED && 0x80 ≤ b && b ≤ 0x9F)

/-- Whether `a b` begin a well-formed sequence of four bytes. -/
def opensQuad (a b : UInt8) : Bool :=
  (a == 0xF0 && 0x90 ≤ b && b ≤ 0xBF) ||
  (0xF1 ≤ a && a ≤ 0xF3 && isContinuation b) ||
  (a == 0xF4 && 0x80 ≤ b && b ≤ 0x8F)

/-- The six low bits that a continuation byte carries. -/
def lowBits (b : UInt8) : Nat :=
  b.toNat % 64

/-- The characters of a text, in order. -/
def pieces : Text → List Piece
  | [] => []
  | a :: t =>
    if a < 0x80 then ⟨[a], a.toNat⟩ :: pieces t
    else
      match t with
      | [] => [Piece.ill a]
      | b :: u =>
        if isPair a b then ⟨[a, b], a.toNat % 32 * 64 + lowBits b⟩ :: pieces u
        else
          match u with
          | [] => Piece.ill a :: pieces (b :: [])
          | c :: v =>
            if opensTriple a b && isContinuation c then
              ⟨[a, b, c], a.toNat % 16 * 4096 + lowBits b * 64 + lowBits c⟩ :: pieces v
            else
              match v with
              | [] => Piece.ill a :: pieces (b :: c :: [])
              | d :: w =>
                if opensQuad a b && isContinuation c && isContinuation d then
                  ⟨[a, b, c, d],
                    a.toNat % 8 * 262144 + lowBits b * 4096 + lowBits c * 64 + lowBits d⟩ ::
                    pieces w
                else Piece.ill a :: pieces (b :: c :: d :: w)

/-- The text that the pieces make up. -/
def ofPieces (ps : List Piece) : Text :=
  ps.flatMap Piece.bytes

/-- The number of characters. -/
def runeCount (t : Text) : Nat :=
  t.pieces.length

/-- Whether every byte belongs to a well-formed sequence. -/
def isUtf8 (t : Text) : Bool :=
  t.pieces.all fun p => !p.isIll

/-- The text with each ill-formed byte replaced by the replacement character. -/
def repaired (t : Text) : Text :=
  t.pieces.flatMap fun p => if p.isIll then [0xEF, 0xBF, 0xBD] else p.bytes

theorem ofPieces_pieces (t : Text) : ofPieces t.pieces = t := by
  fun_induction pieces t <;> simp_all [ofPieces, Piece.ill]

end Text

end SyntaxPlayground
