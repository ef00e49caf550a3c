import SyntaxPlayground.Text.Decimal
import SyntaxPlayground.Text.Scalar

/-!
# JSON values

Requests and answers travel as JSON. Values are written without white space. Strings are written so
that they are safe inside a page: besides quotes, backslashes and control characters the characters
`<`, `>`, `&` and the two Unicode line separators are escaped. A byte that is no part of a
character is written as the replacement character.
-/

namespace SyntaxPlayground

/-- A JSON value. A number keeps the text it was written with. -/
inductive JsonValue where
  | null
  | bool (b : Bool)
  | number (literal : Text)
  | string (t : Text)
  | array (items : List JsonValue)
  | object (fields : List (Text × JsonValue))
deriving Inhabited, Repr

namespace JsonValue

/-- The letter that stands for a character after a backslash. -/
def escapeLetter? (c : Nat) : Option UInt8 :=
  match c with
  | 34 => some 34
  | 92 => some 92
  | 8 => some 98
  | 12 => some 102
  | 10 => some 110
  | 13 => some 114
  | 9 => some 116
  | _ => none

/-- One character of a string. -/
def writePiece (p : Piece) : Text :=
  match escapeLetter? p.scalar with
  | some letter => [92, letter]
  | none =>
    if p.isIll then encodeScalar replacementScalar
    else if p.scalar < 0x20 ∨ p.scalar = 60 ∨ p.scalar = 62 ∨ p.scalar = 38 ∨
        p.scalar = 0x2028 ∨ p.scalar = 0x2029 then
      utf8 "\\u" ++ Text.ofHex 4 p.scalar
    else p.bytes

/-- A string between its quotes. -/
def writeString (t : Text) : Text :=
  [34] ++ t.pieces.flatMap writePiece ++ [34]

mutual

/-- A value as text. -/
def write : JsonValue → Text
  | .null => utf8 "null"
  | .bool b => if b then utf8 "true" else utf8 "false"
  | .number literal => literal
  | .string t => writeString t
  | .array items => [91] ++ writeItems items ++ [93]
  | .object fields => [123] ++ writeFields fields ++ [125]

/-- The items of an array, with commas between them. -/
def writeItems : List JsonValue → Text
  | [] => []
  | [v] => v.write
  | v :: w :: vs => v.write ++ [44] ++ writeItems (w :: vs)

/-- The fields of an object, with commas between them. -/
def writeFields : List (Text × JsonValue) → Text
  | [] => []
  | [(k, v)] => writeString k ++ [58] ++ v.write
  | (k, v) :: f :: fs => writeString k ++ [58] ++ v.write ++ [44] ++ writeFields (f :: fs)

end

/-- An integer. -/
def int (n : Int) : JsonValue :=
  .number (Text.ofInt n)

/-- A number that is never negative. -/
def nat (n : Nat) : JsonValue :=
  .number (Text.ofNat n)

end JsonValue

end SyntaxPlayground
