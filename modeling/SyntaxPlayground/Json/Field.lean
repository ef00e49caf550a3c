import SyntaxPlayground.Json.Basic

/-!
# Fields of a JSON object

A record is read from an object field by field. A key names a field whatever its letters' case; the
last occurrence counts, `null` leaves the field as it is, and a value of another type is an error.
Keys that name no field are ignored. Instead of an object there may be `null`, which leaves every
field as it is.
-/

namespace SyntaxPlayground

namespace JsonValue

/-- A character of a key with case set aside: capital letters of the basic alphabet, the long `s`
and the sign for Kelvin count as the small letters they stand for. -/
def foldPiece (p : Piece) : Text :=
  if p.scalar = 0x17F then [115]
  else if p.scalar = 0x212A then [107]
  else p.bytes.map Text.lowerByte

/-- Whether a key names the field `name`, which is in small letters. -/
def names (key name : Text) : Bool :=
  key.pieces.flatMap foldPiece == name

/-- The fields of a record. -/
def record? : JsonValue → Option (List (Text × JsonValue))
  | .null => some []
  | .object fields => some fields
  | _ => none

/-- Reads a field whose value so far is `init`, taking its occurrences in order. -/
def field? {α : Type} (fields : List (Text × JsonValue)) (name : Text) (init : α)
    (read : α → JsonValue → Option α) : Option α :=
  fields.foldl
    (fun acc (key, v) => if names key name then acc.bind fun a => read a v else acc)
    (some init)

/-- Reads a text over the one there is. -/
def readText? (t : Text) : JsonValue → Option Text
  | .string u => some u
  | .null => some t
  | _ => none

/-- A text field, empty if it is missing. -/
def textField? (fields : List (Text × JsonValue)) (name : Text) : Option Text :=
  field? fields name [] readText?

end JsonValue

end SyntaxPlayground
