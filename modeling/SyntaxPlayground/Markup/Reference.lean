import SyntaxPlayground.Markup.ReferenceName

/-!
# Character references

In text and in attribute values `&#65;`, `&#x41;` and `&lt;` stand for characters. Numbers name a
code point, and a name that is not known is ordinary text. Line ends are brought to a single newline
before references are decoded, so `&#13;` still gives a carriage return.
-/

namespace SyntaxPlayground

namespace Reference

/-- The length of the longest name without a semicolon. -/
def longestBareName : Nat := 6

/-- What the code points from 0x80 to 0x9F stand for. -/
def c1Replacements : List Nat :=
  [0x20AC, 0x81, 0x201A, 0x192, 0x201E, 0x2026, 0x2020, 0x2021, 0x2C6, 0x2030, 0x160, 0x2039,
    0x152, 0x8D, 0x17D, 0x8F, 0x90, 0x2018, 0x2019, 0x201C, 0x201D, 0x2022, 0x2013, 0x2014, 0x2DC,
    0x2122, 0x161, 0x203A, 0x153, 0x9D, 0x17E, 0x178]

/-- The character of a code point given by number, which is a signed 32-bit word. -/
def numbered (n : Int) : Text :=
  if 0x80 ≤ n ∧ n ≤ 0x9F then encodeScalar (c1Replacements.getD (n.toNat - 0x80) 0)
  else if n ≤ 0 then encodeScalar replacementScalar
  else encodeScalar n.toNat

/-- The value of the digits in the given base, as a signed 32-bit word. -/
def wordValue (base : Nat) (digits : Text) : Int :=
  digits.foldl (fun n b => (base * n + (Text.hexValue? b).getD 0).bmod 4294967296) 0

/-- Reads a numeric reference after its `&#`: the character and the number of bytes read. One
digit alone is not enough, it takes a second one or a semicolon. -/
def readNumber? (t : Text) : Option (Text × Nat) :=
  let hex := t.head? == some 120 || t.head? == some 88
  let rest := if hex then t.drop 1 else t
  let digits := rest.takeWhile fun b =>
    if hex then (Text.hexValue? b).isSome else Text.isDigit b
  let semicolon := if (rest.drop digits.length).head? = some 59 then 1 else 0
  let taken := (if hex then 1 else 0) + digits.length + semicolon
  if t.length ≤ 1 || taken ≤ 1 then none
  else some (numbered (wordValue (if hex then 16 else 10) digits), taken)

/-- The longest name, of at most `n` bytes and at least two, that the text begins with and that needs
no semicolon: its characters and the number of bytes read. -/
def longestBare? (t : Text) : Nat → Option (Text × Nat)
  | 0 => none
  | 1 => none
  | n + 2 =>
    if ReferenceName.bare.contains (t.take (n + 2)) then
      (ReferenceName.find? (t.take (n + 2))).map fun c => (c, n + 2)
    else longestBare? t (n + 1)

/-- What a whole word stands for, with its semicolon or without. -/
def wholeWord? (word : Text) (semicolon : Bool) : Option Text :=
  if semicolon || ReferenceName.bare.contains word then ReferenceName.find? word else none

/-- Reads a named reference after its `&`: the characters and the number of bytes read. In the value
of an attribute only a whole word counts, and without a semicolon not before `=`. -/
def readName? (inAttribute : Bool) (t : Text) : Option (Text × Nat) :=
  let word := t.takeWhile fun b => Text.isLetter b || Text.isDigit b
  let next := (t.drop word.length).head?
  let semicolon := next == some 59
  let length := if semicolon then word.length + 1 else word.length
  if inAttribute && next == some 61 then none
  else
    match wholeWord? word semicolon with
    | some c => some (c, length)
    | none => if inAttribute then none else longestBare? word (min (length - 1) longestBareName)

/-- Reads a reference after its `&`. -/
def read? (inAttribute : Bool) (t : Text) : Option (Text × Nat) :=
  match t with
  | 35 :: rest => (readNumber? rest).map fun (c, n) => (c, n + 1)
  | _ => readName? inAttribute t

end Reference

namespace Text

/-- Every line end as a single newline. -/
def unifyNewlines : Text → Text
  | [] => []
  | 13 :: 10 :: t => 10 :: unifyNewlines t
  | b :: t => (if b = 13 then 10 else b) :: unifyNewlines t

/-- The text with its references decoded. -/
def decodeReferences (inAttribute : Bool) : Text → Text :=
  go 0
where
  /-- `skip` counts the bytes of the last reference still to be passed over. -/
  go : Nat → Text → Text
    | _, [] => []
    | skip + 1, _ :: t => go skip t
    | 0, b :: t =>
      if b = 38 then
        match Reference.read? inAttribute t with
        | some (c, n) => c ++ go n t
        | none => b :: go 0 t
      else b :: go 0 t

end Text

end SyntaxPlayground
