/-!
# Text as bytes

Everything the playground shows or reads is a string of bytes: usually UTF-8, but a compiler may
print anything, so no operation may assume it. This module fixes the carrier and the byte-level
operations the formats are written with: cutting at a separator, splitting into lines, trimming and
joining.
-/

namespace SyntaxPlayground

/-- Text is a string of bytes. Where characters matter it is read as UTF-8. -/
abbrev Text := List UInt8

/-- The bytes of a literal. -/
def utf8 (s : String) : Text :=
  s.toUTF8.data.toList

namespace Text

/-- Cuts a text at the first byte `b`, which belongs to neither half; `none` if there is none. -/
def cutByte? (b : UInt8) : Text → Option (Text × Text)
  | [] => none
  | c :: t => if c = b then some ([], t) else (cutByte? b t).map fun (l, r) => (c :: l, r)

/-- Cuts a text at the first occurrence of `sep`, which belongs to neither half. -/
def cut? : Text → Text → Option (Text × Text)
  | [], sep => if sep.isEmpty then some ([], []) else none
  | c :: t, sep =>
    if sep.isPrefixOf (c :: t) then some ([], (c :: t).drop sep.length)
    else (cut? t sep).map fun (l, r) => (c :: l, r)

/-- The pieces between the bytes `b`: one more than there are such bytes. -/
def splitByte (b : UInt8) : Text → List Text
  | [] => [[]]
  | c :: t =>
    if c = b then [] :: splitByte b t
    else
      match splitByte b t with
      | [] => [[c]]
      | l :: ls => (c :: l) :: ls

/-- The lines of a text: what stands between newlines. -/
def lines (t : Text) : List Text :=
  t.splitByte 10

/-- Drops the bytes satisfying `p` from the end. -/
def dropTrailing (p : UInt8 → Bool) (t : Text) : Text :=
  (t.reverse.dropWhile p).reverse

/-- A line without the carriage returns at its end. -/
def dropReturns (t : Text) : Text :=
  t.dropTrailing (· = 13)

/-- Texts written one after the other with `sep` between them. -/
def join (sep : Text) : List Text → Text
  | [] => []
  | [t] => t
  | t :: u :: ts => t ++ sep ++ join sep (u :: ts)

/-- `t` written `n` times. -/
def times (n : Nat) (t : Text) : Text :=
  (List.replicate n t).flatten

/-- `t` with every occurrence of the non-empty text `old` replaced by `new`, from the left. -/
def replaceAll (t old new : Text) : Text :=
  go 0 t
where
  /-- `skip` counts the bytes of the last occurrence still to be passed over. -/
  go : Nat → Text → Text
    | _, [] => []
    | skip + 1, _ :: t => go skip t
    | 0, c :: t =>
      if !old.isEmpty && old.isPrefixOf (c :: t) then new ++ go (old.length - 1) t
      else c :: go 0 t

/-- Lower-cases `A` to `Z` and leaves every other byte alone. -/
def lowerByte (b : UInt8) : UInt8 :=
  if 65 ≤ b ∧ b ≤ 90 then b + 32 else b

/-- A decimal digit. -/
def isDigit (b : UInt8) : Bool :=
  48 ≤ b && b ≤ 57

/-- A letter of the basic alphabet, of either case. -/
def isLetter (b : UInt8) : Bool :=
  (65 ≤ b && b ≤ 90) || (97 ≤ b && b ≤ 122)

/-- The value of a hexadecimal digit. -/
def hexValue? (b : UInt8) : Option Nat :=
  if 48 ≤ b ∧ b ≤ 57 then some (b.toNat - 48)
  else if 97 ≤ b ∧ b ≤ 102 then some (b.toNat - 87)
  else if 65 ≤ b ∧ b ≤ 70 then some (b.toNat - 55)
  else none

/-- Texts compare byte by byte, a proper beginning first. -/
def before : Text → Text → Bool
  | [], [] => false
  | [], _ :: _ => true
  | _ :: _, [] => false
  | a :: s, b :: t => a < b || (a == b && before s t)

end Text

end SyntaxPlayground
