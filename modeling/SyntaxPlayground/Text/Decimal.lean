import SyntaxPlayground.Text.Basic

/-!
# Numbers in text

Integers are written in decimal without leading zeros. Two readers accept them: `readDigits?` takes
plain digits only, `readInt?` also a sign; both refuse what does not fit a signed 64-bit word.
-/

namespace SyntaxPlayground

/-- The largest signed 64-bit integer. -/
def maxInt64 : Int := 9223372036854775807

/-- The smallest signed 64-bit integer. -/
def minInt64 : Int := -9223372036854775808

/-- An integer reduced to the signed 64-bit word that has its last 64 bits. -/
def wrapInt64 (n : Int) : Int :=
  n.bmod 18446744073709551616

namespace Text

/-- A number in decimal. -/
def ofNat (n : Nat) : Text :=
  (Nat.toDigits 10 n).map fun c => c.toNat.toUInt8

/-- An integer in decimal, with a minus sign when it is negative. -/
def ofInt : Int → Text
  | .ofNat n => ofNat n
  | .negSucc n => 45 :: ofNat (n + 1)

/-- The number that a string of decimal digits stands for. -/
def digitsValue (t : Text) : Nat :=
  t.foldl (fun n b => 10 * n + (b.toNat - 48)) 0

/-- Reads one or more decimal digits that fit a signed 64-bit word. -/
def readDigits? (t : Text) : Option Nat :=
  if !t.isEmpty && t.all isDigit && decide ((digitsValue t : Int) ≤ maxInt64) then
    some (digitsValue t)
  else none

/-- Reads an optional sign and one or more decimal digits that fit a signed 64-bit word. -/
def readInt? (t : Text) : Option Int :=
  match t with
  | [] => none
  | b :: u =>
    let digits := if b = 43 ∨ b = 45 then u else t
    if digits.isEmpty || !digits.all isDigit then none
    else
      let n : Int := if b = 45 then -(digitsValue digits : Int) else digitsValue digits
      if minInt64 ≤ n ∧ n ≤ maxInt64 then some n else none

/-- A number in lower-case hexadecimal, padded with zeros to `width` digits. -/
def ofHex (width n : Nat) : Text :=
  let digits := (Nat.toDigits 16 n).map fun c => c.toNat.toUInt8
  List.replicate (width - digits.length) 48 ++ digits

end Text

end SyntaxPlayground
