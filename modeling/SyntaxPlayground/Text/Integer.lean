import SyntaxPlayground.Text.Decimal

/-!
# Integers in any base

An integer as people write it on a command line: a sign may come first, the marks `0x`, `0b` and
`0o` and a leading zero announce a base other than ten, and an underscore may stand between digits.
-/

namespace SyntaxPlayground

/-- Why a text is no integer. -/
inductive NumberError where
  | malformed
  | outOfRange
deriving DecidableEq, Repr

namespace NumberError

/-- The text shown for the error. -/
def message : NumberError → Text
  | malformed => utf8 "invalid syntax"
  | outOfRange => utf8 "value out of range"

end NumberError

namespace Text

/-- The value of a digit in bases up to 36. -/
def digitValue? (b : UInt8) : Option Nat :=
  if isDigit b then some (b.toNat - 48)
  else if isLetter b then some ((lowerByte b).toNat - 87)
  else none

/-- The base of a number without sign and what follows its mark. A mark needs a digit after it; a
zero in front of anything else means base eight. -/
def cutBase : Text → Nat × Text
  | 48 :: m :: d :: t =>
    if lowerByte m = 98 then (2, d :: t)
    else if lowerByte m = 111 then (8, d :: t)
    else if lowerByte m = 120 then (16, d :: t)
    else (8, m :: d :: t)
  | 48 :: t => (8, t)
  | t => (10, t)

/-- Reads the digits of a number that has the value `n` so far and fits an unsigned 64-bit word.
The first fault decides, so a number may be too large before it is malformed. -/
def readDigitsFrom (base : Nat) : Nat → Text → Except NumberError Nat
  | n, [] => .ok n
  | n, b :: t =>
    if b = 95 then readDigitsFrom base n t
    else
      match digitValue? b with
      | none => .error .malformed
      | some d =>
        if base ≤ d then .error .malformed
        else if 18446744073709551616 ≤ base * n + d then .error .outOfRange
        else readDigitsFrom base (base * n + d) t

/-- Whether each underscore stands between two digits; `afterDigit` says what comes before. -/
def separatesDigits : Bool → Text → Bool
  | afterDigit, [] => afterDigit
  | afterDigit, b :: t =>
    if b = 95 then afterDigit && separatesDigits false t else separatesDigits true t

/-- Reads an integer that fits a signed 64-bit word. -/
def readInteger (t : Text) : Except NumberError Int := do
  let (negative, number) :=
    match t with
    | 45 :: u => (true, u)
    | 43 :: u => (false, u)
    | _ => (false, t)
  if number = [] then throw .malformed
  let (base, digits) := cutBase number
  let size ← readDigitsFrom base 0 digits
  unless separatesDigits (base != 10) digits do throw .malformed
  let n : Int := if negative then -(size : Int) else size
  if minInt64 ≤ n ∧ n ≤ maxInt64 then return n else throw .outOfRange

end Text

end SyntaxPlayground
