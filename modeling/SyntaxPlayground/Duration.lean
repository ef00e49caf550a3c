import SyntaxPlayground.Text.Decimal

/-!
# Durations

A duration is a signed 64-bit number of nanoseconds. It is written as a sequence of decimal numbers
with units, such as `1h30m` or `-1.5s`. Numbers that do not fit are refused, with one exception:
a running sum of exactly 2⁶⁴ wraps around to zero.
-/

namespace SyntaxPlayground

namespace Duration

/-- A second. -/
def second : Int := 1000000000

/-- A minute. -/
def minute : Int := 60000000000

/-- The nanoseconds of a unit. -/
def unit? (name : Text) : Option Nat :=
  if name = utf8 "ns" then some 1
  else if name = utf8 "us" ∨ name = utf8 "µs" ∨ name = utf8 "μs" then some 1000
  else if name = utf8 "ms" then some 1000000
  else if name = utf8 "s" then some 1000000000
  else if name = utf8 "m" then some 60000000000
  else if name = utf8 "h" then some 3600000000000
  else none

/-- The largest magnitude. -/
def limit : Nat := 9223372036854775808

/-- The digits after a decimal point as a number and its scale; digits that no longer fit are
dropped. -/
def fraction (digits : Text) : Nat × Float :=
  let (value, scale, _) := digits.foldl
    (fun (value, scale, full) b =>
      let next := value * 10 + (b.toNat - 48)
      if full || (limit - 1) / 10 < value || limit < next then (value, scale, true)
      else (next, scale * 10, false))
    (0, (1 : Float), false)
  (value, scale)

/-- The nanoseconds of `whole` units and a fraction of one. -/
def nanoseconds? (whole : Nat) (digits : Text) (unit : Nat) : Option Nat :=
  if limit / unit < whole then none
  else
    let (value, scale) := fraction digits
    let part :=
      if value = 0 then 0
      else (value.toUInt64.toFloat * (unit.toUInt64.toFloat / scale)).toUInt64.toNat
    if limit < whole * unit + part then none else some (whole * unit + part)

/-- One number with its unit, and what follows. -/
def term? (t : Text) : Option (Nat × Text) :=
  let digits := t.takeWhile Text.isDigit
  let rest := t.drop digits.length
  let (fraction, rest) : Text × Text :=
    match rest with
    | 46 :: rest => let digits := rest.takeWhile Text.isDigit; (digits, rest.drop digits.length)
    | rest => ([], rest)
  let unit := rest.takeWhile fun b => b != 46 && !Text.isDigit b
  if (digits.isEmpty && fraction.isEmpty) || limit < Text.digitsValue digits then none
  else
    match unit? unit with
    | none => none
    | some n =>
      (nanoseconds? (Text.digitsValue digits) fraction n).map (·, rest.drop unit.length)

/-- The sum of the numbers of a text, added to `sum`; `fuel` is at least the length of the text. -/
def sum? : Nat → Nat → Text → Option Nat
  | _, sum, [] => some sum
  | 0, _, _ => none
  | fuel + 1, sum, t =>
    match term? t with
    | none => none
    | some (n, rest) =>
      let sum := (sum + n) % 18446744073709551616
      if limit < sum then none else sum? fuel sum rest

/-- Reads a duration. -/
def read? (t : Text) : Option Int :=
  let (negative, t) : Bool × Text :=
    match t with
    | 45 :: t => (true, t)
    | 43 :: t => (false, t)
    | t => (false, t)
  if t = utf8 "0" then some 0
  else if t = [] then none
  else
    match sum? t.length 0 t with
    | none => none
    | some n =>
      if negative then some (-(n : Int)) else if n = limit then none else some n

end Duration

end SyntaxPlayground
