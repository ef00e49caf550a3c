import SyntaxPlayground.Text.Decimal

/-!
# Floating-point numbers in text

A floating-point number is written in decimal with as few digits as tell it from every other one.
The value is taken apart into `mantissa * 2 ^ exponent`; a decimal number stands for it if it lies
between the halfway points to its two neighbours.
-/

namespace SyntaxPlayground

/-- A fraction with its parts, both natural numbers. -/
structure Ratio where
  num : Nat
  den : Nat
deriving DecidableEq, Repr

namespace Ratio

/-- `m * 2 ^ e`. -/
def ofBinary (m : Nat) (e : Int) : Ratio :=
  if 0 ≤ e then ⟨m * Nat.pow 2 e.toNat, 1⟩ else ⟨m, Nat.pow 2 (-e).toNat⟩

/-- `m * 10 ^ e`. -/
def ofDecimal (m : Nat) (e : Int) : Ratio :=
  if 0 ≤ e then ⟨m * Nat.pow 10 e.toNat, 1⟩ else ⟨m, Nat.pow 10 (-e).toNat⟩

/-- The order of fractions. -/
def le (a b : Ratio) : Bool :=
  a.num * b.den ≤ b.num * a.den

/-- The strict order of fractions. -/
def lt (a b : Ratio) : Bool :=
  a.num * b.den < b.num * a.den

/-- The nearest natural number to `a * 10 ^ e`, the even one of two. -/
def scaled (a : Ratio) (e : Int) : Nat :=
  let num := if 0 ≤ e then a.num * Nat.pow 10 e.toNat else a.num
  let den := if 0 ≤ e then a.den else a.den * Nat.pow 10 (-e).toNat
  let whole := num / den
  let rest := 2 * (num % den)
  if den < rest ∨ (rest = den ∧ whole % 2 = 1) then whole + 1 else whole

/-- The number of digits before the decimal point, negative for zeros after it. -/
def magnitude (a : Ratio) : Int :=
  let digits := (Nat.toDigits 10 a.num).length
  let digits' := (Nat.toDigits 10 a.den).length
  let guess : Int := digits - digits'
  if (ofDecimal 1 guess).le a then guess + 1 else guess

end Ratio

/-- A decimal number: `digits * 10 ^ exponent`. -/
structure DecimalNumber where
  digits : Nat
  exponent : Int
deriving DecidableEq, Repr

namespace DecimalNumber

/-- The decimal number without zeros at the end of its digits; `fuel` is at least their number. -/
def strip : Nat → DecimalNumber → DecimalNumber
  | 0, d => d
  | fuel + 1, d =>
    if d.digits ≠ 0 ∧ d.digits % 10 = 0 then strip fuel ⟨d.digits / 10, d.exponent + 1⟩ else d

/-- The number in plain decimal. -/
def write (d : DecimalNumber) : Text :=
  let digits := Text.ofNat d.digits
  if 0 ≤ d.exponent then digits ++ List.replicate d.exponent.toNat 48
  else
    let places := (-d.exponent).toNat
    let padded := List.replicate (places + 1 - digits.length) 48 ++ digits
    padded.take (padded.length - places) ++ [46] ++ padded.drop (padded.length - places)

end DecimalNumber

/-- The shortest decimal number for `m * 2 ^ e` with at least `n` digits, of at most `n + fuel`. The
neighbour below is nearer when `m` is the least mantissa. -/
def shortest (m : Nat) (e : Int) (isLeast : Bool) : Nat → Nat → DecimalNumber
  | fuel, n =>
    let value := Ratio.ofBinary m e
    let place := value.magnitude - n
    let candidate : DecimalNumber := ⟨value.scaled (-place), place⟩
    let low := if isLeast then Ratio.ofBinary (4 * m - 1) (e - 2) else Ratio.ofBinary (2 * m - 1) (e - 1)
    let high := Ratio.ofBinary (2 * m + 1) (e - 1)
    let decimal := Ratio.ofDecimal candidate.digits candidate.exponent
    let fits :=
      if m % 2 = 0 then low.le decimal && decimal.le high else low.lt decimal && decimal.lt high
    match fuel with
    | 0 => candidate
    | fuel + 1 => if fits then candidate else shortest m e isLeast fuel (n + 1)

namespace Text

/-- A finite floating-point number in plain decimal. -/
def ofFloat (f : Float) : Text :=
  let bits := f.toBits.toNat
  let unit := Nat.pow 2 52
  let sign : Text := if bits / Nat.pow 2 63 = 1 then [45] else []
  let biased : Nat := bits / unit % Nat.pow 2 11
  let low : Nat := bits % unit
  if biased = 0 ∧ low = 0 then sign ++ [48]
  else
    let (m, e) : Nat × Int :=
      if biased = 0 then (low, -1074) else (low + unit, (biased : Int) - 1075)
    let d := shortest m e (low == 0 && 1 < biased) 16 1
    sign ++ (d.strip 20).write

end Text

end SyntaxPlayground
