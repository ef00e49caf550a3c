import SyntaxPlayground.Text.Decimal

/-!
# Waiting between attempts

The wait doubles with every attempt, from a quarter of a second up to five seconds, and a random
part of up to one half is added so that callers spread out. Times are in nanoseconds and 64 bits
wide: the doubling wraps around, and an attempt whose wait wraps to nothing has no wait at all.
-/

namespace SyntaxPlayground

namespace Backoff

/-- A quarter of a second. -/
def quarter : Int := 250000000

/-- Five seconds. -/
def longest : Int := 5000000000

/-- The wait of an attempt without its random part. -/
def base (attempt : Int) : Int :=
  if 0 ≤ attempt ∧ attempt < 64 then
    min (wrapInt64 (Nat.pow 2 attempt.toNat * quarter)) longest
  else 0

/-- The shortest wait of an attempt and the bound that no wait reaches; `none` if there is no wait
between them. -/
def range? (attempt : Int) : Option (Int × Int) :=
  let half := (base attempt).tdiv 2
  if half ≤ 0 then none else some (base attempt, base attempt + half)

/-- The wait of an attempt, for a random number. -/
def wait? (attempt : Int) (random : Nat) : Option Int :=
  (range? attempt).map fun (low, high) => low + (random : Int) % (high - low)

end Backoff

end SyntaxPlayground
