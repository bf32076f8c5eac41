import Pushdown.Binary64

/-! # Shortest decimals

The real numbers that round to one binary64 number form an interval. A decimal in
it reads back as that number, and the shortest such decimal identifies it. The
search walks the decimal grids from coarse to fine and stops at the first grid with
a point in the interval; of two points the nearer is taken, and of two equally near
points the larger.
-/

namespace Pushdown

/-- The decimal `digits * 10 ^ exponent`. -/
structure Decimal where
  digits : Nat
  exponent : Int
  deriving DecidableEq

/-- A positive value with the two ends of the interval that rounds to it, as
numerators over one denominator. -/
structure RoundingInterval where
  low : Nat
  value : Nat
  high : Nat
  denominator : Nat
  closed : Bool

namespace RoundingInterval

/-- The interval of a number's magnitude. The ends lie halfway to the neighbours, and
they belong to the interval exactly for an even significand. -/
def ofBits (bits : UInt64) : RoundingInterval :=
  let above := Binary64.gap bits
  let below :=
    if Binary64.fraction bits = 0 ∧ 1 < Binary64.exponentField bits then above / 2 else above
  let value := 4 * Binary64.magnitude bits
  { low := value - 2 * below
    value := value
    high := value + 2 * above
    denominator := 4 * Binary64.one
    closed := Binary64.fraction bits % 2 = 0 }

/-- The number of decimal digits before the point; not positive when the value is
below one tenth. -/
def places (interval : RoundingInterval) : Int :=
  if interval.denominator ≤ interval.value then
    (Nat.toDigits 10 (interval.value / interval.denominator)).length
  else
    1 - (Nat.toDigits 10 ((interval.denominator - 1) / interval.value)).length

/-- Whether a decimal lies in the interval. -/
def contains (interval : RoundingInterval) (decimal : Decimal) : Bool :=
  let point := decimal.digits * Nat.pow 10 decimal.exponent.toNat * interval.denominator
  let scale := Nat.pow 10 (-decimal.exponent).toNat
  if interval.closed then interval.low * scale ≤ point && point ≤ interval.high * scale
  else interval.low * scale < point && point < interval.high * scale

/-- The point of a decimal grid that reads back, if there is one. -/
def onGrid? (interval : RoundingInterval) (exponent : Int) : Option Decimal :=
  let scaled := interval.value * Nat.pow 10 (-exponent).toNat
  let step := Nat.pow 10 exponent.toNat * interval.denominator
  let lower : Decimal := ⟨scaled / step, exponent⟩
  let upper : Decimal := ⟨scaled / step + 1, exponent⟩
  match interval.contains lower, interval.contains upper with
  | true, true => some (if 2 * scaled < (2 * (scaled / step) + 1) * step then lower else upper)
  | true, false => some lower
  | false, true => some upper
  | false, false => none

/-- The exact value as a decimal; the denominator is a power of two, so it divides a
power of ten. -/
def exact (interval : RoundingInterval) : Decimal :=
  ⟨interval.value * Nat.pow 5 interval.denominator.log2, -(interval.denominator.log2 : Int)⟩

/-- The shortest decimal that reads back. -/
def shortest (interval : RoundingInterval) : Decimal :=
  ((List.range 17).findSome? fun (extra : Nat) =>
    interval.onGrid? (interval.places - 1 - extra)).getD interval.exact

end RoundingInterval

namespace Decimal

/-- The same decimal without trailing zeros. -/
def strip (decimal : Decimal) : Decimal :=
  if decimal.digits % 10 = 0 ∧ 0 < decimal.digits then
    strip ⟨decimal.digits / 10, decimal.exponent + 1⟩
  else decimal
termination_by decimal.digits

end Decimal

/-- The shortest decimal that identifies the magnitude of a number. -/
def Binary64.shortest (x : Binary64) : Decimal :=
  if Binary64.magnitude x.bits = 0 then ⟨0, 0⟩
  else (RoundingInterval.ofBits x.bits).shortest.strip

end Pushdown
