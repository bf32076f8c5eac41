import Pushdown.Binary64

/-! # Numbers from scaled significands

A significand and a power of ten are made into a number step by step: the significand is
rounded, the power is rounded, and so is every product and quotient. The result may
therefore differ in the last place from the number nearest to the decimal.
-/

namespace Pushdown

namespace Binary64

/-- The product of two numbers, rounded, or nothing when it is too large. -/
def mul? (x y : Binary64) : Option Binary64 :=
  let product := x.units * y.units
  ofRatio? (decide (product < 0)) product.natAbs (one * one)

/-- The quotient of two numbers, rounded, or nothing when it is too large. -/
def div? (x y : Binary64) : Option Binary64 :=
  ofRatio? (decide (x.units * y.units < 0)) x.units.natAbs y.units.natAbs

/-- The exponent of the largest power of ten that is a number. -/
def largestPower : Nat :=
  308

/-- A power of ten, rounded. -/
def powerOfTen? (exponent : Nat) : Option Binary64 :=
  ofRatio? false (Nat.pow 10 exponent) 1

/-- A number times a power of ten. -/
def raise? (x : Binary64) (exponent : Nat) : Option Binary64 :=
  if exponent ≤ largestPower then (powerOfTen? exponent).bind x.mul?
  else if x = zero then some zero
  else none

/-- A number divided by a power of ten, the largest power at a time. -/
def lower? (x : Binary64) (exponent : Nat) : Option Binary64 :=
  if exponent ≤ largestPower then (powerOfTen? exponent).bind x.div?
  else if x = zero then some zero
  else do
    let quotient ← (powerOfTen? largestPower).bind x.div?
    quotient.lower? (exponent - largestPower)
termination_by exponent
decreasing_by
  simp only [largestPower] at *
  omega

/-- The number that a significand and an exponent of ten give. -/
def ofScaled? (significand exponent : Int) : Option Binary64 := do
  let x ← ofInt? significand
  if 0 ≤ exponent then x.raise? exponent.toNat else x.lower? (-exponent).toNat

end Binary64

end Pushdown
