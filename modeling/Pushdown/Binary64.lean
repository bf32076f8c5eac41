/-! # Finite binary64 numbers

A finite number is kept by its encoding and read as a whole number of units of
`2 ^ (-1074)`, the least positive number. Two numbers compare by their units, so
exactly; whole part and remainder serve where one meets an integer. Rounding takes
an exact ratio to the nearest number.
-/

namespace Pushdown

namespace Binary64

/-- The eleven exponent bits of an encoding. -/
def exponentField (bits : UInt64) : Nat :=
  bits.toNat >>> 52 % 2048

/-- The fifty-two fraction bits of an encoding. -/
def fraction (bits : UInt64) : Nat :=
  bits.toNat % 1 <<< 52

/-- The sign bit of an encoding. -/
def negative (bits : UInt64) : Bool :=
  decide (1 <<< 63 ≤ bits.toNat)

end Binary64

/-- A finite binary64 number, by its encoding. Zero carries no sign. -/
structure Binary64 where
  bits : UInt64
  finite : Binary64.exponentField bits ≠ 2047
  unsignedZero : bits.toNat ≠ 1 <<< 63
  deriving DecidableEq

namespace Binary64

/-- The number zero. -/
def zero : Binary64 where
  bits := 0
  finite := by decide
  unsignedZero := by decide

instance : Inhabited Binary64 := ⟨zero⟩

/-- The number an encoding stands for; infinities and non-numbers are refused and
the negative zero is read as zero. -/
def ofBits? (bits : UInt64) : Option Binary64 :=
  if finite : exponentField bits ≠ 2047 then
    if unsignedZero : bits.toNat ≠ 1 <<< 63 then some ⟨bits, finite, unsignedZero⟩ else some zero
  else none

/-- The distance to the next larger encoding, in units. -/
def gap (bits : UInt64) : Nat :=
  1 <<< (exponentField bits - 1)

/-- The magnitude of an encoding, in units. -/
def magnitude (bits : UInt64) : Nat :=
  if exponentField bits = 0 then fraction bits
  else (1 <<< 52 + fraction bits) * gap bits

/-- The exact value of a number, in units. -/
def units (x : Binary64) : Int :=
  if negative x.bits then -(magnitude x.bits : Int) else magnitude x.bits

/-- Units in the number one. -/
def one : Nat :=
  1 <<< 1074

/-- The whole part of a number: what is behind the point is cut off. -/
def whole (x : Binary64) : Int :=
  x.units.tdiv one

/-- What the whole part leaves of a number, in units and with the sign of the number. -/
def behindPoint (x : Binary64) : Int :=
  x.units.tmod one

/-- The order of the exact values. -/
def compare (x y : Binary64) : Ordering :=
  Ord.compare x.units y.units

/-- A ratio rounded to a whole number, halves to even. -/
def roundHalfEven (numerator denominator : Nat) : Nat :=
  let quotient := numerator / denominator
  match Ord.compare (2 * (numerator % denominator)) denominator with
  | .lt => quotient
  | .gt => quotient + 1
  | .eq => if quotient % 2 = 0 then quotient else quotient + 1

/-- The number nearest to a ratio, halves to even, or nothing when it is too large.
Dropping `shift` low bits leaves a significand of at most fifty-three bits, and the
encoding counts the significand from the encoding of `2 ^ shift` units on. -/
def ofRatio? (minus : Bool) (numerator denominator : Nat) : Option Binary64 :=
  let scaled := numerator * one
  let whole := scaled / denominator
  let size := if whole = 0 then 0 else whole.log2 + 1
  let shift := size - 53
  let encoding := shift <<< 52 + roundHalfEven scaled (denominator <<< shift)
  if encoding < 2047 <<< 52 then
    ofBits? (UInt64.ofNat (if minus then encoding + 1 <<< 63 else encoding))
  else none

/-- The number nearest to an integer. -/
def ofInt? (n : Int) : Option Binary64 :=
  ofRatio? (decide (n < 0)) n.natAbs 1

end Binary64

end Pushdown
