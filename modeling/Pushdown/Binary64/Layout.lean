import Pushdown.Binary64.Shortest

/-! # Layouts of decimals

Which exponents are written positionally, and whether a whole number keeps a point,
are decisions of the text that a number appears in.
-/

namespace Pushdown

/-- How a decimal is laid out. -/
structure Layout where
  /-- Whether a number whose leading digit has this exponent is written positionally. -/
  positional : Int → Bool
  /-- Whether a whole number in positional form ends in a point and a zero. -/
  pointZero : Bool

namespace Layout

/-- Always positional; whole numbers have no point. -/
def plain : Layout where
  positional := fun _ => true
  pointZero := false

/-- Positional from one ten-thousandth to below ten to the sixteenth, with a point in
every positional number; otherwise with an exponent. -/
def tagged : Layout where
  positional := fun leading => decide (-4 ≤ leading ∧ leading < 16)
  pointZero := true

/-- A run of zeros. -/
def zeros (count : Nat) : List Char :=
  List.replicate count '0'

/-- The characters of a decimal without a sign. -/
def write (layout : Layout) (decimal : Decimal) : List Char :=
  let digits := Nat.toDigits 10 decimal.digits
  let leading : Int := digits.length - 1 + decimal.exponent
  if layout.positional leading then
    if 0 ≤ decimal.exponent then
      digits ++ zeros decimal.exponent.toNat ++ (if layout.pointZero then ['.', '0'] else [])
    else if 0 ≤ leading then
      digits.take (leading.toNat + 1) ++ '.' :: digits.drop (leading.toNat + 1)
    else '0' :: '.' :: zeros (-leading - 1).toNat ++ digits
  else
    digits.take 1 ++ (if digits.length = 1 then [] else '.' :: digits.drop 1) ++
      'e' :: (toString leading).toList

/-- The text of a number: a sign when it is negative, then its shortest decimal. -/
def text (layout : Layout) (x : Binary64) : String :=
  String.ofList
    ((if Binary64.negative x.bits then ['-'] else []) ++ layout.write x.shortest)

end Layout

end Pushdown
