import Mathlib.Algebra.Order.Field.Rat
import Mathlib.Tactic.FieldSimp
import Mathlib.Tactic.NormNum
import Mathlib.Tactic.Ring
import Pushdown.Proofs.Value.Comparison

/-! # Binary numbers as rationals

An encoding has a sign, eleven bits of exponent and fifty-two bits of fraction, and these denote a
dyadic rational. The units of a number are that rational times the units in one, and no two numbers
have the same units. So numbers compare as the rationals do, and are equal when these are.
-/

namespace Pushdown

namespace Binary64

/-- The rational that an encoding denotes without its sign: a one and the fraction behind it, scaled
by the exponent less its bias. Subnormal numbers have the least exponent and no one in front. -/
def denotedSize (bits : UInt64) : ℚ :=
  if exponentField bits = 0 then (fraction bits : ℚ) / 2 ^ 52 * 2 ^ (-1022 : ℤ)
  else (1 + (fraction bits : ℚ) / 2 ^ 52) * 2 ^ ((exponentField bits : ℤ) - 1023)

/-- The rational that an encoding denotes. -/
def denoted (bits : UInt64) : ℚ :=
  if negative bits then -denotedSize bits else denotedSize bits

/-- The exact value of a number. -/
def exact (x : Binary64) : ℚ :=
  denoted x.bits

/-! ## Fields -/

theorem exponentField_eq (bits : UInt64) : exponentField bits = bits.toNat / 2 ^ 52 % 2048 := by
  rw [exponentField, Nat.shiftRight_eq_div_pow]

theorem fraction_eq (bits : UInt64) : fraction bits = bits.toNat % 2 ^ 52 := by
  rw [fraction, Nat.one_shiftLeft]

theorem fraction_lt (bits : UInt64) : fraction bits < 2 ^ 52 :=
  Nat.mod_lt _ (by decide)

theorem negative_iff {bits : UInt64} : negative bits = true ↔ 2 ^ 63 ≤ bits.toNat := by
  rw [negative, decide_eq_true_eq, Nat.one_shiftLeft]

/-- Sign and fields make up an encoding. -/
theorem bits_of_fields {bits bits' : UInt64} (signs : negative bits = negative bits')
    (exponents : exponentField bits = exponentField bits')
    (fractions : fraction bits = fraction bits') : bits = bits' := by
  have bound := bits.toNat_lt
  have bound' := bits'.toNat_lt
  rw [Bool.eq_iff_iff, negative_iff, negative_iff] at signs
  rw [exponentField_eq, exponentField_eq] at exponents
  rw [fraction_eq, fraction_eq] at fractions
  apply UInt64.toNat_inj.mp
  omega

/-! ## Units -/

theorem cast_shift (shift : ℕ) : ((1 <<< shift : ℕ) : ℚ) = 2 ^ shift := by
  rw [Nat.one_shiftLeft, Nat.cast_pow, Nat.cast_ofNat]

theorem zpow_mul_one {exponent : ℤ} {shift : ℕ} (shifted : exponent + 1074 = shift) :
    (2 : ℚ) ^ exponent * one = 2 ^ shift := by
  have scale : (one : ℚ) = 2 ^ (1074 : ℤ) := (cast_shift 1074).trans (zpow_natCast 2 1074).symm
  rw [scale, ← zpow_add₀ two_ne_zero, shifted, zpow_natCast]

/-- The magnitude of an encoding counts the units in what it denotes. -/
theorem magnitude_eq (bits : UInt64) : (magnitude bits : ℚ) = denotedSize bits * one := by
  unfold magnitude denotedSize
  split
  · rw [mul_assoc, zpow_mul_one (show (-1022 : ℤ) + 1074 = (52 : ℕ) by norm_num)]
    field_simp
  · rename_i normal
    obtain ⟨exponent, field⟩ := Nat.exists_eq_succ_of_ne_zero normal
    have shifted : (exponentField bits : ℤ) - 1023 + 1074 = (exponent + 52 : ℕ) := by
      omega
    rw [mul_assoc, zpow_mul_one shifted, gap, field, Nat.succ_sub_one, Nat.cast_mul, Nat.cast_add,
      cast_shift, cast_shift, pow_add]
    field_simp

/-- The units of a number are its exact value times the units in one. -/
theorem units_eq (x : Binary64) : (x.units : ℚ) = x.exact * one := by
  unfold units exact denoted
  split
  · rw [Int.cast_neg, Int.cast_natCast, magnitude_eq, neg_mul]
  · rw [Int.cast_natCast, magnitude_eq]

/-! ## One encoding for every number -/

/-- A larger exponent makes a larger magnitude, whatever the fractions are. -/
theorem magnitude_lt {bits bits' : UInt64} (below : exponentField bits < exponentField bits') :
    magnitude bits < magnitude bits' := by
  have small : magnitude bits < 2 ^ 52 * 2 ^ exponentField bits := by
    have bound := fraction_lt bits
    unfold magnitude
    split
    · rename_i subnormal
      rwa [subnormal, Nat.pow_zero, Nat.mul_one]
    · rename_i normal
      obtain ⟨exponent, field⟩ := Nat.exists_eq_succ_of_ne_zero normal
      have half : 1 <<< 52 + fraction bits < 2 ^ 52 * 2 := by
        omega
      rw [gap, field, Nat.succ_sub_one, Nat.one_shiftLeft exponent]
      calc (1 <<< 52 + fraction bits) * 2 ^ exponent
          < 2 ^ 52 * 2 * 2 ^ exponent :=
            Nat.mul_lt_mul_of_pos_right half (Nat.two_pow_pos exponent)
        _ = 2 ^ 52 * 2 ^ (exponent + 1) := by rw [Nat.mul_assoc, ← Nat.pow_succ']
  have large : 2 ^ 52 * 2 ^ exponentField bits ≤ magnitude bits' := by
    unfold magnitude gap
    rw [if_neg (Nat.ne_zero_of_lt below), Nat.one_shiftLeft, Nat.one_shiftLeft]
    exact Nat.mul_le_mul (Nat.le_add_right _ _)
      (Nat.pow_le_pow_right Nat.two_pos (Nat.le_sub_one_of_lt below))
  exact Nat.lt_of_lt_of_le small large

/-- Encodings of one magnitude have the same fields. -/
theorem fields_of_magnitude {bits bits' : UInt64} (same : magnitude bits = magnitude bits') :
    exponentField bits = exponentField bits' ∧ fraction bits = fraction bits' := by
  have fields : exponentField bits = exponentField bits' := by
    rcases Nat.lt_trichotomy (exponentField bits) (exponentField bits') with below | level | above
    · exact absurd same (Nat.ne_of_lt (magnitude_lt below))
    · exact level
    · exact absurd same (Nat.ne_of_gt (magnitude_lt above))
  refine ⟨fields, ?_⟩
  unfold magnitude gap at same
  rw [fields] at same
  split at same
  · exact same
  · rw [Nat.one_shiftLeft (exponentField bits' - 1)] at same
    exact Nat.add_left_cancel (Nat.mul_right_cancel (Nat.two_pow_pos _) same)

/-- Zero has no sign, so what has one is not zero. -/
theorem magnitude_ne_zero {x : Binary64} (signed : negative x.bits = true) :
    magnitude x.bits ≠ 0 := by
  intro nothing
  have bound := x.bits.toNat_lt
  have unsigned := x.unsignedZero
  obtain ⟨exponents, fractions⟩ :=
    fields_of_magnitude (nothing.trans (show 0 = magnitude 0 from rfl))
  rw [negative_iff] at signed
  rw [exponentField_eq, show exponentField 0 = 0 from rfl] at exponents
  rw [fraction_eq, show fraction 0 = 0 from rfl] at fractions
  rw [Nat.one_shiftLeft] at unsigned
  omega

/-- No two numbers have the same units. -/
theorem units_injective {x y : Binary64} (same : x.units = y.units) : x = y := by
  have encodings : x.bits = y.bits := by
    unfold units at same
    cases signX : negative x.bits <;> cases signY : negative y.bits <;>
      simp only [signX, signY, if_true, if_false, Bool.false_eq_true] at same
    · obtain ⟨exponents, fractions⟩ := fields_of_magnitude (Int.ofNat_inj.mp same)
      exact bits_of_fields (signX.trans signY.symm) exponents fractions
    · have := magnitude_ne_zero signY
      omega
    · have := magnitude_ne_zero signX
      omega
    · obtain ⟨exponents, fractions⟩ :=
        fields_of_magnitude (Int.ofNat_inj.mp (Int.neg_inj.mp same))
      exact bits_of_fields (signX.trans signY.symm) exponents fractions
  obtain ⟨bits, finite, unsignedZero⟩ := x
  obtain ⟨bits', finite', unsignedZero'⟩ := y
  cases encodings
  rfl

/-! ## Comparison -/

/-- Whole numbers of units compare as the rationals that they count. -/
theorem compare_of_units {m n : ℤ} {first second : ℚ} (counts : (m : ℚ) = first * one)
    (counts' : (n : ℚ) = second * one) : Ord.compare m n = Ord.compare first second := by
  have positive : (0 : ℚ) < one := by exact_mod_cast one_pos
  have scaled {lesser greater : ℤ} {p q : ℚ} (counts : (lesser : ℚ) = p * one)
      (counts' : (greater : ℚ) = q * one) (below : p < q) : lesser < greater := by
    rw [← Int.cast_lt (R := ℚ), counts, counts']
    exact mul_lt_mul_of_pos_right below positive
  rcases lt_trichotomy first second with below | level | above
  · rw [compare_lt_iff_lt.mpr below, compare_lt_iff_lt.mpr (scaled counts counts' below)]
  · have same : m = n := by
      rw [← Int.cast_inj (α := ℚ), counts, counts', level]
    rw [compare_eq_iff_eq.mpr level, compare_eq_iff_eq.mpr same]
  · rw [compare_gt_iff_gt.mpr above, compare_gt_iff_gt.mpr (scaled counts' counts above)]

theorem compare_eq_exact (x y : Binary64) : x.compare y = Ord.compare x.exact y.exact :=
  compare_of_units x.units_eq y.units_eq

theorem exact_injective {x y : Binary64} (same : x.exact = y.exact) : x = y := by
  apply units_injective
  rw [← Int.cast_inj (α := ℚ), units_eq, units_eq, same]

theorem denoted_eq_zero {bits : UInt64} (least : exponentField bits = 0)
    (nothing : fraction bits = 0) : denoted bits = 0 := by
  have size : denotedSize bits = 0 := by
    rw [denotedSize, if_pos least, nothing, Nat.cast_zero, zero_div, zero_mul]
  rw [denoted, size, neg_zero, ite_self]

/-- Every finite encoding is read as the number that it denotes; the negative zero denotes zero. -/
theorem exact_of_ofBits? {bits : UInt64} (finite : exponentField bits ≠ 2047) :
    ∃ x, ofBits? bits = some x ∧ x.exact = denoted bits := by
  unfold ofBits?
  rw [dif_pos finite]
  split
  · exact ⟨_, rfl, rfl⟩
  · rename_i signedZero
    rw [Decidable.not_not, Nat.one_shiftLeft] at signedZero
    have least : exponentField bits = 0 := by
      rw [exponentField_eq]
      omega
    have nothing : fraction bits = 0 := by
      rw [fraction_eq]
      omega
    exact ⟨zero, rfl, (denoted_eq_zero rfl rfl).trans (denoted_eq_zero least nothing).symm⟩

end Binary64

namespace Value

/-- The exact value of the number that a value holds. -/
def denoted? : Value → Option ℚ
  | .int value => some value.toInt
  | .uint value => some value.toNat
  | .float value => some value.exact
  | _ => none

theorem number_of_exact {value : Value} {exact : ℚ} (holds : value.denoted? = some exact) :
    ∃ number, value.number? = some number ∧ (number.units : ℚ) = exact * Binary64.one := by
  cases value with
  | int value =>
      cases holds
      refine ⟨_, rfl, ?_⟩
      rw [Number.ofInt64, Number.units, Int.cast_mul, Int.cast_natCast]
  | uint value =>
      cases holds
      refine ⟨_, rfl, ?_⟩
      rw [Number.ofUInt64, Number.units, Int.cast_mul, Int.cast_natCast, Int.cast_natCast]
  | float value =>
      cases holds
      exact ⟨_, rfl, value.units_eq⟩
  | _ => cases holds

/-- **Numbers compare by their exact values.** Whatever the forms of two numbers are, they compare
as the rationals that they denote, so they are equal exactly when they denote the same. Binary
numbers among themselves are ordered as their rationals are, no two of them denote the same, and
every finite encoding is read as what it denotes. -/
theorem numeric_comparison_exact {left right : Value} {first second : ℚ}
    (holdsFirst : left.denoted? = some first) (holdsSecond : right.denoted? = some second) :
    left.compare? right = some (Ord.compare first second) ∧
      (left.compare? right = some .eq ↔ first = second) ∧
      (∀ x y : Binary64, x.compare y = Ord.compare x.exact y.exact ∧ (x = y ↔ x.exact = y.exact)) ∧
      ∀ bits, Binary64.exponentField bits ≠ 2047 →
        ∃ x, Binary64.ofBits? bits = some x ∧ x.exact = Binary64.denoted bits := by
  obtain ⟨number, found, counts⟩ := number_of_exact holdsFirst
  obtain ⟨number', found', counts'⟩ := number_of_exact holdsSecond
  have compared : left.compare? right = some (Ord.compare first second) := by
    rw [compare?_of_number found found', Number.compare_eq_units,
      Binary64.compare_of_units counts counts']
  refine ⟨compared, ?_, fun x y => ?_, fun bits => Binary64.exact_of_ofBits?⟩
  · rw [compared, Option.some.injEq]
    exact compare_eq_iff_eq
  · exact ⟨x.compare_eq_exact y, congrArg Binary64.exact, Binary64.exact_injective⟩

/-- The largest unsigned number, which no binary number is, and the binary number next to it. -/
theorem numeric_comparison_exact_at_two_pow_64 :
    let left : Value := .uint 18446744073709551615
    let right : Value := .float ⟨0x43f0000000000000, by decide, by decide⟩
    left.denoted? = some 18446744073709551615 ∧ right.denoted? = some 18446744073709551616 ∧
      left.compare? right = some .lt := by
  intro left right
  have first : left.denoted? = some 18446744073709551615 := rfl
  have second : right.denoted? = some 18446744073709551616 := by
    have field : Binary64.exponentField 0x43f0000000000000 = 1087 := rfl
    have nothing : Binary64.fraction 0x43f0000000000000 = 0 := rfl
    have unsigned : Binary64.negative 0x43f0000000000000 = false := rfl
    simp only [right, denoted?, Binary64.exact, Binary64.denoted, Binary64.denotedSize, field,
      nothing, unsigned]
    norm_num
  refine ⟨first, second, ?_⟩
  rw [(numeric_comparison_exact first second).1]
  exact congrArg some (compare_lt_iff_lt.mpr (by norm_num))

end Value

end Pushdown
