import Mathlib.Algebra.GroupWithZero.Nat
import Pushdown.Count

/-! # Counts as numbers

A count is a number up to the largest one, and its operations are those of numbers, held
within these bounds.
-/

namespace Pushdown

namespace Count

theorem toNat_le_largest (count : Count) : count.toNat ≤ largest := by
  have below := count.toNat_lt
  unfold largest UInt64.size
  omega

@[simp]
theorem toNat_ofNat (number : Nat) : (ofNat number).toNat = min number largest := by
  have bounded : min number largest ≤ largest := Nat.min_le_right number largest
  rw [ofNat, UInt64.toNat_ofNat']
  apply Nat.mod_eq_of_lt
  exact Nat.lt_of_le_of_lt bounded (by decide)

@[simp]
theorem toNat_plus (left right : Count) :
    (left.plus right).toNat = min (left.toNat + right.toNat) largest :=
  toNat_ofNat _

@[simp]
theorem toNat_minus (left right : Count) : (left.minus right).toNat = left.toNat - right.toNat := by
  have bounded := left.toNat_le_largest
  rw [minus, toNat_ofNat]
  omega

@[simp]
theorem toNat_min (left right : Count) : (min left right).toNat = min left.toNat right.toNat := by
  by_cases below : left ≤ right
  · have below' : left.toNat ≤ right.toNat := below
    rw [show min left right = left from if_pos below, Nat.min_eq_left below']
  · have above : right.toNat ≤ left.toNat := Nat.le_of_not_le below
    rw [show min left right = right from if_neg below, Nat.min_eq_right above]

/-- Cutting off a sum at the largest count does not tell when it has been cut off before. -/
theorem plus_assoc (first second third : Count) :
    (first.plus second).plus third = first.plus (second.plus third) := by
  apply UInt64.toNat_inj.mp
  simp only [toNat_plus]
  omega

/-- Two differences are one, also where their sum is cut off: no count is above the largest. -/
theorem minus_minus (count first second : Count) :
    (count.minus first).minus second = count.minus (first.plus second) := by
  have bounded := count.toNat_le_largest
  apply UInt64.toNat_inj.mp
  simp only [toNat_minus, toNat_plus]
  omega

theorem min_assoc (first second third : Count) :
    min (min first second) third = min first (min second third) := by
  apply UInt64.toNat_inj.mp
  simp only [toNat_min]
  exact Nat.min_assoc _ _ _

/-- A sum that is cut off on the way is cut off at the end: counts only add up. -/
theorem toNat_foldl_plus (counts : List Count) (start : Count) :
    (counts.foldl plus start).toNat =
      min (start.toNat + (counts.map UInt64.toNat).sum) largest := by
  induction counts generalizing start with
  | nil =>
      have bounded := start.toNat_le_largest
      rw [List.foldl_nil, List.map_nil, List.sum_nil]
      omega
  | cons count rest hyp =>
      rw [List.foldl_cons, hyp, toNat_plus, List.map_cons, List.sum_cons]
      omega

/-- The sum of counts is their sum as numbers, or the largest count. -/
theorem sum_eq (counts : List Count) : sum counts = ofNat (counts.map UInt64.toNat).sum := by
  apply UInt64.toNat_inj.mp
  rw [sum, toNat_foldl_plus, toNat_ofNat, UInt64.toNat_zero, Nat.zero_add]

/-- The sum of a single count is that count. -/
theorem sum_singleton (count : Count) : sum [count] = count := by
  have bounded := count.toNat_le_largest
  apply UInt64.toNat_inj.mp
  rw [sum_eq, toNat_ofNat, List.map_singleton, List.sum_singleton]
  omega

end Count

end Pushdown
