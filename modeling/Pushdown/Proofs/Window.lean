import Pushdown.Proofs.Count
import Pushdown.Window

/-! # Windows and slices

On a list that can be counted, a window followed by a skip or a limit keeps what the window
and then the slice keep. An offset that is cut off at the largest count is past the end of
such a list.
-/

namespace Pushdown

namespace Window

/-! ## Windows that end the same -/

/-- Two skips are one, in the offset as in the limit. -/
theorem thenSkip_thenSkip (window : Window) (first second : Count) :
    (window.thenSkip first).thenSkip second = window.thenSkip (first.plus second) := by
  obtain ⟨offset, limit⟩ := window
  unfold thenSkip
  cases limit with
  | none => simp only [Option.map_none, Count.plus_assoc]
  | some limit => simp only [Option.map_some, Count.plus_assoc, Count.minus_minus]

/-- Two limits are the smaller one. -/
theorem thenLimit_thenLimit (window : Window) (first second : Count) :
    (window.thenLimit first).thenLimit second = window.thenLimit (min first second) := by
  obtain ⟨offset, limit⟩ := window
  unfold thenLimit
  cases limit with
  | none => rfl
  | some limit =>
      simp only [Option.map_some, Option.getD_some, Count.min_assoc]

/-! ## What windows keep -/

variable {α : Type}

theorem apply_of_not_isBounded {window : Window} (loose : window.isBounded = false)
    (rows : List α) : window.apply rows = rows := by
  obtain ⟨offset, limit⟩ := window
  simp only [isBounded, Bool.or_eq_false_iff, decide_eq_false_iff_not,
    Option.isSome_eq_false_iff, Option.isNone_iff_eq_none] at loose
  obtain ⟨start, rfl⟩ := loose
  have zero : offset.toNat = 0 := Nat.eq_zero_of_not_pos start
  rw [apply, Option.map_none, Option.getD_none, zero, List.drop_zero]

theorem length_apply_le (window : Window) (rows : List α) :
    (window.apply rows).length ≤ rows.length := by
  obtain ⟨offset, limit⟩ := window
  have shorter : (rows.drop offset.toNat).length ≤ rows.length := by
    rw [List.length_drop]
    exact Nat.sub_le _ _
  cases limit with
  | none => exact shorter
  | some limit => exact Nat.le_trans (List.length_take_le' _ _) shorter

/-- Beyond the largest count nothing is left to leave out. -/
theorem drop_plus {rows : List α} (bounded : rows.length ≤ Count.largest) (first second : Count) :
    rows.drop (first.plus second).toNat = (rows.drop first.toNat).drop second.toNat := by
  rw [List.drop_drop, Count.toNat_plus]
  by_cases fits : first.toNat + second.toNat ≤ Count.largest
  · rw [Nat.min_eq_left fits]
  · have beyond := Nat.le_of_not_le fits
    rw [Nat.min_eq_right beyond, List.drop_eq_nil_of_le bounded,
      List.drop_eq_nil_of_le (Nat.le_trans bounded beyond)]

theorem apply_thenSkip (window : Window) (amount : Count) {rows : List α}
    (bounded : rows.length ≤ Count.largest) :
    (window.thenSkip amount).apply rows = (window.apply rows).drop amount.toNat := by
  obtain ⟨offset, limit⟩ := window
  unfold thenSkip apply
  dsimp only
  rw [drop_plus bounded]
  cases limit with
  | none => rfl
  | some limit =>
      simp only [Option.map_some, Option.getD_some, Count.toNat_minus, List.drop_take]

theorem apply_thenLimit (window : Window) (amount : Count) (rows : List α) :
    (window.thenLimit amount).apply rows = (window.apply rows).take amount.toNat := by
  obtain ⟨offset, limit⟩ := window
  unfold thenLimit apply
  cases limit with
  | none => rfl
  | some limit =>
      simp only [Option.map_some, Option.getD_some, Count.toNat_min, List.take_take]
      rw [Nat.min_comm]

end Window

end Pushdown
