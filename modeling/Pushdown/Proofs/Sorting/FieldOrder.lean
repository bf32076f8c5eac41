import Pushdown.Proofs.Value.SortingOrder
import Pushdown.SortOrder

/-! # Sorting by fields

A sort key orders nulls against other values first and only then the values themselves, in
its direction. So every key is a total preorder on rows, and so are several keys, taken one
after the other.
-/

namespace Pushdown

namespace SortKey

/-- Zero for what a key puts first of nulls and other values, one for what it puts last. -/
def nullRank (key : SortKey) (value : Value) : Nat :=
  if value.isNull = decide (key.nulls = .first) then 0 else 1

/-- The order of two values in the direction of a key. -/
def directed (key : SortKey) (left right : Value) : Ordering :=
  if key.direction = .ascending then left.sortCompare right else (left.sortCompare right).swap

/-- A key places nulls, then compares in its direction. -/
theorem compareValues_eq (key : SortKey) :
    key.compareValues = compareLex (compareOn key.nullRank) key.directed := by
  funext left right
  obtain ⟨field, direction, nulls⟩ := key
  unfold compareValues compareLex compareOn nullRank directed
  cases direction <;> cases nulls <;> cases left <;> cases right <;> rfl

instance (key : SortKey) : Std.TransCmp key.directed := by
  obtain ⟨field, direction, nulls⟩ := key
  cases direction with
  | ascending => exact inferInstanceAs (Std.TransCmp Value.sortCompare)
  | descending =>
      have exchanged : directed ⟨field, .descending, nulls⟩ =
          fun left right => right.sortCompare left := by
        funext left right
        exact (Value.sortCompare_swap left right).symm
      rw [exchanged]
      infer_instance

instance (key : SortKey) : Std.TransCmp key.compareValues := by
  rw [compareValues_eq]
  infer_instance

variable {ρ : Type} [Entity ρ]

instance (key : SortKey) : Std.TransCmp (key.compare (ρ := ρ)) where
  eq_swap := by
    intro left right
    exact @Std.OrientedCmp.eq_swap _ key.compareValues _ _ _
  isLE_trans := by
    intro left middle right
    exact @Std.TransCmp.isLE_trans _ key.compareValues _ _ _ _

/-- The first key decides before the others. -/
theorem compareBy_cons (key : SortKey) (keys : List SortKey) :
    compareBy (ρ := ρ) (key :: keys) = compareLex key.compare (compareBy keys) := rfl

instance (keys : List SortKey) : Std.TransCmp (compareBy (ρ := ρ) keys) := by
  induction keys with
  | nil => exact { eq_swap := rfl, isLE_trans := fun _ _ => rfl }
  | cons key keys hyp =>
      rw [compareBy_cons]
      infer_instance

end SortKey

end Pushdown
