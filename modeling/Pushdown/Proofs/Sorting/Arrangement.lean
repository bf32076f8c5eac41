import Pushdown.Proofs.Sorting.FieldOrder
import Pushdown.Proofs.Sorting.StableSort

/-! # Rows in a sort order

What it means that rows stand in a sort order. No more than one list of rows meets it: it holds
the rows, each as often as before, it ascends, and rows that no key tells apart keep their order.
Rows without a value for the first key stand together at one end, which the direction of the key
has no part in.
-/

namespace Pushdown

variable {α ρ : Type} [Entity ρ]

/-- A list in which no element that passes a test follows one that does not. -/
theorem exists_append_of_pairwise {test : α → Bool} {elements : List α}
    (parted : elements.Pairwise fun first second => test second = true → test first = true) :
    ∃ passing failing, elements = passing ++ failing ∧ (∀ element ∈ passing, test element = true) ∧
      ∀ element ∈ failing, test element = false := by
  induction elements with
  | nil => exact ⟨[], [], rfl, nofun, nofun⟩
  | cons element rest hyp =>
      obtain ⟨earlier, later⟩ := List.pairwise_cons.mp parted
      by_cases passes : test element = true
      · obtain ⟨passing, failing, rfl, pass, fail⟩ := hyp later
        exact ⟨element :: passing, failing, rfl, List.forall_mem_cons.mpr ⟨passes, pass⟩, fail⟩
      · refine ⟨[], element :: rest, rfl, nofun, ?_⟩
        intro other member
        rcases List.mem_cons.mp member with rfl | behind
        · exact Bool.eq_false_iff.mpr passes
        · exact Bool.eq_false_iff.mpr fun reached => passes (earlier other behind reached)

/-- Whether a key finds no value in a row: the field is missing or null. -/
def SortKey.lacks (key : SortKey) (row : ρ) : Bool :=
  (Entity.field? row key.field).all Value.isNull

namespace SortKey

theorem lacks_eq (key : SortKey) (row : ρ) :
    key.lacks row = (Entity.value row key.field).isNull := by
  unfold lacks Entity.value
  cases Entity.field? row key.field <;> rfl

/-- A key never puts a row in front of one that it ranks lower by nulls. -/
theorem nullRank_le (key : SortKey) {first second : ρ}
    (ascends : (key.compare first second).isLE = true) :
    key.nullRank (Entity.value first key.field) ≤ key.nullRank (Entity.value second key.field) := by
  unfold compare at ascends
  rw [compareValues_eq] at ascends
  exact Nat.isLE_compare.mp (Ordering.isLE_left_of_isLE_then ascends)

theorem lacks_of_ascends_of_first {key : SortKey} (nullsFirst : key.nulls = .first)
    {first second : ρ} (ascends : (key.compare first second).isLE = true)
    (lacking : key.lacks second = true) : key.lacks first = true := by
  have ranked := key.nullRank_le ascends
  rw [lacks_eq] at lacking ⊢
  by_contra found
  simp [nullRank, nullsFirst, lacking, found] at ranked

theorem lacks_of_ascends_of_last {key : SortKey} (nullsLast : key.nulls = .last)
    {first second : ρ} (ascends : (key.compare first second).isLE = true)
    (lacking : key.lacks first = true) : key.lacks second = true := by
  have ranked := key.nullRank_le ascends
  rw [lacks_eq] at lacking ⊢
  by_contra found
  rw [Bool.not_eq_true] at found
  simp [nullRank, nullsLast, lacking, found] at ranked

end SortKey

namespace SortOrder

instance (order : SortOrder) : Std.TransCmp (order.compare (ρ := ρ)) :=
  inferInstanceAs (Std.TransCmp (SortKey.compareBy order.keys))

/-- The first key decides before the others. -/
theorem first_isLE {order : SortOrder} {first second : ρ}
    (ascends : (order.compare first second).isLE = true) :
    (order.first.compare first second).isLE = true := by
  have unfolded : ((order.first.compare first second).then
      (SortKey.compareBy order.rest first second)).isLE = true := ascends
  exact Ordering.isLE_left_of_isLE_then unfolded

/-- Rows, and the same rows in a sort order. -/
structure Arranged (order : SortOrder) (rows sorted : List ρ) : Prop where
  perm : sorted.Perm rows
  ascending : sorted.Pairwise fun first second => order.compare first second ≠ .gt
  /-- Rows that the order does not tell apart stand as they stood. -/
  ties (row : ρ) : sorted.filter (isLevel order.compare row) =
    rows.filter (isLevel order.compare row)
  /-- Rows without a value for the first key stand together, before all others -/
  nullsFirst (placed : order.first.nulls = .first) :
    ∃ lacking found, sorted = lacking ++ found ∧
      (∀ row ∈ lacking, order.first.lacks row = true) ∧
      ∀ row ∈ found, order.first.lacks row = false
  /-- or behind all others. -/
  nullsLast (placed : order.first.nulls = .last) :
    ∃ found lacking, sorted = found ++ lacking ∧
      (∀ row ∈ lacking, order.first.lacks row = true) ∧
      ∀ row ∈ found, order.first.lacks row = false

variable (order : SortOrder) (rows : List ρ)

/-- Sorting arranges. -/
theorem arranged_sortedBy : order.Arranged rows (sortedBy order.compare rows) := by
  have ascending := pairwise_sortedBy order.compare rows
  constructor
  case perm => exact sortedBy_perm order.compare rows
  case ascending => exact ascending.imp Ordering.isLE_iff_ne_gt.mp
  case ties => exact fun row => level_sortedBy row rows
  case nullsFirst =>
    intro placed
    apply exists_append_of_pairwise
    exact ascending.imp fun ascends => SortKey.lacks_of_ascends_of_first placed (first_isLE ascends)
  case nullsLast =>
    intro placed
    have parted : (sortedBy order.compare rows).Pairwise fun first second =>
        (!order.first.lacks second) = true → (!order.first.lacks first) = true := by
      refine ascending.imp fun {first second} ascends found => ?_
      have kept := SortKey.lacks_of_ascends_of_last placed (first_isLE ascends)
      cases lacking : order.first.lacks first with
      | false => rfl
      | true => rw [kept lacking] at found; exact found
    obtain ⟨found, lacking, whole, held, missing⟩ := exists_append_of_pairwise parted
    refine ⟨found, lacking, whole, fun row member => ?_, fun row member => ?_⟩
    · simpa using missing row member
    · simpa using held row member

variable {order rows}

/-- Rows can be arranged in one way only. -/
theorem Arranged.eq {sorted sorted' : List ρ} (arranged : order.Arranged rows sorted)
    (arranged' : order.Arranged rows sorted') : sorted = sorted' := by
  have level (row : ρ) : sorted.filter (isLevel order.compare row) =
      sorted'.filter (isLevel order.compare row) :=
    (arranged.ties row).trans (arranged'.ties row).symm
  refine eq_of_level ?_ ?_ level
  · exact arranged.ascending.imp Ordering.isLE_iff_ne_gt.mpr
  · exact arranged'.ascending.imp Ordering.isLE_iff_ne_gt.mpr

end SortOrder

end Pushdown
