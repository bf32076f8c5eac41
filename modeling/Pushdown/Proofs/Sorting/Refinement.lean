import Pushdown.Proofs.Sorting.Arrangement

/-! # Refined orders

An order that is refined by another decides by its own keys first. Since sorting is stable, rows
come to stand in the refined order when they are sorted by the refinement and then by the order
itself: what the later sort finds level it leaves as the earlier one has put it. And rows that
ascend in an order ascend in every order of its first keys, so that sorting by these moves none.
-/

namespace Pushdown

section Preorder

variable {α : Type} {major minor : α → α → Ordering}

/-- What two comparisons, one refined by the other, find level is what both find level. -/
theorem filter_isLevel_compareLex (element : α) (elements : List α) :
    elements.filter (isLevel (compareLex major minor) element) =
      (elements.filter (isLevel minor element)).filter (isLevel major element) := by
  rw [List.filter_filter]
  congr 1
  funext other
  unfold isLevel compareLex
  cases major element other <;> cases minor element other <;> rfl

/-- What ascends in one comparison, and within each of its levels in another, ascends in the
first refined by the second. -/
theorem ascending_compareLex [Std.TransCmp major] {elements : List α}
    (ascending : elements.Pairwise fun first second => (major first second).isLE = true)
    (within : ∀ element, (elements.filter (isLevel major element)).Pairwise fun first second =>
      (minor first second).isLE = true) :
    elements.Pairwise fun first second => (compareLex major minor first second).isLE = true := by
  induction elements with
  | nil => exact .nil
  | cons element rest hyp =>
      obtain ⟨before, others⟩ := List.pairwise_cons.mp ascending
      refine List.pairwise_cons.mpr ⟨fun other present => ?_, hyp others fun level => ?_⟩
      · cases order : major element other with
        | lt => simp only [compareLex, order, Ordering.then, Ordering.isLE]
        | gt => exact absurd (before other present) (by simp [order])
        | eq =>
            have tied := within element
            rw [List.filter_cons_of_pos (isLevel_self element)] at tied
            have level : other ∈ rest.filter (isLevel major element) :=
              List.mem_filter.mpr ⟨present, isLevel_iff.mpr order⟩
            simpa only [compareLex, order, Ordering.then] using List.rel_of_pairwise_cons tied level
      · exact (within level).sublist ((List.sublist_cons_self element rest).filter _)

/-- Sorting by a refined comparison is sorting by the refinement, then by what is refined. -/
theorem sortedBy_compareLex [Std.TransCmp major] [Std.TransCmp minor] (elements : List α) :
    sortedBy (compareLex major minor) elements = sortedBy major (sortedBy minor elements) := by
  refine eq_of_level (pairwise_sortedBy (compareLex major minor) elements) ?_ fun element => ?_
  · refine ascending_compareLex (pairwise_sortedBy major _) fun element => ?_
    rw [level_sortedBy]
    exact (pairwise_sortedBy minor elements).sublist List.filter_sublist
  · let tied := isLevel major element
    let tied' := isLevel minor element
    calc (sortedBy (compareLex major minor) elements).filter
          (isLevel (compareLex major minor) element)
        = (elements.filter tied').filter tied := by
          rw [level_sortedBy, filter_isLevel_compareLex]
      _ = ((sortedBy minor elements).filter tied').filter tied := by rw [level_sortedBy]
      _ = ((sortedBy minor elements).filter tied).filter tied' := List.filter_comm ..
      _ = ((sortedBy major (sortedBy minor elements)).filter tied).filter tied' := by
          rw [level_sortedBy]
      _ = ((sortedBy major (sortedBy minor elements)).filter tied').filter tied :=
          List.filter_comm ..
      _ = (sortedBy major (sortedBy minor elements)).filter
            (isLevel (compareLex major minor) element) :=
          (filter_isLevel_compareLex element _).symm

end Preorder

/-! ## Keys -/

variable {ρ : Type} [Entity ρ]

theorem SortKey.compareBy_append (keys keys' : List SortKey) :
    compareBy (ρ := ρ) (keys ++ keys') = compareLex (compareBy keys) (compareBy keys') := by
  induction keys with
  | nil => rfl
  | cons key rest hyp =>
      rw [List.cons_append, compareBy_cons, compareBy_cons, hyp]
      funext left right
      exact (Ordering.then_assoc ..).symm

namespace SortOrder

theorem compare_thenBy (major minor : SortOrder) :
    (major.thenBy minor).compare (ρ := ρ) = compareLex major.compare minor.compare :=
  SortKey.compareBy_append major.keys minor.keys

/-- The keys of a refinement may be added one by one. -/
theorem foldl_thenKey (order : SortOrder) (keys : List SortKey) :
    keys.foldl thenKey order = { order with rest := order.rest ++ keys } := by
  induction keys generalizing order with
  | nil => rw [List.foldl_nil, List.append_nil]
  | cons key rest hyp =>
      rw [List.foldl_cons, hyp, thenKey, List.append_assoc, List.singleton_append]

theorem sortedBy_thenBy (major minor : SortOrder) (rows : List ρ) :
    sortedBy (major.thenBy minor).compare rows =
      sortedBy major.compare (sortedBy minor.compare rows) := by
  rw [compare_thenBy, sortedBy_compareLex]

/-- Rows that ascend in an order ascend in its first keys. -/
theorem isLE_of_prefix {order leading : SortOrder} (first : leading.keys <+: order.keys)
    {left right : ρ} (ascends : (order.compare left right).isLE = true) :
    (leading.compare left right).isLE = true := by
  obtain ⟨others, whole⟩ := first
  unfold compare at ascends
  rw [← whole, SortKey.compareBy_append] at ascends
  exact Ordering.isLE_left_of_isLE_then ascends

theorem sortedBy_of_prefix {order leading : SortOrder} (first : leading.keys <+: order.keys)
    {rows : List ρ} (ascending : rows.Pairwise fun left right => order.compare left right ≠ .gt) :
    sortedBy leading.compare rows = rows :=
  sortedBy_of_ascending (ascending.imp fun ascends =>
    isLE_of_prefix first (Ordering.isLE_iff_ne_gt.mpr ascends))

end SortOrder

end Pushdown
