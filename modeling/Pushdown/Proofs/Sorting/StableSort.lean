import Mathlib.Data.List.Basic
import Pushdown.SortOrder

/-! # Stable sorting

Under a total preorder, sorting puts the first element of a list behind the elements that it
exceeds and before all others, those level with it included. What else is said about
stability follows from this equation by induction on the list.
-/

namespace Pushdown

variable {α β : Type}

theorem sortedBy_perm (compare : α → α → Ordering) (elements : List α) :
    (sortedBy compare elements).Perm elements :=
  List.mergeSort_perm elements _

/-- Ascending elements stay where they are, -/
theorem sortedBy_of_ascending {compare : α → α → Ordering} {elements : List α}
    (ascending : elements.Pairwise fun first second => (compare first second).isLE = true) :
    sortedBy compare elements = elements :=
  List.mergeSort_of_pairwise ascending

/-- and so do elements that none exceeds. -/
theorem sortedBy_of_level {compare : α → α → Ordering} {elements : List α}
    (level : ∀ first ∈ elements, ∀ second ∈ elements, (compare first second).isLE = true) :
    sortedBy compare elements = elements :=
  sortedBy_of_ascending (List.pairwise_of_forall_mem_list level)

/-- Sorting commutes with a map that keeps the order. -/
theorem map_sortedBy {compare : α → α → Ordering} {compare' : β → β → Ordering} (image : α → β)
    (kept : ∀ first second, compare first second = compare' (image first) (image second))
    (elements : List α) :
    (sortedBy compare elements).map image = sortedBy compare' (elements.map image) := by
  apply List.map_mergeSort
  intro first _ second _
  rw [kept]

/-- Whether neither of two elements exceeds the other. -/
def isLevel (compare : α → α → Ordering) (element other : α) : Bool :=
  compare element other == .eq

theorem isLevel_iff {compare : α → α → Ordering} {element other : α} :
    isLevel compare element other = true ↔ compare element other = .eq :=
  beq_iff_eq

section Preorder

variable (compare : α → α → Ordering) [Std.TransCmp compare]

theorem isLE_transitive (first second third : α) (ascends : (compare first second).isLE = true)
    (ascends' : (compare second third).isLE = true) : (compare first third).isLE = true :=
  Std.TransCmp.isLE_trans ascends ascends'

theorem isLE_total (first second : α) :
    ((compare first second).isLE || (compare second first).isLE) = true := by
  have exchanged : compare second first = (compare first second).swap :=
    Std.OrientedCmp.eq_swap
  rw [exchanged]
  cases compare first second <;> rfl

theorem pairwise_sortedBy (elements : List α) :
    (sortedBy compare elements).Pairwise fun first second =>
      (compare first second).isLE = true :=
  List.pairwise_mergeSort (isLE_transitive compare) (isLE_total compare) elements

/-- Where the first element goes in: the sorted others fall apart into those that it exceeds
and those that it does not. -/
theorem sortedBy_insertion (element : α) (rest : List α) :
    ∃ below above, sortedBy compare (element :: rest) = below ++ element :: above ∧
      sortedBy compare rest = below ++ above ∧
      below = (sortedBy compare rest).filter (fun other => !(compare element other).isLE) ∧
      above = (sortedBy compare rest).filter (fun other => (compare element other).isLE) := by
  obtain ⟨below, above, whole, others, exceeded⟩ :=
    List.mergeSort_cons (isLE_transitive compare) (isLE_total compare) element rest
  have ascending : (below ++ element :: above).Pairwise fun first second =>
      (compare first second).isLE = true := by
    rw [← whole]
    exact pairwise_sortedBy compare (element :: rest)
  have reached : ∀ other ∈ above, (compare element other).isLE = true := fun other member =>
    List.rel_of_pairwise_cons (List.pairwise_append.mp ascending).2.1 member
  have passed : ∀ other ∈ below, ¬(compare element other).isLE = true := by
    intro other member
    simpa only [Bool.not_eq_true', Bool.not_eq_true] using exceeded other member
  have unreached : ∀ other ∈ above, ¬(!(compare element other).isLE) = true := by
    intro other member
    simp only [reached other member, Bool.not_true, Bool.false_eq_true, not_false_eq_true]
  refine ⟨below, above, whole, others, ?_, ?_⟩
  · rw [sortedBy, others, List.filter_append, List.filter_eq_self.mpr exceeded,
      List.filter_eq_nil_iff.mpr unreached, List.append_nil]
  · rw [sortedBy, others, List.filter_append, List.filter_eq_self.mpr reached,
      List.filter_eq_nil_iff.mpr passed, List.nil_append]

/-- The first element goes behind the sorted others that it exceeds, and before the rest. -/
theorem sortedBy_cons (element : α) (rest : List α) :
    sortedBy compare (element :: rest) =
      (sortedBy compare rest).filter (fun other => !(compare element other).isLE) ++
        element :: (sortedBy compare rest).filter (fun other => (compare element other).isLE) := by
  obtain ⟨below, above, whole, -, rfl, rfl⟩ := sortedBy_insertion compare element rest
  exact whole

/-- Sorting puts in one element after the other, from the last on. -/
theorem sortedBy_eq_foldr (elements : List α) :
    sortedBy compare elements = elements.foldr (fun element sorted =>
      sorted.filter (fun other => !(compare element other).isLE) ++
        element :: sorted.filter (fun other => (compare element other).isLE)) [] := by
  induction elements with
  | nil => simp [sortedBy]
  | cons element rest hyp => rw [sortedBy_cons, hyp, List.foldr_cons]

/-- Sorted elements are those that a given one exceeds, then the others. -/
theorem sortedBy_split (element : α) (elements : List α) :
    sortedBy compare elements =
      (sortedBy compare elements).filter (fun other => !(compare element other).isLE) ++
        (sortedBy compare elements).filter (fun other => (compare element other).isLE) := by
  obtain ⟨below, above, -, others, rfl, rfl⟩ :=
    sortedBy_insertion compare element elements
  exact others

/-- Leaving out elements commutes with sorting. -/
theorem filter_sortedBy (test : α → Bool) (elements : List α) :
    (sortedBy compare elements).filter test = sortedBy compare (elements.filter test) := by
  induction elements with
  | nil => simp [sortedBy]
  | cons element rest hyp =>
      by_cases kept : test element = true
      · rw [List.filter_cons_of_pos kept, sortedBy_cons, sortedBy_cons, ← hyp, List.filter_append,
          List.filter_cons_of_pos kept, List.filter_comm test, List.filter_comm test]
      · rw [List.filter_cons_of_neg kept, sortedBy_cons, ← hyp, List.filter_append,
          List.filter_cons_of_neg kept, ← List.filter_append, ← sortedBy_split]

/-! ## Levels -/

variable {compare}

theorem isLevel_self (element : α) : isLevel compare element element = true :=
  isLevel_iff.mpr Std.ReflCmp.compare_self

/-- Level elements are level with the same ones. -/
theorem isLevel_congr {element other : α} (level : isLevel compare element other = true) :
    isLevel compare element = isLevel compare other := by
  funext third
  unfold isLevel
  rw [Std.TransCmp.congr_left (isLevel_iff.mp level)]

/-- Of two elements of which one exceeds the other, only one is level with a third. -/
theorem not_isLevel_of_lt {element lower upper : α} (strict : compare lower upper = .lt)
    (low : isLevel compare element lower = true) : ¬isLevel compare element upper = true := by
  intro high
  rw [← Std.TransCmp.congr_left (isLevel_iff.mp low), isLevel_iff.mp high] at strict
  cases strict

/-- Elements level with a given one keep their order. -/
theorem level_sortedBy (element : α) (elements : List α) :
    (sortedBy compare elements).filter (isLevel compare element) =
      elements.filter (isLevel compare element) := by
  rw [filter_sortedBy]
  apply sortedBy_of_level
  intro first member second member'
  have level := isLevel_iff.mp (List.mem_filter.mp member).2
  have level' := isLevel_iff.mp (List.mem_filter.mp member').2
  rw [← Std.TransCmp.congr_left level, level']
  rfl

/-- What is level with itself in one list is found in every list with the same levels. -/
theorem mem_of_level {element : α} {rest others : List α}
    (level : (element :: rest).filter (isLevel compare element) =
      others.filter (isLevel compare element)) : element ∈ others := by
  have held : element ∈ (element :: rest).filter (isLevel compare element) :=
    List.mem_filter.mpr ⟨List.mem_cons_self, isLevel_self element⟩
  rw [level] at held
  exact List.mem_of_mem_filter held

theorem head_isLE {least other : α} {rest : List α}
    (ascending : (least :: rest).Pairwise fun first second => (compare first second).isLE = true)
    (member : other ∈ least :: rest) : (compare least other).isLE = true := by
  rcases List.mem_cons.mp member with rfl | later
  · exact Std.ReflCmp.isLE_rfl
  · exact List.rel_of_pairwise_cons ascending later

/-- Two ascending lists with the same elements on every level, in the same order, are the same. -/
theorem eq_of_level {left right : List α}
    (ascending : left.Pairwise fun first second => (compare first second).isLE = true)
    (ascending' : right.Pairwise fun first second => (compare first second).isLE = true)
    (level : ∀ element, left.filter (isLevel compare element) =
      right.filter (isLevel compare element)) : left = right := by
  induction left generalizing right with
  | nil =>
      cases right with
      | nil => rfl
      | cons least rest => cases mem_of_level (level least).symm
  | cons least rest hyp =>
      cases right with
      | nil => cases mem_of_level (level least)
      | cons least' rest' =>
          have together : compare least least' = .eq :=
            Std.OrientedCmp.isLE_antisymm
              (head_isLE ascending (mem_of_level (level least').symm))
              (head_isLE ascending' (mem_of_level (level least)))
          have firsts := level least
          rw [List.filter_cons_of_pos (isLevel_self least),
            List.filter_cons_of_pos (isLevel_iff.mpr together), List.cons.injEq] at firsts
          obtain ⟨rfl, -⟩ := firsts
          congr 1
          refine hyp ascending.of_cons ascending'.of_cons fun element => ?_
          have levels := level element
          rw [List.filter_cons, List.filter_cons] at levels
          split at levels
          · exact List.tail_eq_of_cons_eq levels
          · exact levels

end Preorder

end Pushdown
