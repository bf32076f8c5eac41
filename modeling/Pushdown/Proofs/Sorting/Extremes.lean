import Mathlib.Data.List.Induction
import Pushdown.Pipeline.Terminal
import Pushdown.Proofs.Sorting.StableSort

/-! # Least elements

Under a total preorder a list has one first among its least elements. A fold finds it that keeps the
best element so far and gives it up only for a smaller one, and a stable sort puts it in front; so
both answer the same, however many elements tie. The first of the greatest elements is the first of
the least ones for the opposite comparison.
-/

namespace Pushdown

variable {α : Type}

/-- The first among the least elements of a list. -/
structure FirstOfLeast (compare : α → α → Ordering) (elements : List α) (element : α) : Prop where
  least (other : α) (member : other ∈ elements) : (compare element other).isLE = true
  first : ∃ before after, elements = before ++ element :: after ∧
    ∀ other ∈ before, compare element other = .lt

namespace FirstOfLeast

variable {compare : α → α → Ordering} [Std.TransCmp compare] {elements : List α} {element : α}

theorem singleton (element : α) : FirstOfLeast compare [element] element where
  least other member := by
    rw [List.mem_singleton.mp member]
    exact Std.ReflCmp.isLE_rfl
  first := ⟨[], [], rfl, nofun⟩

/-- What follows replaces the best element so far only if it is smaller. -/
theorem smaller (found : FirstOfLeast compare elements element) (next : α) :
    FirstOfLeast compare (elements ++ [next]) (Terminal.smaller compare element next) := by
  unfold Terminal.smaller
  by_cases exceeds : compare element next = .gt
  · rw [if_pos exceeds]
    have below (other : α) (member : other ∈ elements) : compare next other = .lt :=
      Std.TransCmp.lt_of_lt_of_isLE (Std.OrientedCmp.lt_of_gt exceeds) (found.least other member)
    refine ⟨fun other member => ?_, elements, [], rfl, below⟩
    rcases List.mem_append.mp member with earlier | last
    · rw [below other earlier]
      rfl
    · rw [List.mem_singleton.mp last]
      exact Std.ReflCmp.isLE_rfl
  · rw [if_neg exceeds]
    obtain ⟨before, after, parts, above⟩ := found.first
    refine ⟨fun other member => ?_, before, after ++ [next], ?_, above⟩
    · rcases List.mem_append.mp member with earlier | last
      · exact found.least other earlier
      · rw [List.mem_singleton.mp last]
        exact Ordering.isLE_iff_ne_gt.mpr exceeds
    · rw [parts, List.append_assoc, List.cons_append]

/-- The fold from the first element finds the first of the least ones. -/
theorem foldl_smaller (first : α) (rest : List α) :
    FirstOfLeast compare (first :: rest) (rest.foldl (Terminal.smaller compare) first) := by
  -- From the last element on: what the fold has found so far is compared with that element.
  induction rest using List.reverseRecOn with
  | nil => exact .singleton first
  | append_singleton rest next hyp =>
      rw [List.foldl_append, List.foldl_cons, List.foldl_nil, ← List.cons_append]
      exact hyp.smaller next

/-- The head of the sorted elements is the first of the least ones. -/
theorem of_head_sortedBy (head : (sortedBy compare elements).head? = some element) :
    FirstOfLeast compare elements element := by
  obtain ⟨rest, sorted⟩ := List.head?_eq_some_iff.mp head
  have ascending := pairwise_sortedBy compare elements
  have least (other : α) (member : other ∈ elements) : (compare element other).isLE = true := by
    have member' : other ∈ sortedBy compare elements :=
      (sortedBy_perm compare elements).mem_iff.mpr member
    rw [sorted] at ascending member'
    exact head_isLE ascending member'
  -- Sorting keeps the order of the elements on its level, so it is the first of them.
  have level : (sortedBy compare elements).filter (isLevel compare element) =
      elements.filter (isLevel compare element) := level_sortedBy element elements
  rw [sorted, List.filter_cons_of_pos (isLevel_self element)] at level
  obtain ⟨before, after, parts, apart, -, -⟩ := List.filter_eq_cons_iff.mp level.symm
  refine ⟨least, before, after, parts, fun other member => ?_⟩
  have below := least other (parts ▸ List.mem_append_left _ member)
  have unequal : compare element other ≠ .eq := fun same => apart other member (isLevel_iff.mpr same)
  cases order : compare element other with
  | lt => rfl
  | eq => exact absurd order unequal
  | gt =>
      rw [order] at below
      cases below

/-- Of the elements on its level it is the first. -/
theorem head?_level (found : FirstOfLeast compare elements element) :
    (elements.filter (isLevel compare element)).head? = some element := by
  obtain ⟨before, after, parts, above⟩ := found.first
  have apart : before.filter (isLevel compare element) = [] := by
    rw [List.filter_eq_nil_iff]
    intro other member level
    cases (above other member).symm.trans (isLevel_iff.mp level)
  rw [parts, List.filter_append, apart, List.nil_append,
    List.filter_cons_of_pos (isLevel_self element), List.head?_cons]

/-- There is only one. -/
theorem eq {other : α} (found : FirstOfLeast compare elements element)
    (found' : FirstOfLeast compare elements other) : element = other := by
  have member {element : α} (found : FirstOfLeast compare elements element) :
      element ∈ elements := by
    obtain ⟨before, after, parts, -⟩ := found.first
    exact parts ▸ List.mem_append_right _ List.mem_cons_self
  have level : isLevel compare element other = true := isLevel_iff.mpr <|
    Std.OrientedCmp.isLE_antisymm (found.least other (member found'))
      (found'.least element (member found))
  have heads := found.head?_level
  rw [isLevel_congr level, found'.head?_level] at heads
  exact (Option.some.inj heads).symm

end FirstOfLeast

/-! ## Folds and sorts -/

section Preorder

variable (compare : α → α → Ordering) [Std.TransCmp compare]

omit [Std.TransCmp compare] in
theorem head_sortedBy_eq_none_iff (elements : List α) :
    (sortedBy compare elements).head? = none ↔ elements = [] := by
  rw [List.head?_eq_none_iff, ← List.length_eq_zero_iff, (sortedBy_perm compare elements).length_eq,
    List.length_eq_zero_iff]

/-- Keeping the smaller element finds what a stable sort puts in front, -/
theorem reduce?_smaller (elements : List α) :
    Terminal.reduce? (Terminal.smaller compare) elements =
      (sortedBy compare elements).head? := by
  cases elements with
  | nil => rw [(head_sortedBy_eq_none_iff compare []).mpr rfl, Terminal.reduce?]
  | cons first rest =>
      cases head : (sortedBy compare (first :: rest)).head? with
      | none => cases (head_sortedBy_eq_none_iff compare _).mp head
      | some element =>
          exact congrArg some <|
            (FirstOfLeast.foldl_smaller first rest).eq (.of_head_sortedBy head)

/-- and keeping the larger one, what the opposite sort does. -/
theorem reduce?_larger (elements : List α) :
    Terminal.reduce? (Terminal.larger compare) elements =
      (sortedBy (fun left right => compare right left) elements).head? := by
  have opposite : Terminal.larger compare =
      Terminal.smaller fun left right => compare right left := by
    funext best next
    unfold Terminal.larger Terminal.smaller
    simp only [Std.OrientedCmp.gt_iff_lt]
  rw [opposite]
  exact reduce?_smaller _ elements

end Preorder

end Pushdown
