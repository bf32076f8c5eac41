import Pushdown.Proofs.Sorting.Arrangement

/-! # Tie groups

Sorting lists the elements level by level: each group of level elements in the order in which it
stands in the list, and the groups one after the other as the comparison has them. Every list falls
into such groups, and into the same ones, the other way round, for the opposite comparison.
-/

namespace Pushdown

/-- The elements of a list in the groups that a comparison finds level, in its order. -/
structure TieGroups {α : Type} (compare : α → α → Ordering) (elements : List α)
    (groups : List (List α)) : Prop where
  inhabited : ∀ group ∈ groups, group ≠ []
  /-- A group is all that is level with any of its elements, in the order of the list. -/
  level : ∀ group ∈ groups, ∀ element ∈ group, group = elements.filter (isLevel compare element)
  ascending : groups.Pairwise fun former latter =>
    ∀ first ∈ former, ∀ second ∈ latter, compare first second = .lt
  whole : ∀ element ∈ elements, ∃ group ∈ groups, element ∈ group

namespace TieGroups

variable {α : Type} {compare : α → α → Ordering} {elements : List α} {groups : List (List α)}

/-- The groups hold nothing but the elements. -/
theorem mem_of_mem (grouped : TieGroups compare elements groups) {group : List α} {element : α}
    (present : group ∈ groups) (member : element ∈ group) : element ∈ elements := by
  have level := grouped.level group present element member
  rw [level] at member
  exact List.mem_of_mem_filter member

variable [Std.TransCmp compare]

/-- Whatever is level with a given element stands in one group. -/
theorem filter_flatten (grouped : TieGroups compare elements groups) (element : α) :
    groups.flatten.filter (isLevel compare element) =
      elements.filter (isLevel compare element) := by
  by_cases tied : ∃ other ∈ elements, isLevel compare element other = true
  · obtain ⟨other, member, level⟩ := tied
    obtain ⟨group, present, found⟩ := grouped.whole other member
    have gathered : group = elements.filter (isLevel compare element) := by
      rw [isLevel_congr level]
      exact grouped.level group present other found
    obtain ⟨before, behind, rfl⟩ := List.append_of_mem present
    obtain ⟨-, later, earlier⟩ := List.pairwise_append.mp grouped.ascending
    have below : before.flatten.filter (isLevel compare element) = [] := by
      refine List.filter_eq_nil_iff.mpr fun third member' level' => ?_
      obtain ⟨former, present', found'⟩ := List.mem_flatten.mp member'
      exact not_isLevel_of_lt
        (earlier former present' group List.mem_cons_self third found' other found) level' level
    have above : behind.flatten.filter (isLevel compare element) = [] := by
      refine List.filter_eq_nil_iff.mpr fun third member' => ?_
      obtain ⟨latter, present', found'⟩ := List.mem_flatten.mp member'
      exact not_isLevel_of_lt
        (List.rel_of_pairwise_cons later present' other found third found') level
    rw [List.flatten_append, List.flatten_cons, List.filter_append, List.filter_append, below,
      above, List.nil_append, List.append_nil, gathered, List.filter_filter]
    simp only [Bool.and_self]
  · have untied : ∀ other ∈ elements, ¬isLevel compare element other = true :=
      fun other member level => tied ⟨other, member, level⟩
    rw [List.filter_eq_nil_iff.mpr untied, List.filter_eq_nil_iff]
    intro other member
    obtain ⟨group, present, found⟩ := List.mem_flatten.mp member
    exact untied other (grouped.mem_of_mem present found)

/-- Sorting lists the groups one after the other. -/
theorem sortedBy_eq (grouped : TieGroups compare elements groups) :
    sortedBy compare elements = groups.flatten := by
  refine eq_of_level (pairwise_sortedBy compare elements) (List.pairwise_flatten.mpr ⟨?_, ?_⟩)
    fun element => ?_
  · intro group present
    refine List.pairwise_of_forall_mem_list fun first member second member' => ?_
    rw [grouped.level group present first member] at member'
    rw [isLevel_iff.mp (List.mem_filter.mp member').2]
    rfl
  · refine grouped.ascending.imp fun before first member second member' => ?_
    rw [before first member second member']
    rfl
  · rw [level_sortedBy, grouped.filter_flatten]

/-- A comparison the other way round has the same groups, in the opposite order. -/
theorem reverse {compare' : α → α → Ordering} (grouped : TieGroups compare elements groups)
    (swapped : ∀ first ∈ elements, ∀ second ∈ elements,
      compare' first second = (compare first second).swap) :
    TieGroups compare' elements groups.reverse where
  inhabited group present := grouped.inhabited group (List.mem_reverse.mp present)
  level group present element member := by
    have present' := List.mem_reverse.mp present
    rw [grouped.level group present' element member]
    refine List.filter_congr fun other member' => ?_
    have turned := swapped element (grouped.mem_of_mem present' member) other member'
    rw [Bool.eq_iff_iff, isLevel_iff, isLevel_iff, turned, Ordering.swap_eq_eq]
  ascending := by
    refine List.pairwise_reverse.mpr (grouped.ascending.imp_of_mem ?_)
    intro former latter present present' before second member' first member
    rw [swapped second (grouped.mem_of_mem present' member') first
      (grouped.mem_of_mem present member), ← Std.OrientedCmp.eq_swap]
    exact before first member second member'
  whole element member := by
    obtain ⟨group, present, found⟩ := grouped.whole element member
    exact ⟨group, List.mem_reverse.mpr present, found⟩

/-- Below the elements of a list with one more level under it, that level is one more group. -/
theorem cons {first : α} {level : List α} (grouped : TieGroups compare elements groups)
    (present : first ∈ level) (tied : ∀ element ∈ level, isLevel compare first element = true)
    (below : ∀ element ∈ elements, compare first element = .lt) :
    TieGroups compare (level ++ elements) (level :: groups) where
  inhabited := List.forall_mem_cons.mpr ⟨List.ne_nil_of_mem present, grouped.inhabited⟩
  level := by
    refine List.forall_mem_cons.mpr ⟨fun element member => ?_, fun group held element member => ?_⟩
    · have above : ∀ other ∈ elements, ¬isLevel compare first other = true :=
        fun other member' => not_isLevel_of_lt (below other member') (isLevel_self first)
      rw [← isLevel_congr (tied element member), List.filter_append,
        List.filter_eq_self.mpr tied, List.filter_eq_nil_iff.mpr above, List.append_nil]
    · have under : ∀ other ∈ level, ¬isLevel compare element other = true := by
        intro other member' reached
        have low : isLevel compare other first = true :=
          isLevel_congr (tied other member') ▸ isLevel_self first
        have high : isLevel compare other element = true :=
          isLevel_congr reached ▸ isLevel_self element
        exact not_isLevel_of_lt (below element (grouped.mem_of_mem held member)) low high
      rw [List.filter_append, List.filter_eq_nil_iff.mpr under, List.nil_append]
      exact grouped.level group held element member
  ascending := by
    refine List.pairwise_cons.mpr ⟨fun latter held other member second member' => ?_,
      grouped.ascending⟩
    rw [← Std.TransCmp.congr_left (isLevel_iff.mp (tied other member))]
    exact below second (grouped.mem_of_mem held member')
  whole element member := by
    rcases List.mem_append.mp member with tied | apart
    · exact ⟨level, List.mem_cons_self, tied⟩
    · obtain ⟨group, held, found⟩ := grouped.whole element apart
      exact ⟨group, List.mem_cons_of_mem level held, found⟩

end TieGroups

section Preorder

variable {α : Type} {compare : α → α → Ordering} [Std.TransCmp compare]

/-- Ascending elements begin with all that is level with the first. -/
theorem exists_level_append {first : α} {rest : List α}
    (ascending : (first :: rest).Pairwise fun former latter =>
      (compare former latter).isLE = true) :
    ∃ level above, first :: rest = level ++ above ∧ first ∈ level ∧
      (∀ element ∈ level, isLevel compare first element = true) ∧
      ∀ element ∈ above, compare first element = .lt := by
  have parted : (first :: rest).Pairwise fun former latter =>
      isLevel compare first latter = true → isLevel compare first former = true := by
    refine ascending.imp_of_mem fun {former latter} member _ ascends level => ?_
    have back : (compare former first).isLE = true := by
      rw [Std.TransCmp.congr_right (isLevel_iff.mp level)]
      exact ascends
    exact isLevel_iff.mpr (Std.OrientedCmp.isLE_antisymm (head_isLE ascending member) back)
  obtain ⟨level, above, parts, tied, apart⟩ := exists_append_of_pairwise parted
  refine ⟨level, above, parts, ?_, tied, fun element member => ?_⟩
  · have present : first ∈ level ++ above := parts ▸ List.mem_cons_self
    rcases List.mem_append.mp present with held | missed
    · exact held
    · cases (apart first missed).symm.trans (isLevel_self first)
  · have reached := head_isLE ascending (parts ▸ List.mem_append_right level member)
    have untied := apart element member
    unfold isLevel at untied
    cases order : compare first element with
    | lt => rfl
    | eq => simp [order] at untied
    | gt => simp [order] at reached

theorem exists_tieGroups_of_ascending (elements : List α)
    (ascending : elements.Pairwise fun former latter => (compare former latter).isLE = true) :
    ∃ groups, TieGroups compare elements groups := by
  match elements with
  | [] => exact ⟨[], ⟨nofun, nofun, .nil, nofun⟩⟩
  | first :: rest =>
      obtain ⟨level, above, parts, present, tied, below⟩ := exists_level_append ascending
      have shorter : above.length < (first :: rest).length := by
        rw [parts, List.length_append]
        have := List.length_pos_of_mem present
        omega
      rw [parts] at ascending ⊢
      obtain ⟨groups, grouped⟩ :=
        exists_tieGroups_of_ascending above (List.pairwise_append.mp ascending).2.1
      exact ⟨level :: groups, grouped.cons present tied below⟩
  termination_by elements.length
  decreasing_by exact shorter

variable (compare) in
/-- The elements of every list fall into tie groups. -/
theorem exists_tieGroups (elements : List α) : ∃ groups, TieGroups compare elements groups := by
  obtain ⟨groups, grouped⟩ :=
    exists_tieGroups_of_ascending _ (pairwise_sortedBy compare elements)
  refine ⟨groups, grouped.inhabited, fun group present element member => ?_, grouped.ascending,
    fun element member => grouped.whole element ((sortedBy_perm _ _).mem_iff.mpr member)⟩
  rw [← level_sortedBy]
  exact grouped.level group present element member

end Preorder

end Pushdown
