import Pushdown.Proofs.Flow.Lists
import Pushdown.Proofs.Plan.Running
import Pushdown.Proofs.Sorting.Arrangement

/-! # Pushed and in-process sorts

A pipeline that only sorts by fields hands its order to the query where a rule takes sorts, and
otherwise keeps it. The table sorts its rows by the very comparison that the stage would have used,
so both hand out the rows as the order arranges them, and there is one such arrangement.
-/

namespace Pushdown

namespace Simplification

variable {Note α : Type} {pipeline : Pipeline Note α} {order : SortOrder}

/-- There are no slices to join among sorts. -/
theorem joinSlices_of_sorts (orders : List SortOrder) :
    joinSlices (orders.map .sortedByField : List (Stage Note α)) = orders.map .sortedByField := by
  induction orders with
  | nil => rfl
  | cons order rest hyp =>
      rw [List.map_cons, joinSlices_cons, hyp]
      rfl

/-- Sorts are simplified to themselves. -/
theorem stages_applyAll_of_sorts (orders : List SortOrder)
    (sorts : pipeline.stages = orders.map .sortedByField) (chosen : List Simplification) :
    (applyAll chosen pipeline).stages = orders.map .sortedByField := by
  have kept (test : Stage Note α → Bool) (sort : ∀ order, test (.sortedByField order) = true) :
      (orders.map Stage.sortedByField).filter test = orders.map .sortedByField :=
    List.filter_eq_self.mpr (List.forall_mem_map.mpr fun order _ => sort order)
  induction chosen generalizing pipeline with
  | nil => exact sorts
  | cons simplification rest hyp =>
      apply hyp
      cases simplification with
      | removePeek => exact (congrArg _ sorts).trans (kept _ fun _ => rfl)
      | foldUnordered => exact (congrArg _ sorts).trans (kept _ fun _ => rfl)
      | collapseSlices => exact (congrArg _ sorts).trans (joinSlices_of_sorts orders)

/-- A sort that stands alone is simplified to itself. -/
theorem stages_applyAll_of_sort (alone : pipeline.stages = [.sortedByField order])
    (chosen : List Simplification) :
    (applyAll chosen pipeline).stages = [.sortedByField order] :=
  stages_applyAll_of_sorts [order] alone chosen

end Simplification

/-- What sorts have no part of does not lead them. -/
theorem Stage.leading_of_sorts {Note α β : Type} {part? : Stage Note α → Option β}
    (absent : ∀ order, part? (.sortedByField order) = none) (orders : List SortOrder) :
    leading part? (orders.map .sortedByField) = [] := by
  cases orders with
  | nil => rfl
  | cons order rest => exact leading_cons_none (absent order) _

/-- Sorts are not specialized. -/
theorem Pipeline.target?_of_sorts {Note α : Type} {pipeline : Pipeline Note α}
    (orders : List SortOrder) (sorts : pipeline.stages = orders.map .sortedByField) :
    pipeline.target? = none := by
  unfold target?
  rw [sorts, List.findSome?_eq_none_iff]
  exact List.forall_mem_map.mpr fun _ _ => rfl

namespace PushRule

variable {κ ν Note α : Type} [BackendQuery κ ν] {builder : ConditionBuilder ν}
  {plan : Plan κ Note α} {order : SortOrder}

/-- Sorts hold no filters that could be pushed, -/
theorem pushFilter_of_sorts (orders : List SortOrder)
    (sorts : plan.pipeline.stages = orders.map .sortedByField) :
    pushFilter builder plan = .ok plan := by
  refine pushFilter_of_nil ?_
  rw [sorts]
  exact Stage.leading_of_sorts (fun _ => rfl) orders

/-- and no slices. -/
theorem pushSlice_of_sorts (orders : List SortOrder)
    (sorts : plan.pipeline.stages = orders.map .sortedByField) : pushSlice plan = plan := by
  refine pushSlice_of_nil ?_
  rw [sorts]
  exact Stage.leading_of_sorts (fun _ => rfl) orders

/-- Where nothing is left but sorts, and all elements are handed out, the rule for sorts is the
only one that may act. -/
theorem apply_of_ne_sort (orders : List SortOrder)
    (sorts : plan.pipeline.stages = orders.map .sortedByField)
    (ended : plan.pipeline.terminal = some .toArray) {rule : PushRule} (other : rule ≠ .sort) :
    rule.apply builder plan = .ok plan := by
  cases rule with
  | filter => exact pushFilter_of_sorts orders sorts
  | sort => exact absurd rfl other
  | slice => exact congrArg Except.ok (pushSlice_of_sorts orders sorts)
  | count =>
      refine congrArg Except.ok ?_
      rcases pushCount_cases plan with same | ⟨counts, -, -, -⟩
      · exact same
      · rw [ended] at counts
        cases counts

theorem pushSort_of_sort (alone : plan.pipeline.stages = [.sortedByField order])
    (unordered : BackendQuery.isOrdered plan.query = false)
    (loose : (BackendQuery.window plan.query).isBounded = false)
    (uncounted : BackendQuery.isCount plan.query = false) :
    pushSort plan = leaving plan [] (order.keys.foldl BackendQuery.addKey plan.query) := by
  unfold pushSort
  rw [unordered, loose, uncounted, alone]
  rfl

theorem applyAll_of_drained (drained : plan.pipeline.stages = [])
    (ended : plan.pipeline.terminal = some .toArray) (rules : List PushRule) :
    applyAll builder rules plan = .ok plan := by
  refine applyAll_of_fixed fun rule _ => ?_
  by_cases same : rule = .sort
  · rw [same]
    exact congrArg Except.ok (pushSort_of_drained drained)
  · exact apply_of_ne_sort [] drained ended same

/-- A sort that stands alone is pushed just where the rule for sorts is among the rules. -/
theorem applyAll_of_sort (alone : plan.pipeline.stages = [.sortedByField order])
    (ended : plan.pipeline.terminal = some .toArray)
    (unordered : BackendQuery.isOrdered plan.query = false)
    (loose : (BackendQuery.window plan.query).isBounded = false)
    (uncounted : BackendQuery.isCount plan.query = false) (rules : List PushRule) :
    applyAll builder rules plan =
      .ok (if .sort ∈ rules then leaving plan [] (order.keys.foldl BackendQuery.addKey plan.query)
        else plan) := by
  induction rules with
  | nil => rfl
  | cons rule rest hyp =>
      refine applyAll_cons_ok_iff.mpr ?_
      by_cases same : rule = .sort
      · have once : rule.apply builder plan = .ok
            (leaving plan [] (order.keys.foldl BackendQuery.addKey plan.query)) := by
          rw [same]
          exact congrArg Except.ok (pushSort_of_sort alone unordered loose uncounted)
        have drained : (leaving plan [] (order.keys.foldl BackendQuery.addKey plan.query)
            ).pipeline.stages = [] := rfl
        rw [if_pos (List.mem_cons.mpr (.inl same.symm))]
        exact ⟨_, once, applyAll_of_drained drained ended rest⟩
      · have later : PushRule.sort ∈ rule :: rest ↔ .sort ∈ rest := by
          rw [List.mem_cons, or_iff_right (Ne.symm same)]
        simp only [later]
        exact ⟨plan, apply_of_ne_sort [order] alone ended same, hyp⟩

end PushRule

namespace Table

variable {ρ μ Note : Type} [Entity ρ]

/-- The rows in their order, with no notes, are what a sort of rows in process hands out. -/
theorem drain_sort (order : SortOrder) (rows : List ρ) :
    (Stage.runAll [.sortedByField order]
        (.ofRows rows : Flow Note (Element ρ μ))).drain =
      ⟨[], (sortedBy order.compare rows).map .row⟩ := by
  rw [Stage.runAll_cons, Stage.runAll_nil, Stage.run, Flow.drain_eq, Flow.notes_sorted,
    Flow.elements_sorted, Stage.notes_ofRows, Stage.elements_ofRows, Stage.map_row_sortedBy]

theorem drain_ofRows (rows : List ρ) :
    (Stage.runAll [] (.ofRows rows : Flow Note (Element ρ μ))).drain = ⟨[], rows.map .row⟩ := by
  rw [Stage.runAll_nil, Flow.drain_eq, Stage.notes_ofRows, Stage.elements_ofRows]

variable (table : Table ρ) (settings : Settings) (observed : Bool) (source : StreamSource)
  {order : SortOrder} {pipeline : Pipeline Note (Element ρ μ)}

theorem compile_sort (alone : pipeline.stages = [.sortedByField order])
    (ended : pipeline.terminal = some .toArray) :
    (table.runner settings observed).compile pipeline source =
      .ok (if .sort ∈ settings.activeRules then
          PushRule.leaving (table.start settings source pipeline) []
            (order.keys.foldl BackendQuery.addKey (table.backend.newQuery source))
        else table.start settings source pipeline) := by
  rw [table.compile_eq settings observed source ended (Pipeline.target?_of_sorts [order] alone)]
  exact PushRule.applyAll_of_sort (Simplification.stages_applyAll_of_sort alone _)
    ((Simplification.terminal_applyAll _ pipeline).trans ended) rfl rfl rfl _

/-- Pushed or not, a sort comes to the sorted rows. -/
theorem outcome_sort (working : table.failure = none)
    (alone : pipeline.stages = [.sortedByField order])
    (ended : pipeline.terminal = some .toArray) :
    table.outcome settings observed source pipeline =
      ⟨[], .ok (.collection ((sortedBy order.compare table.rows).map .row))⟩ := by
  have compiled := table.compile_sort settings observed source alone ended
  have stages := Simplification.stages_applyAll_of_sort alone settings.simplifications
  have ended' : (table.start settings source pipeline).pipeline.terminal = some .toArray :=
    (Simplification.terminal_applyAll settings.simplifications pipeline).trans ended
  by_cases pushed : .sort ∈ settings.activeRules
  · rw [if_pos pushed] at compiled
    have selected : TableQuery.select
        (order.keys.foldl BackendQuery.addKey (table.backend.newQuery source)) table.rows =
          sortedBy order.compare table.rows := by
      rw [TableQuery.select_addKeys _ _ rfl rfl, select_newQuery]
    have uncounted : TableQuery.counting
        (order.keys.foldl BackendQuery.addKey (table.backend.newQuery source)) = false := by
      rw [TableQuery.addKeys_eq]
      rfl
    rw [outcome_of_plan working compiled ended'
        fun counts => Bool.noConfusion (uncounted.symm.trans counts),
      Terminal.consume, Plan.flow, PushRule.leaving, selected, drain_ofRows]
    rfl
  · rw [if_neg pushed] at compiled
    rw [outcome_of_plan working compiled ended' (fun counts => Bool.noConfusion counts),
      Terminal.consume, flow_start, stages, drain_sort]
    rfl

/-- **Sorting by fields.** Every sort order is a total preorder on rows, and the comparison of a
table by the keys of the order is the order itself. A run that sorts the rows of a table and gathers
them hands them out as the order arranges them, pushed or not, and no other list of rows is so
arranged. -/
theorem sorting_agrees (table : Table ρ) (working : table.failure = none) (order : SortOrder)
    (source : StreamSource) {pipeline : Pipeline Note (Element ρ μ)}
    (alone : pipeline.stages = [.sortedByField order])
    (ended : pipeline.terminal = some .toArray) :
    (∀ row : ρ, order.compare row row = .eq) ∧
      (∀ first second : ρ, order.compare second first = (order.compare first second).swap) ∧
      (∀ first second third : ρ, order.compare first second ≠ .gt →
        order.compare second third ≠ .gt → order.compare first third ≠ .gt) ∧
      ∃ sorted : List ρ, order.Arranged table.rows sorted ∧
        (∀ other, order.Arranged table.rows other → other = sorted) ∧
        ∀ settings observed, ∃ plan,
          (table.runner settings observed).compile pipeline source = .ok plan ∧
            (if .sort ∈ settings.activeRules then
              plan.pipeline.stages = [] ∧ plan.query.keys = order.keys ∧
                SortKey.compareBy (ρ := ρ) plan.query.keys = order.compare
            else plan.pipeline.stages = [.sortedByField order] ∧ plan.query.keys = []) ∧
            table.outcome settings observed source pipeline =
              ⟨[], .ok (.collection (sorted.map .row))⟩ := by
  refine ⟨fun row => Std.ReflCmp.compare_self, fun first second => Std.OrientedCmp.eq_swap, ?_, ?_⟩
  · intro first second third
    simp only [← Ordering.isLE_iff_ne_gt]
    exact Std.TransCmp.isLE_trans
  · refine ⟨sortedBy order.compare table.rows, order.arranged_sortedBy table.rows,
      fun other arranged => arranged.eq (order.arranged_sortedBy table.rows), ?_⟩
    intro settings observed
    refine ⟨_, table.compile_sort settings observed source alone ended, ?_,
      table.outcome_sort settings observed source working alone ended⟩
    by_cases pushed : .sort ∈ settings.activeRules
    · rw [if_pos pushed, if_pos pushed]
      have keys : (order.keys.foldl BackendQuery.addKey (table.backend.newQuery source)).keys =
          order.keys := by
        rw [TableQuery.addKeys_eq]
        rfl
      exact ⟨rfl, keys, congrArg SortKey.compareBy keys⟩
    · rw [if_neg pushed, if_neg pushed]
      exact ⟨Simplification.stages_applyAll_of_sort alone _, rfl⟩

/-- Two rows without the first key, two on one level, and one more: the default settings push their
sort, plain ones do not, and both hand out the rows in the same order. -/
theorem sorting_agrees_nullsFirst :
    let table : Table Record :=
      { rows := [⟨[("n", .int 2), ("s", .text "a")]⟩, ⟨[("s", .text "b")]⟩, ⟨[("n", .int 7)]⟩,
          ⟨[("n", .null)]⟩, ⟨[("n", .uint 2), ("s", .text "a")]⟩] }
    let order : SortOrder := ⟨⟨"n", .descending, .first⟩, [⟨"s", .ascending, .last⟩]⟩
    let pipeline : Pipeline String (Element Record Empty) :=
      { stages := [.sortedByField order], terminal := some .toArray }
    ∃ sorted, order.Arranged table.rows sorted ∧
      (∃ lacking found, sorted = lacking ++ found ∧
        (∀ row ∈ lacking, order.first.lacks row = true) ∧
        ∀ row ∈ found, order.first.lacks row = false) ∧
      (∃ plan, (table.runner {} false).compile pipeline {} = .ok plan ∧
        plan.pipeline.stages = []) ∧
      table.outcome {} false {} pipeline = ⟨[], .ok (.collection (sorted.map .row))⟩ ∧
      table.outcome .plain false {} pipeline = ⟨[], .ok (.collection (sorted.map .row))⟩ := by
  intro table order pipeline
  have alone : pipeline.stages = [.sortedByField order] := rfl
  obtain ⟨-, -, -, sorted, arranged, -, agrees⟩ := table.sorting_agrees rfl order {} alone rfl
  obtain ⟨plan, compiled, kept, pushed⟩ := agrees {} false
  obtain ⟨-, -, -, plain⟩ := agrees .plain false
  exact ⟨sorted, arranged, arranged.nullsFirst rfl, ⟨plan, compiled, kept.1⟩, pushed, plain⟩

end Table

end Pushdown
