import Pushdown.Proofs.Plan.DefaultRules
import Pushdown.Proofs.Plan.SortedRows
import Pushdown.Proofs.Sorting.Refinement

/-! # Sorts one after the other

A pipeline of sorts hands out the rows as one sort after the other leaves them, whichever of the
sorts are pushed: a query takes over the first at most, the others are stable sorts in process, and
no rule can be refused. Two sorts come to one by a refined order, which a query takes over whole.
-/

namespace Pushdown

/-! ## Rules on sorts -/

namespace PushRule

open Plan

variable {Note α : Type} {conditions : ConditionBuilder TableCondition} {orders : List SortOrder}

/-- By default the first of some sorts is pushed, and no other. -/
theorem applyAll_all_of_sorts {start : Plan TableQuery Note α} {order : SortOrder}
    (sorts : start.pipeline.stages = (order :: orders).map .sortedByField)
    (unordered : start.query.keys = []) (loose : start.query.window.isBounded = false)
    (uncounted : start.query.counting = false) :
    ∃ plan, applyAll conditions all start = .ok plan ∧ plan.query.keys = order.keys ∧
      plan.pipeline.stages = orders.map .sortedByField := by
  let moved := leaving start (orders.map .sortedByField) { start.query with keys := order.keys }
  have sorted : pushSort start = moved := by
    rw [pushSort_eq unordered loose uncounted, sorts]
    rfl
  have kept : pushSlice moved = moved := pushSlice_of_sorts orders rfl
  have pushed : applyAll conditions all start = .ok (pushCount moved) := by
    refine applyAll_all_ok_iff.mpr ⟨start, pushFilter_of_sorts _ sorts, ?_⟩
    rw [sorted, kept]
  have uncounted' : moved.query.counting = false := uncounted
  obtain ⟨counting, counted, -⟩ := pushCount_eq uncounted'
  rw [counted] at pushed
  exact ⟨_, pushed, rfl, rfl⟩

variable {ρ μ : Type} [Entity ρ] {start : Plan TableQuery Note (Element ρ μ)}

/-- On sorts no rule is refused, and each keeps the meaning of the plan, however many rows
there are. -/
theorem apply_of_sorts (rows : List ρ) (sorts : start.pipeline.stages = orders.map .sortedByField)
    (rule : PushRule) :
    ∃ plan, rule.apply conditions start = .ok plan ∧ PushedTo rows start plan := by
  cases rule with
  | filter => exact ⟨start, pushFilter_of_sorts _ sorts, .refl start⟩
  | sort => exact ⟨_, rfl, pushSort_pushedTo rows start⟩
  | slice => exact ⟨start, congrArg Except.ok (pushSlice_of_sorts _ sorts), .refl start⟩
  | count => exact ⟨_, rfl, pushCount_pushedTo rows start⟩

/-- Whatever rules are applied to sorts, they lead to a plan that means the same. -/
theorem applyAll_of_sorts (rows : List ρ)
    (sorts : start.pipeline.stages = orders.map .sortedByField) (rules : List PushRule) :
    ∃ plan, applyAll conditions rules start = .ok plan ∧ PushedTo rows start plan := by
  induction rules generalizing start orders with
  | nil => exact ⟨start, rfl, .refl start⟩
  | cons rule rest hyp =>
      obtain ⟨next, once, first⟩ := apply_of_sorts rows sorts rule
      -- What a rule leaves ends the stages it found, so sorts are all that is left.
      obtain ⟨others, -, sorts'⟩ := List.suffix_map_iff.mp (sorts ▸ first.suffix)
      obtain ⟨plan, later, second⟩ := hyp sorts'
      exact ⟨plan, applyAll_cons_ok_iff.mpr ⟨next, once, later⟩, first.trans second⟩

end PushRule

/-! ## Runs of sorts -/

variable {ρ μ Note : Type} [Entity ρ]

/-- Rows, sorted by one order after the other. -/
def SortOrder.successively (orders : List SortOrder) (rows : List ρ) : List ρ :=
  orders.foldl (fun rows order => sortedBy order.compare rows) rows

/-- In process, sorts leave the rows as one sort after the other does. -/
theorem Stage.trace_sorts_ofRows (keep : Note → Bool) (orders : List SortOrder) (rows : List ρ) :
    (Stage.runAll (orders.map .sortedByField)
        (.ofRows rows : Flow Note (Element ρ μ))).trace keep =
      (Flow.ofRows (SortOrder.successively orders rows)).trace keep := by
  induction orders generalizing rows with
  | nil => rfl
  | cons order rest hyp =>
      rw [List.map_cons, runAll_cons, trace_runAll_congr _ (trace_sortedByField_ofRows order rows)]
      exact hyp _

namespace Table

variable (table : Table ρ) {pipeline : Pipeline Note (Element ρ μ)} {orders : List SortOrder}
  {terminal : Terminal Note (Element ρ μ)}

/-- Whatever the settings are, the terminal is handed the rows as one sort after the other leaves
them. -/
theorem outcome_of_sorts (working : table.failure = none) (settings : Settings) (observed : Bool)
    (source : StreamSource) (sorts : pipeline.stages = orders.map .sortedByField)
    (ended : pipeline.terminal = some terminal) :
    ∃ flow : Flow Note (Element ρ μ),
      table.outcome settings observed source pipeline = (terminal.consume flow).map .ok ∧
        ∀ keep, flow.trace keep =
          (Flow.ofRows (SortOrder.successively orders table.rows)).trace keep := by
  have compiled := table.compile_eq settings observed source ended
    (Pipeline.target?_of_sorts orders sorts)
  have stages := Simplification.stages_applyAll_of_sorts orders sorts settings.simplifications
  have stages' : (table.start settings source pipeline).pipeline.stages = _ := stages
  have ended' : (table.start settings source pipeline).pipeline.terminal = some terminal :=
    (Simplification.terminal_applyAll settings.simplifications pipeline).trans ended
  obtain ⟨plan, pushed, kept⟩ :=
    PushRule.applyAll_of_sorts table.rows stages' settings.activeRules
  have alone : plan.CountsAlone := kept.counting fun counts => Bool.noConfusion counts
  refine ⟨plan.flow table.rows, ?_, fun keep => ?_⟩
  · exact outcome_of_plan working (compiled.trans pushed) (kept.terminal.trans ended') alone
  · rw [kept.trace keep, flow_start, stages, Stage.trace_sorts_ofRows]

/-- By default the first of some sorts goes into the query, and no other. -/
theorem compile_sorts (observed : Bool) (source : StreamSource) {order : SortOrder}
    (sorts : pipeline.stages = (order :: orders).map .sortedByField)
    (ended : pipeline.terminal = some terminal) :
    ∃ plan, (table.runner {} observed).compile pipeline source = .ok plan ∧
      plan.query.keys = order.keys ∧ plan.pipeline.stages = orders.map .sortedByField := by
  have stages : (table.start {} source pipeline).pipeline.stages = _ :=
    Simplification.stages_applyAll_of_sorts (order :: orders) sorts Simplification.all
  have compiled := table.compile_eq {} observed source ended
    (Pipeline.target?_of_sorts (order :: orders) sorts)
  obtain ⟨plan, pushed, kept⟩ := PushRule.applyAll_all_of_sorts stages rfl rfl rfl
  exact ⟨plan, compiled.trans pushed, kept⟩

/-- **Composed sorts.** The keys of a refinement may be added one by one, and sorting by the refined
order is sorting by the refinement and then, stably, by the order that it refines. So a run that
sorts twice hands out the rows as a run that sorts once by the refined order, under any settings: by
default the one pushes the keys of the refinement alone, the other all keys. Rows in an order stay
as they are when they are sorted again by its first keys. -/
theorem composed_sort_agrees (table : Table ρ) (working : table.failure = none)
    (major minor : SortOrder) (source : StreamSource)
    {successive composed : Pipeline Note (Element ρ μ)}
    (twice : successive.stages = [.sortedByField minor, .sortedByField major])
    (once : composed.stages = [.sortedByField (major.thenBy minor)])
    (ended : successive.terminal = some terminal) (ended' : composed.terminal = some terminal) :
    minor.keys.foldl SortOrder.thenKey major = major.thenBy minor ∧
      (∀ rows : List ρ, sortedBy (major.thenBy minor).compare rows =
        sortedBy major.compare (sortedBy minor.compare rows)) ∧
      (∀ observed,
        (∃ plan, (table.runner {} observed).compile successive source = .ok plan ∧
          plan.query.keys = minor.keys ∧ plan.pipeline.stages = [.sortedByField major]) ∧
        ∃ plan, (table.runner {} observed).compile composed source = .ok plan ∧
          plan.query.keys = major.keys ++ minor.keys ∧ plan.pipeline.stages = []) ∧
      (∀ settings settings' observed observed',
        ∃ result result' : Noted Note (Output Note (Element ρ μ)),
          table.outcome settings observed source successive = result.map .ok ∧
            table.outcome settings' observed' source composed = result'.map .ok ∧
            ∀ keep, result.Alike keep result' ∧ result'.Alike keep (terminal.consume
              (.ofRows (sortedBy (major.thenBy minor).compare table.rows)))) ∧
      ∀ (order leading : SortOrder), leading.keys <+: order.keys → ∀ rows : List ρ,
        (rows.Pairwise fun first second => order.compare first second ≠ .gt) →
          sortedBy leading.compare rows = rows := by
  have both : successive.stages = [minor, major].map .sortedByField := twice
  have whole : composed.stages = [major.thenBy minor].map .sortedByField := once
  refine ⟨major.foldl_thenKey minor.keys, SortOrder.sortedBy_thenBy major minor,
    fun observed => ⟨?_, ?_⟩, ?_, fun _ _ => SortOrder.sortedBy_of_prefix⟩
  · exact table.compile_sorts observed source both ended
  · exact table.compile_sorts observed source whole ended'
  · intro settings settings' observed observed'
    obtain ⟨flow, outcome, same⟩ :=
      table.outcome_of_sorts working settings observed source both ended
    obtain ⟨flow', outcome', same'⟩ :=
      table.outcome_of_sorts working settings' observed' source whole ended'
    have sorted : SortOrder.successively [minor, major] table.rows =
        sortedBy (major.thenBy minor).compare table.rows :=
      (SortOrder.sortedBy_thenBy major minor table.rows).symm
    rw [sorted] at same
    refine ⟨_, _, outcome, outcome', fun keep => ⟨?_, ?_⟩⟩
    · exact Terminal.consume_congr ((same keep).trans (same' keep).symm) terminal
    · exact Terminal.consume_congr (same' keep) terminal

/-- Each key leaves rows level, and one row lacks the more important key: by default the less
important key alone is pushed, and the rows come as by both. -/
theorem composed_sort_agrees_ties :
    let table : Table Record :=
      { rows := [⟨[("n", .int 1), ("s", .text "b")]⟩, ⟨[("s", .text "a")]⟩,
          ⟨[("n", .int 2), ("s", .text "b")]⟩, ⟨[("n", .int 1), ("s", .text "a")]⟩,
          ⟨[("n", .uint 2), ("s", .null)]⟩] }
    let major : SortOrder := ⟨⟨"n", .descending, .last⟩, []⟩
    let minor : SortOrder := ⟨⟨"s", .ascending, .first⟩, []⟩
    let successive : Pipeline String (Element Record Empty) :=
      { stages := [.sortedByField minor, .sortedByField major], terminal := some .toArray }
    let composed : Pipeline String (Element Record Empty) :=
      { stages := [.sortedByField (major.thenBy minor)], terminal := some .toArray }
    let sorted : List Record :=
      [⟨[("n", .uint 2), ("s", .null)]⟩, ⟨[("n", .int 2), ("s", .text "b")]⟩,
        ⟨[("n", .int 1), ("s", .text "a")]⟩, ⟨[("n", .int 1), ("s", .text "b")]⟩,
        ⟨[("s", .text "a")]⟩]
    sortedBy (major.thenBy minor).compare table.rows = sorted ∧
      sortedBy major.compare sorted = sorted ∧
      (∃ plan, (table.runner {} false).compile successive {} = .ok plan ∧
        plan.query.keys = minor.keys ∧ plan.pipeline.stages = [.sortedByField major]) ∧
      table.outcome {} false {} successive = ⟨[], .ok (.collection (sorted.map .row))⟩ ∧
      table.outcome {} false {} composed = ⟨[], .ok (.collection (sorted.map .row))⟩ := by
  intro table major minor successive composed sorted
  obtain ⟨-, -, pushed, agree, again⟩ := table.composed_sort_agrees rfl major minor {}
    (rfl : successive.stages = _) (rfl : composed.stages = _) rfl rfl
  have arranged : sortedBy (major.thenBy minor).compare table.rows = sorted := by
    rw [sortedBy_eq_foldr]
    decide +kernel
  have ascending : sorted.Pairwise fun first second =>
      (major.thenBy minor).compare first second ≠ .gt := by
    rw [← arranged]
    exact ((major.thenBy minor).arranged_sortedBy table.rows).ascending
  obtain ⟨result, result', outcome, outcome', alike⟩ := agree {} {} false false
  obtain ⟨same, collected⟩ := alike fun _ => true
  rw [arranged] at collected
  obtain rfl : result' = ⟨[], .collection (sorted.map .row)⟩ := collected.eq_collection
  obtain rfl := same.eq_collection
  exact ⟨arranged, again _ major ⟨minor.keys, rfl⟩ sorted ascending, (pushed false).1, outcome,
    outcome'⟩

end Table

end Pushdown
