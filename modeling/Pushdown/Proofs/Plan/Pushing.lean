import Pushdown.Proofs.Pipeline.RowStages
import Pushdown.Proofs.Plan.Rules
import Pushdown.Proofs.Plan.Selection
import Pushdown.Proofs.Predicate.Connectives
import Pushdown.Proofs.Record

/-! # What pushing keeps

A rule moves stages from the head of a pipeline into the query in front of them. What the
query then selects is what the stages made of what it selected before, so the flow through
the rest of the pipeline keeps its trace. A query that counts is left alone: it has come to
count only when there was nothing left to do but to count.
-/

namespace Pushdown

variable {ρ μ Note : Type} [Entity ρ]

namespace Plan

/-- The rows that a plan's query selects, through the stages that the plan leaves. -/
def flow (rows : List ρ) (plan : Plan TableQuery Note (Element ρ μ)) :
    Flow Note (Element ρ μ) :=
  Stage.runAll plan.pipeline.stages (.ofRows (plan.query.select rows))

omit [Entity ρ] in
/-- Where the query counts, nothing else is left to do. -/
def CountsAlone (plan : Plan TableQuery Note (Element ρ μ)) : Prop :=
  plan.query.counting = true → plan.pipeline.terminal = some .count ∧ plan.pipeline.stages = []

/-- What pushing keeps of a plan over given rows. -/
structure PushedTo (rows : List ρ) (plan plan' : Plan TableQuery Note (Element ρ μ)) : Prop where
  suffix : plan'.pipeline.stages <:+ plan.pipeline.stages
  trace : ∀ keep, (plan'.flow rows).trace keep = (plan.flow rows).trace keep
  terminal : plan'.pipeline.terminal = plan.pipeline.terminal
  target : plan'.pipeline.target? = plan.pipeline.target?
  counting : plan.CountsAlone → plan'.CountsAlone

namespace PushedTo

variable {rows : List ρ} {first second third : Plan TableQuery Note (Element ρ μ)}

theorem refl (plan : Plan TableQuery Note (Element ρ μ)) : PushedTo rows plan plan :=
  ⟨List.suffix_rfl, fun _ => rfl, rfl, rfl, id⟩

theorem trans (former : PushedTo rows first second) (latter : PushedTo rows second third) :
    PushedTo rows first third where
  suffix := latter.suffix.trans former.suffix
  trace keep := (latter.trace keep).trans (former.trace keep)
  terminal := latter.terminal.trans former.terminal
  target := latter.target.trans former.target
  counting alone := latter.counting (former.counting alone)

/-- Leading stages may go into a query that does to the rows what they did. -/
theorem leaving {taken rest : List (Stage Note (Element ρ μ))} {query : TableQuery}
    (parts : first.pipeline.stages = taken ++ rest)
    (runnable : ∀ stage ∈ taken, stage.target? = none) (uncounted : query.counting = false)
    (same : ∀ keep, (Stage.runAll taken (.ofRows (first.query.select rows))).trace keep =
      (Flow.ofRows (query.select rows)).trace keep) :
    PushedTo rows first (PushRule.leaving first rest query) where
  suffix := ⟨taken, parts.symm⟩
  trace keep := by
    unfold flow
    rw [parts, Stage.runAll, Stage.runAll, List.foldl_append]
    exact (Stage.trace_runAll_congr rest (same keep)).symm
  terminal := rfl
  target := by
    unfold Pipeline.target?
    rw [parts, List.findSome?_append, List.findSome?_eq_none_iff.mpr runnable]
    rfl
  counting alone counts := Bool.noConfusion (uncounted.symm.trans counts)

end PushedTo

end Plan

namespace PushRule

open Plan

/-! ## Filters -/

/-- Filters one after the other keep the rows on which all predicates hold. -/
theorem trace_filters_ofRows (keep : Note → Bool) (predicates : List Predicate) (rows : List ρ) :
    (Stage.runAll (predicates.map .filter) (.ofRows rows : Flow Note (Element ρ μ))).trace keep =
      (Flow.ofRows (rows.filter fun row =>
        predicates.all fun predicate => predicate.holds row)).trace keep := by
  rw [Stage.runAll_filters, Stage.trace_filter_ofRows]
  rfl

/-- One predicate for several holds where all of them hold. -/
theorem Conjoins.holds {predicates : List Predicate} {predicate : Predicate}
    (joined : Conjoins predicates predicate) (row : ρ) :
    predicate.holds row = predicates.all fun member => member.holds row := by
  cases joined with
  | lone => rw [List.all_cons, List.all_nil, Bool.and_true]
  | several joined =>
      cases joined
      exact Predicate.holds_group_and _ row

theorem pushFilter_pushedTo {table : Table ρ} (rows : List ρ)
    {plan plan' : Plan TableQuery Note (Element ρ μ)}
    (pushed : pushFilter table.conditions plan = .ok plan') : PushedTo rows plan plan' := by
  rcases pushFilter_eq_ok pushed with
    ⟨rfl, -⟩ | ⟨predicate, condition, loose, uncounted, joined, lowered, rfl⟩
  · exact .refl plan'
  · have parts := Stage.leading_append_behind Stage.eq_filter_of_predicate? plan.pipeline.stages
    refine .leaving parts ?_ uncounted fun keep => ?_
    · intro stage member
      obtain ⟨predicate, -, rfl⟩ := List.mem_map.mp member
      rfl
    · rw [trace_filters_ofRows, TableQuery.select_addCondition _ _ loose]
      simp only [table.lower_evaluate lowered, ← joined.holds]
      rfl

/-! ## Sorts -/

theorem pushSort_pushedTo (rows : List ρ) (plan : Plan TableQuery Note (Element ρ μ)) :
    PushedTo rows plan (pushSort plan) := by
  rcases pushSort_cases plan with same | ⟨order, rest, unordered, loose, uncounted, leads, taken⟩
  · rw [same]
    exact .refl plan
  · have parts : plan.pipeline.stages = [.sortedByField order] ++ rest := leads
    rw [taken]
    refine .leaving parts ?_ ?_ fun keep => ?_
    · rw [List.forall_mem_singleton]
      rfl
    · rw [TableQuery.addKeys_eq]
      exact uncounted
    · rw [TableQuery.select_addKeys _ _ unordered loose]
      exact Stage.trace_sortedByField_ofRows order _

/-! ## Slices -/

/-- Stages at the head of others that do to one window's part of the rows what leads to
another's. -/
def LeadsTo (rows : List ρ) (window window' : Window)
    (stages rest : List (Stage Note (Element ρ μ))) : Prop :=
  ∃ taken, stages = taken ++ rest ∧ (∀ stage ∈ taken, stage.target? = none) ∧
    ∀ keep, (Stage.runAll taken (.ofRows (window.apply rows))).trace keep =
      (Flow.ofRows (window'.apply rows)).trace keep

theorem LeadsTo.none (rows : List ρ) (window : Window) (stages : List (Stage Note (Element ρ μ))) :
    LeadsTo rows window window stages stages :=
  ⟨[], rfl, List.forall_mem_nil _, fun _ => rfl⟩

theorem LeadsTo.cons {rows : List ρ} {first second third : Window}
    {stage : Stage Note (Element ρ μ)} {stages rest : List (Stage Note (Element ρ μ))}
    (runnable : stage.target? = .none)
    (step : ∀ keep, (stage.run (.ofRows (first.apply rows))).trace keep =
      (Flow.ofRows (second.apply rows)).trace keep)
    (others : LeadsTo rows second third stages rest) :
    LeadsTo rows first third (stage :: stages) rest := by
  obtain ⟨taken, parts, runnable', same⟩ := others
  refine ⟨stage :: taken, congrArg (stage :: ·) parts,
    List.forall_mem_cons.mpr ⟨runnable, runnable'⟩, fun keep => ?_⟩
  rw [Stage.runAll_cons, Stage.trace_runAll_congr taken (step keep)]
  exact same keep

/-- The leading slices do to a window's part of the rows what their window does. -/
theorem leadingWindow_leadsTo {rows : List ρ} (bounded : rows.length ≤ Count.largest)
    (stages : List (Stage Note (Element ρ μ))) (window : Window) :
    LeadsTo rows window (leadingWindow window stages).1 stages
      (leadingWindow window stages).2 := by
  induction stages generalizing window with
  | nil => exact .none rows window []
  | cons stage rest hyp =>
      cases stage with
      | skip amount =>
          refine .cons rfl (fun keep => ?_) (hyp (window.thenSkip amount))
          rw [Stage.trace_skip_ofRows, Window.apply_thenSkip window amount bounded]
      | limit amount =>
          refine .cons rfl (fun keep => ?_) (hyp (window.thenLimit amount))
          rw [Stage.trace_limit_ofRows, Window.apply_thenLimit]
      | _ => exact .none rows window _

theorem pushSlice_pushedTo {rows : List ρ} (bounded : rows.length ≤ Count.largest)
    (plan : Plan TableQuery Note (Element ρ μ)) : PushedTo rows plan (pushSlice plan) := by
  rcases pushSlice_cases plan with same | ⟨uncounted, taken⟩
  · rw [same]
    exact .refl plan
  · have bounded' := Nat.le_trans (plan.query.length_uncut_le rows) bounded
    have led := leadingWindow_leadsTo bounded' plan.pipeline.stages plan.query.window
    rw [leadingWindow_eq] at led
    obtain ⟨cut, parts, runnable, same⟩ := led
    rw [taken]
    refine .leaving parts runnable uncounted fun keep => ?_
    rw [TableQuery.select_setWindow]
    exact same keep

/-! ## Counts -/

theorem pushCount_pushedTo (rows : List ρ) (plan : Plan TableQuery Note (Element ρ μ)) :
    PushedTo rows plan (pushCount plan) := by
  rcases pushCount_cases plan with same | ⟨terminal, finished, -, asked⟩
  · rw [same]
    exact .refl plan
  · rw [asked]
    exact ⟨List.suffix_rfl, fun _ => rfl, rfl, rfl, fun _ _ => ⟨terminal, finished⟩⟩

/-! ## Rules -/

/-- One rule keeps the meaning of a plan. -/
theorem apply_pushedTo {table : Table ρ} {rows : List ρ} (bounded : rows.length ≤ Count.largest)
    (rule : PushRule) {plan plan' : Plan TableQuery Note (Element ρ μ)}
    (pushed : rule.apply table.conditions plan = .ok plan') : PushedTo rows plan plan' := by
  cases rule with
  | filter => exact pushFilter_pushedTo rows pushed
  | sort =>
      cases pushed
      exact pushSort_pushedTo rows plan
  | slice =>
      cases pushed
      exact pushSlice_pushedTo bounded plan
  | count =>
      cases pushed
      exact pushCount_pushedTo rows plan

/-- Rules keep the meaning of a plan, in whatever order and however often they are applied. -/
theorem applyAll_pushedTo {table : Table ρ} {rows : List ρ}
    (bounded : rows.length ≤ Count.largest) (rules : List PushRule)
    {plan plan' : Plan TableQuery Note (Element ρ μ)}
    (pushed : applyAll table.conditions rules plan = .ok plan') : PushedTo rows plan plan' :=
  applyAll_induction .refl (fun _ _ _ => .trans) (fun rule _ _ => apply_pushedTo bounded rule) pushed

/-! ## Refusals -/

omit [Entity ρ] in
/-- Filters are refused only for a predicate that has no node. -/
theorem pushFilter_error {table : Table ρ} {plan : Plan TableQuery Note (Element ρ μ)}
    (formed : ∀ predicate, .filter predicate ∈ plan.pipeline.stages → predicate.WellFormed)
    {failure : Failure} (refused : pushFilter table.conditions plan = .error failure) :
    (∃ form, failure = .unsupportedPredicate form) ∧
      ¬(table.hasAnd = true ∧ table.hasOr = true) := by
  obtain ⟨-, -, predicate, joined, lowered⟩ := pushFilter_eq_error_iff.mp refused
  have formed' : predicate.WellFormed := joined.wellFormed fun member present =>
    formed member (Stage.filter_mem_of_leading present)
  obtain ⟨node, -, -, named⟩ := table.conditions.lower_error formed' lowered
  refine ⟨⟨node.form, named⟩, fun ⟨hasAnd, hasOr⟩ => ?_⟩
  obtain ⟨condition, found⟩ := table.lower_total hasAnd hasOr formed'
  rw [found] at lowered
  cases lowered

/-- Rules are refused only for a predicate that has no node. -/
theorem applyAll_error {table : Table ρ} {rows : List ρ} (bounded : rows.length ≤ Count.largest)
    {rules : List PushRule} {plan : Plan TableQuery Note (Element ρ μ)}
    (formed : ∀ predicate, .filter predicate ∈ plan.pipeline.stages → predicate.WellFormed)
    {failure : Failure} (refused : applyAll table.conditions rules plan = .error failure) :
    (∃ form, failure = .unsupportedPredicate form) ∧
      ¬(table.hasAnd = true ∧ table.hasOr = true) := by
  induction rules generalizing plan with
  | nil => cases refused
  | cons rule rest hyp =>
      rcases applyAll_cons_error_iff.mp refused with here | ⟨next, once, later⟩
      · cases rule with
        | filter => exact pushFilter_error formed here
        | _ => cases here
      · refine hyp (fun predicate present => formed predicate ?_) later
        exact (apply_pushedTo bounded rule once).suffix.mem present

/-! ## Answers -/

/-- **Pushing keeps the answer.** From any query that does not count, whatever it already
demands, rules lead to a plan whose query gives rows that the stages left make into the same
elements, or to one whose query counts them; and then nothing is left but the count. -/
theorem pushing_keeps_elements {table : Table ρ} (bounded : table.rows.length ≤ Count.largest)
    (rules : List PushRule) {plan plan' : Plan TableQuery Note (Element ρ μ)}
    (uncounted : plan.query.counting = false)
    (pushed : applyAll table.conditions rules plan = .ok plan') :
    plan'.pipeline.target? = plan.pipeline.target? ∧
      (plan'.query.counting = true →
        plan'.pipeline.terminal = some .count ∧ plan'.pipeline.stages = []) ∧
      (table.failure ≠ none → table.execute plan'.query = table.execute plan.query) ∧
      (table.failure = none →
        ∃ rows, table.execute plan.query = .ok (.rows rows) ∧
          (plan'.query.counting = false →
            ∃ rows', table.execute plan'.query = .ok (.rows rows') ∧
              (Stage.runAll plan'.pipeline.stages (.ofRows rows')).drain =
                (Stage.runAll plan.pipeline.stages (.ofRows rows)).drain) ∧
          (plan'.query.counting = true →
            ∃ count, table.execute plan'.query = .ok (.counts [count]) ∧
              count.toNat =
                (Stage.runAll plan.pipeline.stages (.ofRows rows)).elements.length)) := by
  have kept : PushedTo table.rows plan plan' := applyAll_pushedTo bounded rules pushed
  -- A query that did not count at first has come to count with nothing left to do.
  have alone : plan'.CountsAlone :=
    kept.counting fun counts => Bool.noConfusion (uncounted.symm.trans counts)
  refine ⟨kept.target, alone, fun failing => ?_, fun working => ?_⟩
  · obtain ⟨message, failed⟩ := Option.ne_none_iff_exists'.mp failing
    rw [table.execute_failing failed, table.execute_failing failed]
  refine ⟨_, table.execute_rows working uncounted, fun uncounted' => ?_, fun counts => ?_⟩
  · refine ⟨_, table.execute_rows working uncounted', ?_⟩
    exact Flow.drain_eq_of_trace (kept.trace fun _ => true)
  · refine ⟨_, table.execute_counts working counts, ?_⟩
    have selected : (plan'.flow table.rows).elements = (plan.flow table.rows).elements :=
      Flow.elements_congr (kept.trace fun _ => true)
    have whole : (plan'.flow table.rows).elements.length =
        (plan'.query.select table.rows).length := by
      rw [flow, (alone counts).2, Stage.runAll_nil, Stage.elements_ofRows, List.length_map]
    have countable := Nat.le_trans (plan'.query.length_select_le table.rows) bounded
    rw [Count.toNat_ofNat, Nat.min_eq_left countable, ← whole, selected]
    rfl

/-- A filter and a skip go under an order that the query already has. -/
theorem pushing_keeps_elements_under_order :
    let table : Table Record := { rows := [⟨[("n", .int 2)]⟩, ⟨[]⟩, ⟨[("n", .int 1)]⟩] }
    let query : TableQuery :=
      { root := "Record", joins := [], keys := [⟨"n", .ascending, .first⟩], canCount := true }
    let stages : List (Stage Empty (Element Record Empty)) :=
      [.filter (.test ⟨"n", .greaterThan, .value (.int 0)⟩), .skip 1]
    let plan : Plan TableQuery Empty (Element Record Empty) :=
      ⟨{ stages := stages, terminal := some .count }, query⟩
    ∃ plan', applyAll table.conditions [.filter, .slice, .count] plan = .ok plan' ∧
      plan'.pipeline.stages = [] ∧ plan'.query.counting = false ∧
      ∃ rows rows', table.execute query = .ok (.rows rows) ∧
        table.execute plan'.query = .ok (.rows rows') ∧
        (Flow.ofRows rows').drain = (Stage.runAll stages (.ofRows rows)).drain := by
  intro table query stages plan
  refine ⟨_, rfl, rfl, rfl, ?_⟩
  obtain ⟨-, -, -, answered⟩ := pushing_keeps_elements (by decide) _ rfl
    (rfl : applyAll table.conditions [.filter, .slice, .count] plan = .ok _)
  obtain ⟨rows, answer, kept, -⟩ := answered rfl
  obtain ⟨rows', answer', same⟩ := kept rfl
  exact ⟨rows, rows', answer, answer', same⟩

end PushRule

end Pushdown
