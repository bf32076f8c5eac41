import Pushdown.Proofs.Plan.Rules
import Pushdown.Proofs.Plan.Selection
import Pushdown.Proofs.Record

/-! # What rules make of what they take

Rules take stages from the head of a pipeline and nothing else. Whatever they take is in the query
afterwards, in its place and once: predicates in conditions, the keys of a sort in the order, skips
and limits in the window. The account is kept for one rule at a time, and two accounts add up when
the stages of the one stand in front of the stages of the other.
-/

namespace Pushdown

open Stage

variable {Note α : Type}

/-! ## The account -/

/-- A window after the slices among some stages. -/
def Window.past (window : Window) (stages : List (Stage Note α)) : Window :=
  (stages.filterMap slice?).foldl Slice.after window

/-- A condition that stands for several predicates: the node of the one predicate for them. -/
def PushRule.Expresses {ν : Type} (builder : ConditionBuilder ν) (predicates : List Predicate)
    (condition : ν) : Prop :=
  ∃ predicate, Conjoins predicates predicate ∧ builder.lower predicate = .ok condition

open PushRule

/-- The account of what a query has become by taking some stages, the first of them first. -/
structure TableQuery.Takes (builder : ConditionBuilder TableCondition)
    (taken : List (Stage Note α)) (query query' : TableQuery) : Prop where
  stages : ∀ stage ∈ taken, (∃ predicate, stage = .filter predicate) ∨
    (∃ order, stage = .sortedByField order) ∨ ∃ slice : Slice, stage = slice.stage
  /-- Each predicate has gone into one condition, in order. -/
  conditions : ∃ (runs : List (List Predicate)) (added : List TableCondition),
    taken.filterMap predicate? = runs.flatten ∧ List.Forall₂ (Expresses builder) runs added ∧
      query'.conditions = query.conditions ++ added
  /-- There is one sort at most, and none where the query had an order before. -/
  keys : ∃ order : Option SortOrder, taken.filterMap order? = order.toList ∧
    (query.keys ≠ [] → order = none) ∧
      query'.keys = query.keys ++ (order.map SortOrder.keys).getD []
  window : query'.window = query.window.past taken
  /-- No filter and no sort stands behind a slice after which the query cuts. -/
  loose : ∀ before stage after, taken = before ++ stage :: after → stage.slice? = none →
    (query.window.past before).isBounded = false
  /-- A query that counts takes nothing, and goes on counting. -/
  counting : query.counting = true → query'.counting = true ∧ taken = []
  root : query'.root = query.root
  joins : query'.joins = query.joins
  canCount : query'.canCount = query.canCount

namespace Window

theorem past_append (window : Window) (former latter : List (Stage Note α)) :
    window.past (former ++ latter) = (window.past former).past latter := by
  unfold past
  rw [List.filterMap_append, List.foldl_append]

/-- Stages without slices leave a window as it is. -/
theorem past_of_forall {window : Window} {stages : List (Stage Note α)}
    (fixed : ∀ stage ∈ stages, stage.slice? = none) : window.past stages = window := by
  unfold past
  rw [List.filterMap_eq_nil_iff.mpr fixed, List.foldl_nil]

theorem past_map_stage (window : Window) (slices : List Slice) :
    window.past (slices.map Slice.stage : List (Stage Note α)) =
      slices.foldl Slice.after window := by
  have each (slice : Slice) : (slice.stage : Stage Note α).slice? = some slice := slice?_stage slice
  have parts : (slices.map Slice.stage : List (Stage Note α)).filterMap slice? = slices := by
    rw [List.filterMap_map]
    exact (congrArg (slices.filterMap ·) (funext each)).trans List.filterMap_some
  unfold past
  rw [parts]

/-- Where no stage is a slice, a window that leaves out nothing does so all the way. -/
theorem loose_of_forall {window : Window} {stages : List (Stage Note α)}
    (fixed : ∀ stage ∈ stages, stage.slice? = none) (loose : window.isBounded = false)
    (before : List (Stage Note α)) (stage : Stage Note α) (after : List (Stage Note α))
    (parts : stages = before ++ stage :: after) : (window.past before).isBounded = false := by
  have front : ∀ other ∈ before, other.slice? = none := by
    intro other member
    exact fixed other (parts ▸ List.mem_append_left _ member)
  rw [past_of_forall front]
  exact loose

end Window

namespace TableQuery.Takes

variable {builder : ConditionBuilder TableCondition} {taken taken' : List (Stage Note α)}
  {first second third : TableQuery}

/-- The account of nothing, but that the query may come to count. -/
theorem of_nothing {query : TableQuery} {counting : Bool}
    (kept : query.counting = true → counting = true) :
    Takes builder ([] : List (Stage Note α)) query { query with counting := counting } where
  stages := List.forall_mem_nil _
  conditions := ⟨[], [], rfl, .nil, (List.append_nil _).symm⟩
  keys := ⟨none, rfl, fun _ => rfl, (List.append_nil _).symm⟩
  window := rfl
  loose before stage after parts := by
    cases before <;> cases parts
  counting counts := ⟨kept counts, rfl⟩
  root := rfl
  joins := rfl
  canCount := rfl

/-- Where one account ends the next one begins. -/
theorem trans (former : Takes builder taken first second)
    (latter : Takes builder taken' second third) :
    Takes builder (taken ++ taken') first third where
  stages := List.forall_mem_append.mpr ⟨former.stages, latter.stages⟩
  conditions := by
    obtain ⟨runs, added, predicates, lowered, grown⟩ := former.conditions
    obtain ⟨runs', added', predicates', lowered', grown'⟩ := latter.conditions
    refine ⟨runs ++ runs', added ++ added', ?_, List.rel_append lowered lowered', ?_⟩
    · rw [List.filterMap_append, predicates, predicates', List.flatten_append]
    · rw [grown', grown, List.append_assoc]
  keys := by
    obtain ⟨order, sorts, fresh, grown⟩ := former.keys
    obtain ⟨order', sorts', fresh', grown'⟩ := latter.keys
    -- A sort has a key, so after the first one the query has an order.
    cases order with
    | none =>
        have same : second.keys = first.keys := by
          rw [grown, Option.map_none, Option.getD_none, List.append_nil]
        refine ⟨order', ?_, fun ordered => fresh' (same ▸ ordered), ?_⟩
        · rw [List.filterMap_append, sorts, sorts', Option.toList_none, List.nil_append]
        · rw [grown', same]
    | some order =>
        have ordered : second.keys ≠ [] := by
          rw [grown, Option.map_some, Option.getD_some]
          exact List.append_ne_nil_of_right_ne_nil _ (List.cons_ne_nil _ _)
        obtain rfl := fresh' ordered
        refine ⟨some order, ?_, fresh, ?_⟩
        · rw [List.filterMap_append, sorts, sorts', Option.toList_none, List.append_nil]
        · rw [grown', grown, Option.map_none, Option.getD_none, List.append_nil]
  window := by
    rw [latter.window, former.window, Window.past_append]
  loose before stage after parts fixed := by
    -- The stage has been taken by the latter, or by the former unless nothing is between.
    rcases List.append_eq_append_iff.mp parts with ⟨between, rfl, behind⟩ | ⟨between, front, behind⟩
    · rw [Window.past_append, ← former.window]
      exact latter.loose between stage after behind fixed
    · cases between with
      | nil =>
          rw [List.append_nil] at front
          rw [← front, ← former.window]
          exact latter.loose [] stage after behind.symm fixed
      | cons other rest =>
          obtain ⟨rfl, -⟩ := List.cons.inj behind
          exact former.loose before stage rest front fixed
  counting counts := by
    obtain ⟨counts', rfl⟩ := former.counting counts
    exact latter.counting counts'
  root := latter.root.trans former.root
  joins := latter.joins.trans former.joins
  canCount := latter.canCount.trans former.canCount

/-! ## One rule -/

theorem of_filters {query : TableQuery} {predicates : List Predicate} {condition : TableCondition}
    (loose : query.window.isBounded = false) (uncounted : query.counting = false)
    (expressed : Expresses builder predicates condition) :
    Takes builder (predicates.map .filter : List (Stage Note α)) query
      (BackendQuery.addCondition query condition) := by
  have filters : ∀ stage ∈ (predicates.map .filter : List (Stage Note α)),
      ∃ predicate, stage = .filter predicate := by
    intro stage member
    obtain ⟨predicate, -, rfl⟩ := List.mem_map.mp member
    exact ⟨predicate, rfl⟩
  have fixed : ∀ stage ∈ (predicates.map .filter : List (Stage Note α)),
      stage.slice? = none := by
    intro stage member
    obtain ⟨predicate, rfl⟩ := filters stage member
    rfl
  refine
    { stages := fun stage member => .inl (filters stage member)
      conditions := ⟨[predicates], [condition], ?_, .cons expressed .nil, rfl⟩
      keys := ⟨none, ?_, fun _ => rfl, (List.append_nil _).symm⟩
      window := (Window.past_of_forall fixed).symm
      loose := fun before stage after parts _ =>
        Window.loose_of_forall fixed loose before stage after parts
      counting := fun counts => Bool.noConfusion (uncounted.symm.trans counts)
      root := rfl
      joins := rfl
      canCount := rfl }
  · rw [List.filterMap_map, List.flatten_singleton]
    exact List.filterMap_some
  · rw [Option.toList_none, List.filterMap_eq_nil_iff]
    intro stage member
    obtain ⟨predicate, rfl⟩ := filters stage member
    rfl

theorem of_sort {query : TableQuery} (order : SortOrder) (unordered : query.keys = [])
    (loose : query.window.isBounded = false) (uncounted : query.counting = false) :
    Takes builder ([.sortedByField order] : List (Stage Note α)) query
      (order.keys.foldl BackendQuery.addKey query) := by
  have fixed : ∀ stage ∈ ([.sortedByField order] : List (Stage Note α)), stage.slice? = none :=
    List.forall_mem_singleton.mpr rfl
  rw [addKeys_eq]
  exact
    { stages := List.forall_mem_singleton.mpr (.inr (.inl ⟨order, rfl⟩))
      conditions := ⟨[], [], rfl, .nil, (List.append_nil _).symm⟩
      keys := ⟨some order, rfl, fun ordered => absurd unordered ordered, rfl⟩
      window := rfl
      loose := fun before stage after parts _ =>
        Window.loose_of_forall fixed loose before stage after parts
      counting := fun counts => Bool.noConfusion (uncounted.symm.trans counts)
      root := rfl
      joins := rfl
      canCount := rfl }

theorem of_slices {query : TableQuery} (slices : List Slice) (uncounted : query.counting = false) :
    Takes builder (slices.map Slice.stage : List (Stage Note α)) query
      (BackendQuery.setWindow query (slices.foldl Slice.after query.window)) := by
  have cuts : ∀ stage ∈ (slices.map Slice.stage : List (Stage Note α)),
      ∃ slice : Slice, stage = slice.stage := by
    intro stage member
    obtain ⟨slice, -, rfl⟩ := List.mem_map.mp member
    exact ⟨slice, rfl⟩
  refine
    { stages := fun stage member => .inr (.inr (cuts stage member))
      conditions := ⟨[], [], ?_, .nil, (List.append_nil _).symm⟩
      keys := ⟨none, ?_, fun _ => rfl, (List.append_nil _).symm⟩
      window := (Window.past_map_stage query.window slices).symm
      loose := fun before stage after parts fixed => ?_
      counting := fun counts => Bool.noConfusion (uncounted.symm.trans counts)
      root := rfl
      joins := rfl
      canCount := rfl }
  · rw [List.flatten_nil, List.filterMap_eq_nil_iff]
    intro stage member
    obtain ⟨slice, rfl⟩ := cuts stage member
    cases slice <;> rfl
  · rw [Option.toList_none, List.filterMap_eq_nil_iff]
    intro stage member
    obtain ⟨slice, rfl⟩ := cuts stage member
    cases slice <;> rfl
  · have member : stage ∈ (slices.map Slice.stage : List (Stage Note α)) :=
      parts ▸ List.mem_append_right before List.mem_cons_self
    obtain ⟨slice, rfl⟩ := cuts stage member
    rw [slice?_stage] at fixed
    cases fixed

end TableQuery.Takes

/-! ## Several rules -/

/-- Stages are taken from the head of a plan into its query, and the rest of the plan stays. -/
def Plan.Takes (builder : ConditionBuilder TableCondition)
    (plan plan' : Plan TableQuery Note α) : Prop :=
  ∃ taken, plan.pipeline = { plan'.pipeline with stages := taken ++ plan'.pipeline.stages } ∧
    TableQuery.Takes builder taken plan.query plan'.query

namespace Plan.Takes

variable {builder : ConditionBuilder TableCondition} {first second third : Plan TableQuery Note α}

theorem refl (plan : Plan TableQuery Note α) : plan.Takes builder plan :=
  ⟨[], rfl, .of_nothing id⟩

theorem trans (former : first.Takes builder second) (latter : second.Takes builder third) :
    first.Takes builder third := by
  obtain ⟨taken, parts, account⟩ := former
  obtain ⟨taken', parts', account'⟩ := latter
  refine ⟨taken ++ taken', ?_, account.trans account'⟩
  rw [parts, parts', List.append_assoc]

theorem leaving {taken rest : List (Stage Note α)} {query : TableQuery}
    (parts : first.pipeline.stages = taken ++ rest)
    (account : TableQuery.Takes builder taken first.query query) :
    first.Takes builder (PushRule.leaving first rest query) := by
  refine ⟨taken, ?_, account⟩
  rw [PushRule.leaving, ← parts]

end Plan.Takes

namespace PushRule

variable {builder : ConditionBuilder TableCondition} {plan plan' : Plan TableQuery Note α}

/-- One rule takes what it translates. -/
theorem apply_takes {rule : PushRule} (pushed : rule.apply builder plan = .ok plan') :
    plan.Takes builder plan' := by
  cases rule with
  | filter =>
      rcases pushFilter_eq_ok pushed with
        ⟨rfl, -⟩ | ⟨predicate, condition, loose, uncounted, joined, lowered, rfl⟩
      · exact .refl plan'
      · exact .leaving (leading_append_behind eq_filter_of_predicate? plan.pipeline.stages)
          (.of_filters loose uncounted ⟨predicate, joined, lowered⟩)
  | sort =>
      cases pushed
      rcases pushSort_cases plan with same | ⟨order, rest, unordered, loose, uncounted, leads, taken⟩
      · rw [same]
        exact .refl plan
      · have noKeys := plan.query.isOrdered_eq_false_iff.mp unordered
        have parts : plan.pipeline.stages = [.sortedByField order] ++ rest := leads
        rw [taken]
        exact .leaving parts (.of_sort order noKeys loose uncounted)
  | slice =>
      cases pushed
      rcases pushSlice_cases plan with same | ⟨uncounted, taken⟩
      · rw [same]
        exact .refl plan
      · rw [taken]
        exact .leaving (leading_append_behind eq_stage_of_slice? plan.pipeline.stages)
          (.of_slices _ uncounted)
  | count =>
      cases pushed
      rcases pushCount_cases plan with same | ⟨-, -, -, asked⟩
      · rw [same]
        exact .refl plan
      · rw [asked]
        exact ⟨[], rfl, .of_nothing fun counts => Bool.or_eq_true_iff.mpr (.inl counts)⟩

/-- **Rules translate what they take.** In whatever order and however often rules are applied to a
pipeline and a query that may already demand anything, what is left is the pipeline without some
stages at its head, and the query accounts for each of these: the filters are in the added
conditions, every one in one condition and all in their order; the keys of the one sort, if there
is any, follow those of the query, which had none then; the slices are composed with its window;
and no filter or sort has been taken from behind a cut. -/
theorem rules_translate_what_they_take {rules : List PushRule}
    (pushed : applyAll builder rules plan = .ok plan') :
    ∃ taken, plan.pipeline = { plan'.pipeline with stages := taken ++ plan'.pipeline.stages } ∧
      TableQuery.Takes builder taken plan.query plan'.query := by
  change plan.Takes builder plan'
  exact applyAll_induction .refl (fun _ _ _ => .trans) (fun _ _ _ => apply_takes) pushed

/-- A skip of nothing, two filters, a sort, one more filter and two slices are taken in turn; the
filter behind the cut stays. -/
theorem rules_translate_what_they_take_in_turn :
    let table : Table Record := { rows := [], hasOr := false }
    let start : TableCondition := .membership "a" [.int 1] false
    let query : TableQuery :=
      { root := "Record", joins := ["b"], conditions := [start], canCount := true }
    let first : Predicate := .test ⟨"a", .greaterThan, .value (.int 0)⟩
    let second : Predicate := .test ⟨"b", .noneOf, .set []⟩
    let order : SortOrder := ⟨⟨"a", .descending, .first⟩, [⟨"b", .ascending, .last⟩]⟩
    let plan : Plan TableQuery Empty Record :=
      ⟨{ stages := [.skip 0, .filter first, .filter second, .sortedByField order, .filter second,
            .limit 3, .skip 1, .filter first]
         terminal := some .count }, query⟩
    let rules : List PushRule :=
      [.filter, .slice, .filter, .sort, .filter, .sort, .slice, .filter, .count]
    ∃ plan', applyAll table.conditions rules plan = .ok plan' ∧
      plan'.pipeline.stages = [.filter first] ∧ plan'.query.conditions.length = 3 ∧
      plan'.query.keys = order.keys ∧ plan'.query.window = ⟨1, some 2⟩ ∧
      ∃ taken, plan.pipeline = { plan'.pipeline with stages := taken ++ plan'.pipeline.stages } ∧
        TableQuery.Takes table.conditions taken plan.query plan'.query := by
  intro table start query first second order plan rules
  refine ⟨_, rfl, rfl, rfl, rfl, by decide, ?_⟩
  exact rules_translate_what_they_take (rfl : applyAll table.conditions rules plan = .ok _)

end PushRule

end Pushdown
