import Pushdown.Proofs.Plan.Rules
import Pushdown.Proofs.Plan.Selection

/-! # What the default rules push

The rules run in a fixed order, each on what the one before it has left. From an empty query they
take filters, then a sort by fields, then skips and limits, so they take the longest head of the
pipeline that has this form, and the query says what the head said. Only the one predicate for
the filters can be refused.
-/

namespace Pushdown

/-- Filters, then at most one sort by fields, then slices. -/
structure Head where
  predicates : List Predicate
  order : Option SortOrder
  slices : List Slice

namespace Head

variable {Note α : Type} (head : Head)

/-- The stages of a head. -/
def stages : List (Stage Note α) :=
  head.predicates.map .filter ++
    (head.order.toList.map .sortedByField ++ head.slices.map Slice.stage)

/-- The sort keys of a head. -/
def keys : List SortKey :=
  (head.order.map SortOrder.keys).getD []

/-- The window that the slices of a head compose to. -/
def window : Window :=
  head.slices.foldl Slice.after .everything

end Head

namespace Stage

variable {Note α : Type}

/-- The order of a leading sort by fields. -/
def leadingOrder (stages : List (Stage Note α)) : Option SortOrder :=
  stages.head?.bind Stage.order?

/-- The stages behind a leading sort by fields. -/
def behindOrder : List (Stage Note α) → List (Stage Note α)
  | .sortedByField _ :: rest => rest
  | stages => stages

theorem leadingOrder_append_behindOrder (stages : List (Stage Note α)) :
    stages = (leadingOrder stages).toList.map .sortedByField ++ behindOrder stages := by
  cases stages with
  | nil => rfl
  | cons stage rest => cases stage <;> rfl

/-! ## The greatest head -/

/-- The stages after the greatest head. -/
def behindHead (stages : List (Stage Note α)) : List (Stage Note α) :=
  behind slice? (behindOrder (behind predicate? stages))

/-- The greatest head of a list of stages. -/
def greatestHead (stages : List (Stage Note α)) : Head where
  predicates := leading predicate? stages
  order := leadingOrder (behind predicate? stages)
  slices := leading slice? (behindOrder (behind predicate? stages))

theorem greatestHead_append_behindHead (stages : List (Stage Note α)) :
    stages = (greatestHead stages).stages ++ behindHead stages := by
  calc stages
      = (leading predicate? stages).map .filter ++ behind predicate? stages :=
        leading_append_behind eq_filter_of_predicate? stages
    _ = (leading predicate? stages).map .filter ++
          ((leadingOrder (behind predicate? stages)).toList.map .sortedByField ++
            behindOrder (behind predicate? stages)) := by
        rw [← leadingOrder_append_behindOrder]
    _ = (greatestHead stages).stages ++ behindHead stages := by
        rw [Head.stages, List.append_assoc, List.append_assoc, behindHead, greatestHead,
          ← leading_append_behind eq_stage_of_slice?]

theorem behindHead_suffix (stages : List (Stage Note α)) : behindHead stages <:+ stages :=
  ⟨_, (greatestHead_append_behindHead stages).symm⟩

/-- Whatever head stands in front of some stages, no more is left than of these stages. -/
theorem behindHead_append (head : Head) (rest : List (Stage Note α)) :
    behindHead (head.stages ++ rest) <:+ rest := by
  obtain ⟨predicates, order, slices⟩ := head
  have slicesGone : behind slice? (slices.map Slice.stage ++ rest) <:+ rest := by
    rw [behind_map_append slice?_stage]
    exact behind_suffix rest
  rw [Head.stages, List.append_assoc, List.append_assoc, behindHead,
    behind_map_append predicate?_filter]
  -- A sort ends the filters, and so does a slice; without either the rest may start with any.
  cases order with
  | some order => exact slicesGone
  | none =>
      cases slices with
      | nil => exact behindHead_suffix rest
      | cons slice slices =>
          cases slice <;> exact slicesGone

/-- The greatest head begins with every other one. -/
theorem prefix_greatestHead {stages : List (Stage Note α)} {head : Head}
    (fits : head.stages <+: stages) :
    (head.stages : List (Stage Note α)) <+: (greatestHead stages).stages := by
  obtain ⟨rest, rfl⟩ := fits
  have whole := greatestHead_append_behindHead (head.stages ++ rest)
  refine List.prefix_of_prefix_length_le (List.prefix_append _ rest) ⟨_, whole.symm⟩ ?_
  have lengths := congrArg List.length whole
  have least := (behindHead_append head rest).length_le
  simp only [List.length_append] at lengths
  omega

/-- A skip of nothing is a skip, and no filter behind it is taken. -/
example (order : SortOrder) (predicate : Predicate) :
    greatestHead ([.sortedByField order, .skip 0, .filter predicate] : List (Stage Empty Nat)) =
      ⟨[], some order, [.skip 0]⟩ := rfl

end Stage

namespace PushRule

open Stage

variable {Note α : Type}

/-! ## Single rules -/

variable {plan : Plan TableQuery Note α}

/-- What a run of predicates becomes: no condition, or the node of the one predicate for it. -/
inductive LoweredTo {ν : Type} (builder : ConditionBuilder ν) : List Predicate → List ν → Prop where
  | none : LoweredTo builder [] []
  | one {predicates : List Predicate} {predicate : Predicate} {condition : ν}
      (joined : Conjoins predicates predicate) (lowered : builder.lower predicate = .ok condition) :
      LoweredTo builder predicates [condition]

/-- Leading filters become conditions of a query that neither cuts nor counts. -/
theorem pushFilter_conditions {builder : ConditionBuilder TableCondition}
    {plan' : Plan TableQuery Note α} (loose : plan.query.window.isBounded = false)
    (uncounted : plan.query.counting = false) (pushed : pushFilter builder plan = .ok plan') :
    ∃ conditions, LoweredTo builder (leading predicate? plan.pipeline.stages) conditions ∧
      plan' = leaving plan (behind predicate? plan.pipeline.stages)
        { plan.query with conditions := plan.query.conditions ++ conditions } := by
  rcases pushFilter_eq_ok pushed with ⟨rfl, nothing⟩ | ⟨predicate, condition, -, -, joined, lowered, rfl⟩
  · have none := nothing loose uncounted
    refine ⟨[], none ▸ .none, ?_⟩
    rw [behind_of_leading_eq_nil none, List.append_nil]
    rfl
  · exact ⟨[condition], .one joined lowered, rfl⟩

/-- A leading sort by fields becomes the order of a query that has none. -/
theorem pushSort_eq (unordered : plan.query.keys = []) (loose : plan.query.window.isBounded = false)
    (uncounted : plan.query.counting = false) :
    pushSort plan = leaving plan (behindOrder plan.pipeline.stages)
      { plan.query with
        keys := ((leadingOrder plan.pipeline.stages).map SortOrder.keys).getD [] } := by
  obtain ⟨pipeline, query⟩ := plan
  obtain ⟨stages, terminal, parallel, ordered, closeHandlers, state⟩ := pipeline
  obtain ⟨root, joins, conditions, keys, window, counting, canCount⟩ := query
  obtain rfl : keys = [] := unordered
  obtain rfl : counting = false := uncounted
  change window.isBounded = false at loose
  unfold pushSort
  simp only [BackendQuery.isOrdered, BackendQuery.window, BackendQuery.isCount, loose,
    List.isEmpty_nil, Bool.not_true, Bool.or_self, Bool.false_eq_true, if_false]
  cases stages with
  | nil => rfl
  | cons stage rest =>
      cases stage with
      | sortedByField order =>
          simp only [TableQuery.addKeys_eq]
          rfl
      | _ => rfl

/-- Leading slices become part of the window of a query. -/
theorem pushSlice_eq (uncounted : plan.query.counting = false) :
    pushSlice plan = leaving plan (behind slice? plan.pipeline.stages)
      { plan.query with
        window := (leading slice? plan.pipeline.stages).foldl Slice.after plan.query.window } := by
  by_cases nothing : leading slice? plan.pipeline.stages = []
  · rw [pushSlice_of_nil nothing, behind_of_leading_eq_nil nothing, nothing, List.foldl_nil]
    rfl
  · exact pushSlice_of_ne_nil uncounted nothing

/-- A query that can count comes to count when there is nothing else to do. -/
theorem pushCount_eq (uncounted : plan.query.counting = false) :
    ∃ counting, pushCount plan = { plan with query := { plan.query with counting := counting } } ∧
      (counting = true ↔ plan.pipeline.terminal = some .count ∧ plan.pipeline.stages = [] ∧
        plan.query.window.isBounded = false ∧ plan.query.canCount = true) := by
  by_cases counts : onlyCounts plan = true
  · refine ⟨plan.query.canCount, ?_, ?_⟩
    · rw [pushCount, if_pos counts]
      simp only [BackendQuery.projectCount, TableQuery.projectCount, uncounted, Bool.false_or]
    · obtain ⟨terminal, finished, loose, -⟩ := onlyCounts_iff.mp counts
      change plan.query.window.isBounded = false at loose
      simp only [terminal, finished, loose, true_and]
  · refine ⟨false, ?_, ?_⟩
    · rw [pushCount, if_neg counts, ← uncounted]
    · refine iff_of_false nofun fun ⟨terminal, finished, loose, _⟩ => counts ?_
      exact onlyCounts_iff.mpr ⟨terminal, finished, loose, uncounted⟩

/-! ## All rules -/

variable {builder : ConditionBuilder TableCondition}

theorem applyAll_all : applyAll builder all plan =
    (pushFilter builder plan).map fun filtered => pushCount (pushSlice (pushSort filtered)) := by
  change (pushFilter builder plan >>= fun _ => _) = _
  cases pushFilter builder plan <;> rfl

/-- By default only filters are refused. -/
theorem applyAll_all_error_iff {failure : Failure} :
    applyAll builder all plan = .error failure ↔ pushFilter builder plan = .error failure := by
  rw [applyAll_all]
  cases pushFilter builder plan <;> simp [Except.map]

/-- By default filters that are not refused are followed by the other rules. -/
theorem applyAll_all_ok_iff {plan' : Plan TableQuery Note α} :
    applyAll builder all plan = .ok plan' ↔ ∃ filtered, pushFilter builder plan = .ok filtered ∧
      pushCount (pushSlice (pushSort filtered)) = plan' := by
  rw [applyAll_all]
  cases pushFilter builder plan <;> simp [Except.map]

theorem pushSlice_pushSort (unordered : plan.query.keys = [])
    (whole : plan.query.window = .everything) (uncounted : plan.query.counting = false) :
    pushSlice (pushSort plan) = leaving plan (behind slice? (behindOrder plan.pipeline.stages))
      { plan.query with
        keys := ((leadingOrder plan.pipeline.stages).map SortOrder.keys).getD []
        window := (leading slice? (behindOrder plan.pipeline.stages)).foldl Slice.after
          .everything } := by
  have loose : plan.query.window.isBounded = false := by
    rw [whole]
    rfl
  rw [pushSort_eq unordered loose uncounted, ← whole]
  exact pushSlice_eq uncounted

/-- **The default rules push the longest head.** From an empty query they fail exactly when the
one predicate for the leading filters is refused, and with its failure; how other predicates are
lowered does not matter. Otherwise they take the longest head that consists of filters, then at
most one sort by fields, then skips and limits. The query has the one condition for the filters,
if there are any, the keys of the sort and the window of the slices; and it counts exactly when
there is nothing to do but to count, over all rows, and the table can. -/
theorem default_rules_push_greatest_head {ρ : Type} [Entity ρ] (table : Table ρ)
    (builder : ConditionBuilder TableCondition) (source : StreamSource)
    (pipeline : Pipeline Note α) :
    let fresh := table.backend.newQuery source
    let run := leading predicate? pipeline.stages
    (∀ failure, applyAll builder all ⟨pipeline, fresh⟩ = .error failure ↔
      ∃ predicate, Conjoins run predicate ∧ builder.lower predicate = .error failure) ∧
    (∀ builder' : ConditionBuilder TableCondition,
      (∀ predicate, Conjoins run predicate → builder'.lower predicate = builder.lower predicate) →
      applyAll builder' all ⟨pipeline, fresh⟩ = applyAll builder all ⟨pipeline, fresh⟩) ∧
    ∀ plan, applyAll builder all ⟨pipeline, fresh⟩ = .ok plan →
      ∃ (head : Head) (rest : List (Stage Note α)) (conditions : List TableCondition)
        (counting : Bool),
        pipeline.stages = head.stages ++ rest ∧
        (∀ other : Head, other.stages <+: pipeline.stages →
          (other.stages : List (Stage Note α)) <+: head.stages) ∧
        head.predicates = run ∧ LoweredTo builder run conditions ∧
        (counting = true ↔ pipeline.terminal = some .count ∧ rest = [] ∧
          head.window.isBounded = false ∧ table.hasCount = true) ∧
        plan = ⟨{ pipeline with stages := rest },
          { fresh with
            conditions := conditions, keys := head.keys, window := head.window,
            counting := counting }⟩ := by
  intro fresh run
  refine ⟨fun failure => ?_, fun builder' same => ?_, fun plan pushed => ?_⟩
  · rw [applyAll_all_error_iff, pushFilter_eq_error_iff]
    exact ⟨fun ⟨_, _, refused⟩ => refused, fun refused => ⟨rfl, rfl, refused⟩⟩
  · rw [applyAll_all, applyAll_all, pushFilter_congr same]
  · obtain ⟨filtered, filters, rfl⟩ := applyAll_all_ok_iff.mp pushed
    obtain ⟨conditions, lowered, taken⟩ := pushFilter_conditions rfl rfl filters
    have moved : pushSlice (pushSort filtered) =
        ⟨{ pipeline with stages := behindHead pipeline.stages },
          { fresh with
            conditions := conditions, keys := (greatestHead pipeline.stages).keys,
            window := (greatestHead pipeline.stages).window }⟩ := by
      rw [taken]
      exact pushSlice_pushSort rfl rfl rfl
    have uncounted : (pushSlice (pushSort filtered)).query.counting = false := by
      rw [moved]
      rfl
    obtain ⟨counting, counted, counts⟩ := pushCount_eq uncounted
    rw [moved] at counted counts
    refine ⟨greatestHead pipeline.stages, behindHead pipeline.stages, conditions, counting,
      greatestHead_append_behindHead pipeline.stages, fun _ fits => prefix_greatestHead fits,
      rfl, lowered, counts, ?_⟩
    rw [moved]
    exact counted

end PushRule

end Pushdown
