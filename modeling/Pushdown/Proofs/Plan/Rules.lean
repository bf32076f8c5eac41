import Pushdown.Proofs.Plan.Leading

/-! # What rules do

A rule either leaves a plan as it is or makes one change to it, under conditions on the query that
are the same for every backend. For each rule it is said once when it does what, and what holds of
single rules and adds up holds of several.
-/

namespace Pushdown

namespace PushRule

open Stage

variable {κ ν Note α : Type} [BackendQuery κ ν] {builder : ConditionBuilder ν}

/-! ## Filters -/

/-- Filters are refused exactly when the one predicate for the leading ones is. -/
theorem pushFilter_eq_error_iff {plan : Plan κ Note α} {failure : Failure} :
    pushFilter builder plan = .error failure ↔
      (BackendQuery.window plan.query).isBounded = false ∧
        BackendQuery.isCount plan.query = false ∧
          ∃ predicate, Conjoins (leading predicate? plan.pipeline.stages) predicate ∧
            builder.lower predicate = .error failure := by
  unfold pushFilter
  simp only [leadingPredicates_eq, ← conjunction?_eq_some_iff]
  split
  · rename_i busy
    refine iff_of_false nofun fun ⟨loose, uncounted, _⟩ => ?_
    rw [loose, uncounted] at busy
    cases busy
  · rename_i ready
    obtain ⟨loose, uncounted⟩ := Bool.or_eq_false_iff.mp (Bool.eq_false_iff.mpr ready)
    simp only [loose, uncounted, true_and]
    split
    · rename_i absent
      simp [absent]
    · rename_i predicate joined
      cases lowered : builder.lower predicate <;> simp [joined, lowered]

/-- Filters that are not refused leave the plan as it is, when there are none or the query cuts or
counts, or become one condition. -/
theorem pushFilter_eq_ok {plan plan' : Plan κ Note α}
    (pushed : pushFilter builder plan = .ok plan') :
    (plan' = plan ∧ ((BackendQuery.window plan.query).isBounded = false →
        BackendQuery.isCount plan.query = false → leading predicate? plan.pipeline.stages = [])) ∨
      ∃ predicate condition, (BackendQuery.window plan.query).isBounded = false ∧
        BackendQuery.isCount plan.query = false ∧
        Conjoins (leading predicate? plan.pipeline.stages) predicate ∧
        builder.lower predicate = .ok condition ∧
        plan' = leaving plan (behind predicate? plan.pipeline.stages)
          (BackendQuery.addCondition plan.query condition) := by
  unfold pushFilter at pushed
  simp only [leadingPredicates_eq] at pushed
  split at pushed
  · rename_i busy
    cases pushed
    refine .inl ⟨rfl, fun loose uncounted => ?_⟩
    rw [loose, uncounted] at busy
    cases busy
  · rename_i ready
    obtain ⟨loose, uncounted⟩ := Bool.or_eq_false_iff.mp (Bool.eq_false_iff.mpr ready)
    split at pushed
    · rename_i absent
      cases pushed
      exact .inl ⟨rfl, fun _ _ => conjunction?_eq_none_iff.mp absent⟩
    · rename_i predicate joined
      split at pushed
      · cases pushed
      · rename_i condition lowered
        cases pushed
        exact .inr ⟨predicate, condition, loose, uncounted, conjunction?_eq_some_iff.mp joined,
          lowered, rfl⟩

theorem pushFilter_of_nil {plan : Plan κ Note α}
    (nothing : leading predicate? plan.pipeline.stages = []) :
    pushFilter builder plan = .ok plan := by
  have absent : conjunction? (leading predicate? plan.pipeline.stages) = none :=
    conjunction?_eq_none_iff.mpr nothing
  unfold pushFilter
  simp only [leadingPredicates_eq, absent]
  split <;> rfl

/-- How predicates other than the one for the leading filters are lowered does not matter. -/
theorem pushFilter_congr {builder' : ConditionBuilder ν} {plan : Plan κ Note α}
    (same : ∀ predicate, Conjoins (leading predicate? plan.pipeline.stages) predicate →
      builder'.lower predicate = builder.lower predicate) :
    pushFilter builder' plan = pushFilter builder plan := by
  unfold pushFilter
  simp only [leadingPredicates_eq]
  cases joined : conjunction? (leading predicate? plan.pipeline.stages) with
  | none => rfl
  | some predicate =>
      have agreed := same predicate (conjunction?_eq_some_iff.mp joined)
      simp only [agreed]

/-! ## Sorts -/

/-- A leading sort is taken into a query that neither sorts nor cuts nor counts; nothing else
happens. -/
theorem pushSort_cases (plan : Plan κ Note α) :
    pushSort plan = plan ∨
      ∃ order rest, BackendQuery.isOrdered plan.query = false ∧
        (BackendQuery.window plan.query).isBounded = false ∧
        BackendQuery.isCount plan.query = false ∧
        plan.pipeline.stages = .sortedByField order :: rest ∧
        pushSort plan = leaving plan rest (order.keys.foldl BackendQuery.addKey plan.query) := by
  unfold pushSort
  split
  · exact .inl rfl
  · rename_i ready
    obtain ⟨free, uncounted⟩ := Bool.or_eq_false_iff.mp (Bool.eq_false_iff.mpr ready)
    obtain ⟨unordered, loose⟩ := Bool.or_eq_false_iff.mp free
    split
    · rename_i order rest leads
      exact .inr ⟨order, rest, unordered, loose, uncounted, leads, rfl⟩
    · exact .inl rfl

theorem pushSort_of_drained {plan : Plan κ Note α} (drained : plan.pipeline.stages = []) :
    pushSort plan = plan := by
  rcases pushSort_cases plan with same | ⟨order, rest, -, -, -, leads, -⟩
  · exact same
  · rw [drained] at leads
    cases leads

/-! ## Slices -/

theorem pushSlice_of_isCount {plan : Plan κ Note α}
    (counts : BackendQuery.isCount plan.query = true) : pushSlice plan = plan :=
  if_pos counts

theorem pushSlice_of_nil {plan : Plan κ Note α}
    (nothing : leading slice? plan.pipeline.stages = []) : pushSlice plan = plan := by
  have absent {stage : Stage Note α} {rest : List (Stage Note α)}
      (leads : plan.pipeline.stages = stage :: rest) (slice : Slice) :
      stage.slice? ≠ some slice := by
    intro found
    rw [leads, leading_cons_eq_nil_iff, found] at nothing
    cases nothing
  unfold pushSlice
  split
  · rfl
  · split
    · rename_i amount rest leads
      exact absurd rfl (absent leads (.skip amount))
    · rename_i amount rest leads
      exact absurd rfl (absent leads (.limit amount))
    · rfl

/-- Leading slices are composed with the window of a query that does not count. -/
theorem pushSlice_of_ne_nil {plan : Plan κ Note α}
    (uncounted : BackendQuery.isCount plan.query = false)
    (something : leading slice? plan.pipeline.stages ≠ []) :
    pushSlice plan = leaving plan (behind slice? plan.pipeline.stages)
      (BackendQuery.setWindow plan.query
        ((leading slice? plan.pipeline.stages).foldl Slice.after
          (BackendQuery.window plan.query))) := by
  unfold pushSlice
  rw [uncounted, if_neg Bool.false_ne_true]
  simp only [leadingWindow_eq]
  split
  · rfl
  · rfl
  · rename_i noSkip noLimit
    refine absurd ?_ something
    cases leads : plan.pipeline.stages with
    | nil => rfl
    | cons stage rest =>
        refine leading_cons_none ?_ rest
        cases stage with
        | skip amount => exact (noSkip amount rest leads).elim
        | limit amount => exact (noLimit amount rest leads).elim
        | _ => rfl

/-- Slices are left to a query that counts, and composed with the window of any other. -/
theorem pushSlice_cases (plan : Plan κ Note α) :
    pushSlice plan = plan ∨
      BackendQuery.isCount plan.query = false ∧
        pushSlice plan = leaving plan (behind slice? plan.pipeline.stages)
          (BackendQuery.setWindow plan.query
            ((leading slice? plan.pipeline.stages).foldl Slice.after
              (BackendQuery.window plan.query))) := by
  cases counts : BackendQuery.isCount plan.query with
  | true => exact .inl (pushSlice_of_isCount counts)
  | false =>
      by_cases nothing : leading slice? plan.pipeline.stages = []
      · exact .inl (pushSlice_of_nil nothing)
      · exact .inr ⟨rfl, pushSlice_of_ne_nil counts nothing⟩

/-! ## Counts -/

theorem onlyCounts_iff {plan : Plan κ Note α} :
    onlyCounts plan = true ↔ plan.pipeline.terminal = some .count ∧ plan.pipeline.stages = [] ∧
      (BackendQuery.window plan.query).isBounded = false ∧
        BackendQuery.isCount plan.query = false := by
  unfold onlyCounts
  split
  · rename_i counts finished
    simp only [counts, finished, Bool.and_eq_true, Bool.not_eq_true', true_and]
  · rename_i other
    exact iff_of_false nofun fun ⟨counts, finished, _⟩ => other counts finished

/-- Only a plan that has nothing left to do but to count asks its query for it. -/
theorem pushCount_cases (plan : Plan κ Note α) :
    pushCount plan = plan ∨
      plan.pipeline.terminal = some .count ∧ plan.pipeline.stages = [] ∧
        BackendQuery.isCount plan.query = false ∧
        pushCount plan = { plan with query := (BackendQuery.projectCount plan.query).1 } := by
  by_cases counts : onlyCounts plan = true
  · obtain ⟨terminal, finished, -, uncounted⟩ := onlyCounts_iff.mp counts
    exact .inr ⟨terminal, finished, uncounted, if_pos counts⟩
  · exact .inl (if_neg counts)

/-! ## Several rules -/

theorem applyAll_cons_ok_iff {rule : PushRule} {rest : List PushRule} {plan plan' : Plan κ Note α} :
    applyAll builder (rule :: rest) plan = .ok plan' ↔
      ∃ next, rule.apply builder plan = .ok next ∧ applyAll builder rest next = .ok plan' := by
  unfold applyAll
  rw [List.foldlM_cons]
  cases once : rule.apply builder plan with
  | error failure => exact iff_of_false nofun nofun
  | ok next => exact ⟨fun pushed => ⟨next, rfl, pushed⟩, fun ⟨_, rfl, pushed⟩ => pushed⟩

theorem applyAll_cons_error_iff {rule : PushRule} {rest : List PushRule} {plan : Plan κ Note α}
    {failure : Failure} :
    applyAll builder (rule :: rest) plan = .error failure ↔
      rule.apply builder plan = .error failure ∨
        ∃ next, rule.apply builder plan = .ok next ∧
          applyAll builder rest next = .error failure := by
  unfold applyAll
  rw [List.foldlM_cons]
  cases once : rule.apply builder plan with
  | error cause =>
      refine ⟨.inl, fun refused => ?_⟩
      rcases refused with here | ⟨_, later, -⟩
      · exact here
      · cases later
  | ok next =>
      refine ⟨fun refused => .inr ⟨next, rfl, refused⟩, fun refused => ?_⟩
      rcases refused with here | ⟨_, same, later⟩
      · cases here
      · cases same
        exact later

/-- Rules that each leave a plan as it is do so together. -/
theorem applyAll_of_fixed {rules : List PushRule} {plan : Plan κ Note α}
    (fixed : ∀ rule ∈ rules, rule.apply builder plan = .ok plan) :
    applyAll builder rules plan = .ok plan := by
  induction rules with
  | nil => rfl
  | cons rule rest hyp =>
      obtain ⟨first, others⟩ := List.forall_mem_cons.mp fixed
      exact applyAll_cons_ok_iff.mpr ⟨plan, first, hyp others⟩

/-- What one rule does to a plan and what adds up is what all rules do. -/
theorem applyAll_induction {Leads : Plan κ Note α → Plan κ Note α → Prop}
    (refl : ∀ plan, Leads plan plan)
    (trans : ∀ first second third, Leads first second → Leads second third → Leads first third)
    (once : ∀ (rule : PushRule) (plan plan' : Plan κ Note α),
      rule.apply builder plan = .ok plan' → Leads plan plan')
    {rules : List PushRule} {plan plan' : Plan κ Note α}
    (pushed : applyAll builder rules plan = .ok plan') : Leads plan plan' := by
  induction rules generalizing plan with
  | nil =>
      cases pushed
      exact refl _
  | cons rule rest hyp =>
      obtain ⟨next, first, others⟩ := applyAll_cons_ok_iff.mp pushed
      exact trans _ _ _ (once rule plan next first) (hyp others)

end PushRule

end Pushdown
