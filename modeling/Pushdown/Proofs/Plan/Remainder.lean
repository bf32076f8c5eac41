import Pushdown.Proofs.Plan.Rules

/-! # What rules leave of a pipeline

A rule takes stages from the head of a pipeline and touches no other part of it, whatever the
query is and whatever the backend makes of it. So the stages that are left are the last ones,
and the terminal is the same.
-/

namespace Pushdown

variable {κ ν Note α : Type}

/-- What remains of a plan once stages have gone into its query. -/
structure Plan.Remains (plan plan' : Plan κ Note α) : Prop where
  suffix : plan'.pipeline.stages <:+ plan.pipeline.stages
  others : plan'.pipeline = { plan.pipeline with stages := plan'.pipeline.stages }

namespace Plan.Remains

variable {first second third : Plan κ Note α}

theorem refl (plan : Plan κ Note α) : plan.Remains plan :=
  ⟨List.suffix_rfl, rfl⟩

theorem trans (former : first.Remains second) (latter : second.Remains third) :
    first.Remains third where
  suffix := latter.suffix.trans former.suffix
  others := by
    rw [latter.others, former.others]

theorem leaving {rest : List (Stage Note α)} (suffix : rest <:+ first.pipeline.stages)
    (query : κ) : first.Remains (PushRule.leaving first rest query) :=
  ⟨suffix, rfl⟩

theorem terminal (remains : first.Remains second) :
    second.pipeline.terminal = first.pipeline.terminal := by
  rw [remains.others]

/-- Rules bring no numeric specialization in. -/
theorem unspecialized (remains : first.Remains second)
    (none : first.pipeline.target? = none) : second.pipeline.target? = .none := by
  unfold Pipeline.target? at none ⊢
  rw [List.findSome?_eq_none_iff] at none ⊢
  intro stage member
  exact none stage (remains.suffix.mem member)

end Plan.Remains

namespace PushRule

variable [BackendQuery κ ν] {builder : ConditionBuilder ν}

theorem pushFilter_remains {plan plan' : Plan κ Note α}
    (pushed : pushFilter builder plan = .ok plan') : plan.Remains plan' := by
  rcases pushFilter_eq_ok pushed with ⟨rfl, -⟩ | ⟨predicate, condition, -, -, -, -, rfl⟩
  · exact .refl plan'
  · exact .leaving (Stage.behind_suffix plan.pipeline.stages) _

theorem pushSort_remains (plan : Plan κ Note α) : plan.Remains (pushSort plan) := by
  rcases pushSort_cases plan with same | ⟨order, rest, -, -, -, leads, taken⟩
  · rw [same]
    exact .refl plan
  · have behind : rest <:+ plan.pipeline.stages := leads ▸ List.suffix_cons _ rest
    rw [taken]
    exact .leaving behind _

theorem pushSlice_remains (plan : Plan κ Note α) : plan.Remains (pushSlice plan) := by
  rcases pushSlice_cases plan with same | ⟨-, taken⟩
  · rw [same]
    exact .refl plan
  · rw [taken]
    exact .leaving (Stage.behind_suffix plan.pipeline.stages) _

theorem pushCount_remains (plan : Plan κ Note α) : plan.Remains (pushCount plan) := by
  rcases pushCount_cases plan with same | ⟨-, -, -, asked⟩
  · rw [same]
    exact .refl plan
  · rw [asked]
    exact ⟨List.suffix_rfl, rfl⟩

/-- One rule takes stages from the head alone. -/
theorem apply_remains {rule : PushRule} {plan plan' : Plan κ Note α}
    (pushed : rule.apply builder plan = .ok plan') : plan.Remains plan' := by
  cases rule with
  | filter => exact pushFilter_remains pushed
  | sort =>
      cases pushed
      exact pushSort_remains plan
  | slice =>
      cases pushed
      exact pushSlice_remains plan
  | count =>
      cases pushed
      exact pushCount_remains plan

/-- Rules take stages from the head alone, in whatever order and however often they are
applied. -/
theorem applyAll_remains {rules : List PushRule} {plan plan' : Plan κ Note α}
    (pushed : applyAll builder rules plan = .ok plan') : plan.Remains plan' :=
  applyAll_induction .refl (fun _ _ _ => .trans) (fun _ _ _ => apply_remains) pushed

end PushRule

end Pushdown
