import Pushdown.Proofs.Plan.Counting
import Pushdown.Proofs.Plan.DefaultRules

/-! # Rules a second time

Rules that have left no stage find nothing more to push. A count is all that the second time may
still ask for, and where counts come last it has been asked for already: a table that grants it
takes in nothing more, and a table that refuses it refuses it again.
-/

namespace Pushdown

namespace PushRule

variable {κ ν Note α : Type}

/-- Rules of which none but a count comes after a count. -/
def CountsLast (rules : List PushRule) : Prop :=
  rules.Pairwise fun earlier later => earlier = .count → later = .count

instance (rules : List PushRule) : Decidable (CountsLast rules) :=
  inferInstanceAs (Decidable (rules.Pairwise _))

/-- Counts come last by default, and still do when some of the rules are left out. -/
theorem countsLast_of_sublist_all {rules : List PushRule} (chosen : rules.Sublist all) :
    CountsLast rules := by
  have default : CountsLast all := by decide
  exact List.Pairwise.sublist chosen default

/-- Where no stage is left, a count is the only rule that may act. -/
theorem apply_of_drained [BackendQuery κ ν] {builder : ConditionBuilder ν} {plan : Plan κ Note α}
    (drained : plan.pipeline.stages = []) {rule : PushRule} (other : rule ≠ .count) :
    rule.apply builder plan = .ok plan := by
  have nothing {β : Type} (part? : Stage Note α → Option β) :
      Stage.leading part? plan.pipeline.stages = [] := by
    rw [drained]
    rfl
  cases rule with
  | filter => exact pushFilter_of_nil (nothing _)
  | sort => exact congrArg Except.ok (pushSort_of_drained drained)
  | slice => exact congrArg Except.ok (pushSlice_of_nil (nothing _))
  | count => exact absurd rfl other

/-- A table that has been asked to count answers the same when it is asked again. -/
theorem pushCount_pushCount (plan : Plan TableQuery Note α) :
    pushCount (pushCount plan) = pushCount plan := by
  cases counts : plan.query.counting with
  | true =>
      have same : pushCount plan = plan := pushCount_of_isCount counts
      rw [same, same]
  | false =>
      obtain ⟨granted, asked, -⟩ := pushCount_eq counts
      cases granted with
      | true =>
          rw [asked]
          exact pushCount_of_isCount rfl
      | false =>
          have refused : pushCount plan = plan := by
            rw [asked, ← counts]
          rw [refused, refused]

variable {builder : ConditionBuilder TableCondition} {rules : List PushRule}
  {plan plan' : Plan TableQuery Note α}

/-- Where counts come last, no count is left to be asked for after them. -/
theorem pushCount_of_applyAll (last : CountsLast rules) (listed : .count ∈ rules)
    (pushed : applyAll builder rules plan = .ok plan') : pushCount plan' = plan' := by
  induction rules generalizing plan with
  | nil => cases listed
  | cons rule rest hyp =>
      obtain ⟨next, first, others⟩ := applyAll_cons_ok_iff.mp pushed
      obtain ⟨behind, last'⟩ := List.pairwise_cons.mp last
      by_cases again : .count ∈ rest
      · exact hyp last' again others
      · -- This count is the last rule, for only counts could follow it.
        obtain rfl : .count = rule := (List.mem_cons.mp listed).resolve_right again
        obtain rfl : rest = [] := List.eq_nil_iff_forall_not_mem.mpr fun later member =>
          again (behind later member rfl ▸ member)
        cases others
        cases first
        exact pushCount_pushCount plan

/-- **Pushing again changes nothing.** Where counts come last, as they do by default with any of the
rules left out, rules that have left no stage of a pipeline succeed a second time and make the same
plan again, whatever the query asked for at first and whether or not the table can count. -/
theorem pushed_whole_stays_pushed (rules : List PushRule) :
    (rules.Sublist all → CountsLast rules) ∧
      (CountsLast rules →
        ∀ (builder : ConditionBuilder TableCondition) (plan plan' : Plan TableQuery Note α),
          applyAll builder rules plan = .ok plan' → plan'.pipeline.stages = [] →
            applyAll builder rules plan' = .ok plan') := by
  refine ⟨countsLast_of_sublist_all, fun last builder plan plan' pushed drained => ?_⟩
  refine applyAll_of_fixed fun rule listed => ?_
  by_cases counts : rule = .count
  · subst counts
    exact congrArg Except.ok (pushCount_of_applyAll last listed pushed)
  · exact apply_of_drained drained counts

/-- A query with a condition and an order of its own takes up a filter and a skip of nothing, on a
table that can count and on one that cannot. -/
theorem pushed_whole_stays_pushed_granted_or_refused :
    let positive : TableCondition := .compare "n" .greater (.int 0)
    let start (canCount : Bool) : Plan TableQuery Unit (Element Record Empty) :=
      { pipeline :=
          { stages := [.filter (.test ⟨"s", .equal, .value (.text "a")⟩), .skip 0]
            terminal := some .count }
        query :=
          { root := "Record", joins := [], conditions := [positive],
            keys := [⟨"n", .ascending, .first⟩], canCount := canCount } }
    let table : Table Record := { rows := [] }
    CountsLast all ∧
      ∃ granted refused, applyAll table.conditions all (start true) = .ok granted ∧
        granted.query.counting = true ∧ applyAll table.conditions all granted = .ok granted ∧
        applyAll table.conditions all (start false) = .ok refused ∧
        refused.query.counting = false ∧ applyAll table.conditions all refused = .ok refused := by
  intro positive start table
  obtain ⟨chosen, again⟩ := @pushed_whole_stays_pushed Unit (Element Record Empty) all
  have last := chosen (List.Sublist.refl all)
  exact ⟨last, _, _, rfl, rfl, again last table.conditions (start true) _ rfl rfl, rfl, rfl,
    again last table.conditions (start false) _ rfl rfl⟩

/-- A filter after the rule for counts leaves a count for the second time. -/
example :
    let start : Plan TableQuery Unit (Element Record Empty) :=
      { pipeline :=
          { stages := [.filter (.test ⟨"n", .equal, .value (.int 1)⟩)], terminal := some .count }
        query := { root := "Record", joins := [], canCount := true } }
    let table : Table Record := { rows := [] }
    let once := applyAll table.conditions [.count, .filter] start
    once.map (·.query.counting) = .ok false ∧
      (once >>= applyAll table.conditions [.count, .filter]).map (·.query.counting) = .ok true :=
  ⟨rfl, rfl⟩

end PushRule

end Pushdown
