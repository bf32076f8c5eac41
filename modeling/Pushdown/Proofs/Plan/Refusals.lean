import Pushdown.Proofs.Plan.Rules
import Pushdown.Proofs.Predicate.Lowering
import Pushdown.Proofs.Predicate.Obtaining
import Pushdown.Proofs.Record
import Pushdown.Table

/-! # Why filters are refused

Whatever predicates have been obtained, every node in them is as its constructor wants it. So a
backend is never given a misshapen one, and what it cannot express is the only reason for which a
predicate is not lowered or filters are not pushed.
-/

namespace Pushdown

namespace Predicate

/-- Every part of a well-formed tree is well formed. -/
theorem WellFormed.part {predicate node : Predicate} (formed : predicate.WellFormed)
    (within : predicate.Contains node) : node.WellFormed := by
  induction within with
  | here => exact formed
  | member present within hyp =>
      cases formed with
      | group connective members nonempty each => exact hyp (each _ present)

theorem Obtained.fits {predicate : Predicate} (obtained : predicate.Obtained) {leaf : FieldTest}
    (within : predicate.Contains (.test leaf)) : leaf.kind.shape = leaf.operand.shape := by
  cases obtained.wellFormed.part within with
  | test _ fits => exact fits

theorem Obtained.nonempty {predicate : Predicate} (obtained : predicate.Obtained)
    {connective : Connective} {members : List Predicate}
    (within : predicate.Contains (.group connective members)) : members ≠ [] := by
  cases obtained.wellFormed.part within with
  | group _ _ nonempty each => exact nonempty

end Predicate

namespace PushRule

variable {κ ν Note α : Type} [BackendQuery κ ν] {builder : ConditionBuilder ν}

/-- Filters of well-formed predicates are refused only for a node that the backend does not
have. -/
theorem pushFilter_refused {plan : Plan κ Note α} {failure : Failure}
    (formed : ∀ predicate, .filter predicate ∈ plan.pipeline.stages → predicate.WellFormed)
    (refused : pushFilter builder plan = .error failure) :
    ∃ predicate node, Conjoins (Stage.leading Stage.predicate? plan.pipeline.stages) predicate ∧
      predicate.Contains node ∧ builder.Refuses node ∧
        failure = .unsupportedPredicate node.form := by
  obtain ⟨-, -, predicate, joined, lowered⟩ := pushFilter_eq_error_iff.mp refused
  have formed' : predicate.WellFormed := joined.wellFormed fun member present =>
    formed member (Stage.filter_mem_of_leading present)
  obtain ⟨node, within, missing, named⟩ := builder.lower_error formed' lowered
  exact ⟨predicate, node, joined, within, missing, named⟩

end PushRule

open PushRule in
/-- **Only what a backend cannot express is refused.** In every predicate that can be obtained,
tests have operands of the shape that their kinds take and groups have members. So no backend
refuses such a predicate, or the leading filters of a pipeline, unless one of its constructors
gave no node, and the failure names the form of that node. -/
theorem refused_only_for_missing_nodes {ν : Type} (builder : ConditionBuilder ν) :
    (∀ predicate : Predicate, predicate.Obtained →
      (∀ leaf, predicate.Contains (.test leaf) → leaf.kind.shape = leaf.operand.shape) ∧
      (∀ connective members, predicate.Contains (.group connective members) → members ≠ []) ∧
      ∀ failure, builder.lower predicate = .error failure →
        ∃ node, predicate.Contains node ∧ builder.Refuses node ∧
          failure = .unsupportedPredicate node.form) ∧
    (∀ {κ Note α : Type} [BackendQuery κ ν] (plan : Plan κ Note α),
      (∀ predicate, .filter predicate ∈ plan.pipeline.stages → predicate.Obtained) →
      ∀ failure, PushRule.apply builder plan .filter = .error failure →
        ∃ predicate node,
          Conjoins (Stage.leading Stage.predicate? plan.pipeline.stages) predicate ∧
          predicate.Contains node ∧ builder.Refuses node ∧
            failure = .unsupportedPredicate node.form) := by
  constructor
  · intro predicate obtained
    refine ⟨fun leaf within => obtained.fits within, fun connective members within =>
      obtained.nonempty within, fun failure refused => ?_⟩
    exact builder.lower_error obtained.wellFormed refused
  · intro κ Note α _ plan obtained failure refused
    exact pushFilter_refused (fun predicate present => (obtained predicate present).wellFormed)
      refused

/-- A table without disjunctions refuses a disjunction of an inverted range and an empty set deep
in a conjunction, both when it is lowered and when it is the second of two filters. -/
theorem refused_only_for_missing_nodes_without_or :
    let table : Table Record := { rows := [], hasOr := false }
    let age : Field Int64 := ⟨"age"⟩
    let adult : Predicate := age.greaterThan 17
    let choice : Predicate := adult.and ((age.between 5 1).negate.or (age.oneOf []))
    let plan : Plan TableQuery Empty Record :=
      ⟨{ stages := [.filter adult, .filter choice] }, table.backend.newQuery {}⟩
    choice.Obtained ∧
      table.conditions.lower choice = .error (.unsupportedPredicate (.group .or)) ∧
      (∃ node, choice.Contains node ∧ table.conditions.Refuses node ∧
        Failure.unsupportedPredicate (.group .or) = .unsupportedPredicate node.form) ∧
      PushRule.apply table.conditions plan .filter =
        .error (.unsupportedPredicate (.group .or)) ∧
      ∃ predicate node, PushRule.Conjoins [adult, choice] predicate ∧ predicate.Contains node ∧
        table.conditions.Refuses node ∧
        Failure.unsupportedPredicate (.group .or) = .unsupportedPredicate node.form := by
  intro table age adult choice plan
  have obtained : adult.Obtained := .field age (.greaterThan 17)
  have obtained' : choice.Obtained :=
    .and obtained (.or (.negate (.field age (.between 5 1))) (.field age (.oneOf [])))
  have both : ∀ predicate, .filter predicate ∈ plan.pipeline.stages → predicate.Obtained := by
    intro predicate present
    rcases List.mem_pair.mp present with same | same
    · exact Stage.filter.inj same ▸ obtained
    · exact Stage.filter.inj same ▸ obtained'
  obtain ⟨lowering, pushing⟩ := refused_only_for_missing_nodes table.conditions
  exact ⟨obtained', rfl, (lowering choice obtained').2.2 _ rfl, rfl, pushing plan both _ rfl⟩

end Pushdown
