import Pushdown.Proofs.Predicate.Lowering
import Pushdown.Proofs.Record
import Pushdown.Table

/-! # What a table's conditions mean

A table evaluates the node of a predicate to the result of the predicate, unknown results
included, whichever of its connectives are switched off. With both connectives it has a
node for every well-formed predicate.
-/

namespace Pushdown

namespace TableCondition

variable {ρ : Type} [Entity ρ]

theorem evaluateAll_eq_map (row : ρ) (conditions : List TableCondition) :
    evaluateAll row conditions = conditions.map (evaluate row) := by
  induction conditions with
  | nil => rfl
  | cons condition rest hyp => rw [evaluateAll, hyp, List.map_cons]

@[simp]
theorem evaluate_group (row : ρ) (connective : Connective) (members : List TableCondition) :
    evaluate row (.group connective members) =
      connective.combine (members.map (evaluate row)) := by
  rw [evaluate, evaluateAll_eq_map]

end TableCondition

namespace Table

variable {ρ : Type} (table : Table ρ)

theorem combine_eq_some {connective : Connective} {members : List TableCondition}
    {condition : TableCondition}
    (combined : table.conditions.combine connective members = some condition) :
    condition = .group connective members := by
  unfold conditions at combined
  cases connective with
  | and =>
      simp only [Option.ite_none_right_eq_some, Option.some.injEq] at combined
      exact combined.2.symm
  | or =>
      simp only [Option.ite_none_right_eq_some, Option.some.injEq] at combined
      exact combined.2.symm

variable [Entity ρ]

/-- The node of a test has the result of the test. -/
theorem test?_evaluate {test : FieldTest} {condition : TableCondition}
    (lowered : table.conditions.test? test = .ok condition) (row : ρ) :
    condition.evaluate row = test.evaluate row := by
  have fits := table.conditions.test?_fits lowered
  obtain ⟨field, kind, operand⟩ := test
  unfold ConditionBuilder.test? at lowered
  simp only [fits] at lowered
  cases operand with
  | value operand =>
      obtain ⟨comparison, compared, constructed⟩ :=
        Option.bind_eq_some_iff.mp (ConditionBuilder.supported_ok lowered)
      obtain rfl := Option.some.inj constructed
      simp only [FieldTest.evaluate, FieldTest.check, compared, Option.bind_some]
      rfl
  | range start stop inclusion =>
      obtain rfl := Option.some.inj (ConditionBuilder.supported_ok lowered)
      simp only [TableCondition.evaluate, TableCondition.signed, FieldTest.evaluate,
        FieldTest.check, decide_eq_true_eq]
  | set values =>
      obtain rfl := Option.some.inj (ConditionBuilder.supported_ok lowered)
      simp only [TableCondition.evaluate, TableCondition.signed, FieldTest.evaluate,
        FieldTest.check, decide_eq_true_eq]

/-- The node of a predicate has the result of the predicate. -/
theorem lower_evaluate {predicate : Predicate} {condition : TableCondition}
    (lowered : table.conditions.lower predicate = .ok condition) (row : ρ) :
    condition.evaluate row = predicate.evaluate row := by
  induction predicate generalizing condition with
  | test leaf => exact table.test?_evaluate lowered row
  | group connective members hyp =>
      obtain ⟨nodes, each, combined⟩ := table.conditions.lower_group_ok_iff.mp lowered
      have paired := (table.conditions.lowerAll_ok_iff members nodes).mp each
      have same : members.map (Predicate.evaluate row) =
          nodes.map (TableCondition.evaluate row) := by
        rw [← List.forall₂_eq_eq_eq, List.forall₂_map_left_iff, List.forall₂_map_right_iff]
        refine ((List.forall₂_and_left _ _).mpr ⟨hyp, paired⟩).imp fun member node both => ?_
        exact (both.1 both.2).symm
      rw [table.combine_eq_some combined, TableCondition.evaluate_group,
        Predicate.evaluate_group, same]

omit [Entity ρ] in
/-- A table has a node for every test whose operand fits its kind. -/
theorem test?_total {test : FieldTest} (fits : test.kind.shape = test.operand.shape) :
    ∃ condition, table.conditions.test? test = .ok condition := by
  obtain ⟨field, kind, operand⟩ := test
  unfold ConditionBuilder.test?
  simp only [fits]
  cases operand with
  | value operand =>
      obtain ⟨comparison, rfl⟩ := FieldTest.Kind.shape_eq_value fits
      simp only [FieldTest.Kind.comparison?_ofComparison, Option.bind_some]
      exact ⟨_, rfl⟩
  | range start stop inclusion => exact ⟨_, rfl⟩
  | set values => exact ⟨_, rfl⟩

omit [Entity ρ] in
/-- A table with both connectives has a node for every well-formed predicate. -/
theorem lower_total (hasAnd : table.hasAnd = true) (hasOr : table.hasOr = true)
    {predicate : Predicate} (formed : predicate.WellFormed) :
    ∃ condition, table.conditions.lower predicate = .ok condition := by
  induction formed with
  | test leaf fits => exact table.test?_total fits
  | group connective members nonempty each hyp =>
      cases lowered : table.conditions.lower (.group connective members) with
      | ok condition => exact ⟨condition, rfl⟩
      | error failure =>
          rcases table.conditions.lower_group_error_iff.mp lowered with deeper | ⟨nodes, -, here, -⟩
          · obtain ⟨member, present, cause⟩ := table.conditions.lowerAll_error deeper
            obtain ⟨condition, found⟩ := hyp member present
            rw [found] at cause
            cases cause
          · cases connective <;> simp [conditions, hasAnd, hasOr] at here

/-- **Lowering keeps the meaning.** Whatever a table can express, the node of a predicate has
the predicate's result on every row, unknown results included. A table that has both
connectives has a node for every well-formed predicate. -/
theorem lowering_keeps_result {predicate : Predicate} (formed : predicate.WellFormed) :
    (∀ condition, table.conditions.lower predicate = .ok condition →
      ∀ row : ρ, condition.evaluate row = predicate.evaluate row) ∧
      (table.hasAnd = true → table.hasOr = true →
        ∃ condition, table.conditions.lower predicate = .ok condition) := by
  refine ⟨fun condition lowered row => table.lower_evaluate lowered row, fun hasAnd hasOr => ?_⟩
  exact table.lower_total hasAnd hasOr formed

/-- A table without disjunction has the node of a range whose start is left out, complemented,
and of a set with a null in it. At the start the former holds, and the latter is unknown. -/
theorem lowering_keeps_result_at_start :
    let table : Table Record := { rows := [], hasOr := false }
    let row : Record := ⟨[("a", .uint 5), ("b", .text "x")]⟩
    let predicate : Predicate := .group .and
      [.test ⟨"a", .notBetween, .range (.int 5) (.int 9) .endOnly⟩,
        .test ⟨"b", .noneOf, .set [.null, .text "y"]⟩]
    predicate.WellFormed ∧ ∃ condition, table.conditions.lower predicate = .ok condition ∧
      condition.evaluate row = predicate.evaluate row ∧ condition.evaluate row = none := by
  intro table row predicate
  have formed : predicate.WellFormed := by decide
  obtain ⟨condition, lowered⟩ :
      ∃ condition, table.conditions.lower predicate = .ok condition := ⟨_, rfl⟩
  have same := (table.lowering_keeps_result formed).1 condition lowered row
  have unknown : predicate.evaluate row = none := by decide
  exact ⟨formed, condition, lowered, same, same.trans unknown⟩

end Table

end Pushdown
