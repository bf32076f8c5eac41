import Pushdown.Proofs.Plan.Course
import Pushdown.RowStream

/-! # Runs and close handlers

A run takes the stages and the terminal of a pipeline and never looks at its close handlers:
with other handlers it is the same run. It keeps the terminal, so its output, if there is one,
is of the terminal's making.
-/

namespace Pushdown

variable {ρ κ ν μ Note α : Type}

/-- The pipeline with other close handlers. -/
def Pipeline.withHandlers (pipeline : Pipeline Note α) (handlers : List (CloseHandler Note)) :
    Pipeline Note α :=
  { pipeline with closeHandlers := handlers }

/-- The plan with other close handlers. -/
def Plan.withHandlers (plan : Plan κ Note α) (handlers : List (CloseHandler Note)) :
    Plan κ Note α :=
  { plan with pipeline := plan.pipeline.withHandlers handlers }

/-! ## Other handlers -/

theorem Plan.stages_withHandlers (plan : Plan κ Note α) (handlers : List (CloseHandler Note)) :
    (plan.withHandlers handlers).pipeline.stages = plan.pipeline.stages := rfl

theorem Plan.query_withHandlers (plan : Plan κ Note α) (handlers : List (CloseHandler Note)) :
    (plan.withHandlers handlers).query = plan.query := rfl

theorem Simplification.applyAll_withHandlers (chosen : List Simplification)
    (pipeline : Pipeline Note α) (handlers : List (CloseHandler Note)) :
    applyAll chosen (pipeline.withHandlers handlers) =
      (applyAll chosen pipeline).withHandlers handlers := by
  induction chosen generalizing pipeline with
  | nil => rfl
  | cons simplification rest hyp =>
      have once : simplification.apply (pipeline.withHandlers handlers) =
          (simplification.apply pipeline).withHandlers handlers := by
        cases simplification <;> rfl
      change applyAll rest (simplification.apply (pipeline.withHandlers handlers)) = _
      rw [once, hyp]
      rfl

namespace PushRule

variable [BackendQuery κ ν] {builder : ConditionBuilder ν}

theorem pushFilter_withHandlers (plan : Plan κ Note α) (handlers : List (CloseHandler Note)) :
    pushFilter builder (plan.withHandlers handlers) =
      (pushFilter builder plan).map (·.withHandlers handlers) := by
  unfold pushFilter
  rw [Plan.stages_withHandlers, Plan.query_withHandlers]
  split
  · rfl
  · dsimp only
    cases conjunction? (leadingPredicates plan.pipeline.stages).1 with
    | none => rfl
    | some predicate =>
        dsimp only
        cases builder.lower predicate with
        | error failure => rfl
        | ok condition => rfl

theorem pushSort_withHandlers (plan : Plan κ Note α) (handlers : List (CloseHandler Note)) :
    pushSort (plan.withHandlers handlers) = (pushSort plan).withHandlers handlers := by
  unfold pushSort
  rw [Plan.stages_withHandlers, Plan.query_withHandlers]
  split
  · rfl
  · split
    · rfl
    · rfl

theorem pushSlice_withHandlers (plan : Plan κ Note α) (handlers : List (CloseHandler Note)) :
    pushSlice (plan.withHandlers handlers) = (pushSlice plan).withHandlers handlers := by
  unfold pushSlice
  rw [Plan.stages_withHandlers, Plan.query_withHandlers]
  split
  · rfl
  · split
    · rfl
    · rfl
    · rfl

theorem pushCount_withHandlers (plan : Plan κ Note α) (handlers : List (CloseHandler Note)) :
    pushCount (plan.withHandlers handlers) = (pushCount plan).withHandlers handlers := by
  have same : onlyCounts (plan.withHandlers handlers) = onlyCounts plan := rfl
  rw [pushCount, pushCount, same]
  split
  · rfl
  · rfl

/-- A rule does not look at close handlers. -/
theorem apply_withHandlers (rule : PushRule) (plan : Plan κ Note α)
    (handlers : List (CloseHandler Note)) :
    rule.apply builder (plan.withHandlers handlers) =
      (rule.apply builder plan).map (·.withHandlers handlers) := by
  cases rule with
  | filter => exact pushFilter_withHandlers plan handlers
  | sort => exact congrArg Except.ok (pushSort_withHandlers plan handlers)
  | slice => exact congrArg Except.ok (pushSlice_withHandlers plan handlers)
  | count => exact congrArg Except.ok (pushCount_withHandlers plan handlers)

theorem applyAll_withHandlers (rules : List PushRule) (plan : Plan κ Note α)
    (handlers : List (CloseHandler Note)) :
    applyAll builder rules (plan.withHandlers handlers) =
      (applyAll builder rules plan).map (·.withHandlers handlers) := by
  induction rules generalizing plan with
  | nil => rfl
  | cons rule rest hyp =>
      unfold applyAll at hyp ⊢
      rw [List.foldlM_cons, List.foldlM_cons, apply_withHandlers]
      cases rule.apply builder plan with
      | error failure => rfl
      | ok next => exact hyp next

end PushRule

namespace Runner

variable (runner : Runner ρ κ ν)

theorem simplify_withHandlers (pipeline : Pipeline Note (Element ρ μ))
    (handlers : List (CloseHandler Note)) :
    runner.simplify (pipeline.withHandlers handlers) =
      (runner.simplify pipeline).withHandlers handlers :=
  Simplification.applyAll_withHandlers _ pipeline handlers

variable [BackendQuery κ ν]

theorem compile_withHandlers (pipeline : Pipeline Note (Element ρ μ))
    (handlers : List (CloseHandler Note)) (source : StreamSource) :
    runner.compile (pipeline.withHandlers handlers) source =
      (runner.compile pipeline source).map (·.withHandlers handlers) := by
  have same : (pipeline.withHandlers handlers).runnable = pipeline.runnable := rfl
  rw [compile, compile, same]
  cases pipeline.runnable with
  | error failure => rfl
  | ok terminal =>
      dsimp only
      rw [← PushRule.applyAll_withHandlers, simplify_withHandlers]
      rfl

variable [Entity ρ]

/-- A run does not look at close handlers. -/
theorem run_withHandlers (pipeline : Pipeline Note (Element ρ μ))
    (handlers : List (CloseHandler Note)) (source : StreamSource) :
    runner.run (pipeline.withHandlers handlers) source = runner.run pipeline source := by
  have compiles := runner.compile_withHandlers pipeline handlers source
  cases compiled : runner.compile pipeline source with
  | error failure =>
      rw [compiled] at compiles
      rw [run_of_failure compiled, run_of_failure compiles]
      rfl
  | ok plan =>
      rw [compiled] at compiles
      rw [run_of_plan compiled, run_of_plan compiles, simplify_withHandlers]
      rfl

theorem terminal_of_receive {plan : Plan κ Note (Element ρ μ)}
    {answer : Except String (QueryAnswer ρ)} {delivery : Delivery Note (Element ρ μ)}
    (received : receive plan answer = .ok delivery) :
    plan.pipeline.terminal = some delivery.terminal := by
  unfold receive at received
  split at received
  · cases received
  · cases received
  · rename_i found
    split at received
    · cases received
    · cases received
      exact found
  · rename_i found
    split at received
    · cases received
      exact found
    · cases received

/-- A run delivers to the terminal of its pipeline. -/
theorem terminal_of_run {pipeline : Pipeline Note (Element ρ μ)} {source : StreamSource}
    {delivery : Delivery Note (Element ρ μ)}
    (delivered : (runner.run pipeline source).outcome = .ok delivery) :
    pipeline.terminal = some delivery.terminal := by
  cases compiled : runner.compile pipeline source with
  | error failure =>
      rw [run_of_failure compiled] at delivered
      cases delivered
  | ok plan =>
      rw [run_of_plan compiled] at delivered
      rw [← terminal_of_compile compiled]
      exact terminal_of_receive delivered

end Runner

/-! ## Outcomes -/

theorem Delivery.finish_cases (delivery : Delivery Note α) :
    (∃ failure, delivery.finish = ⟨[], .error failure⟩) ∨
      (delivery.terminal = .count ∧ ∃ count, delivery.finish = ⟨[], .ok (.count count)⟩) ∨
      ∃ flow, delivery.finish = (delivery.terminal.consume flow).map .ok := by
  unfold finish
  split
  · rename_i counts
    exact .inr (.inl ⟨counts, _, rfl⟩)
  · exact .inl ⟨_, rfl⟩
  · exact .inr (.inr ⟨_, rfl⟩)

/-- A run fails and makes no notes, or it is answered by a count, or its terminal consumes some
flow. -/
theorem RowStream.outcome_cases [Entity ρ] [BackendQuery κ ν] (runner : Runner ρ κ ν)
    (source : StreamSource) {pipeline : Pipeline Note (Element ρ μ)}
    {terminal : Terminal Note (Element ρ μ)} (ended : pipeline.terminal = some terminal) :
    (∃ failure, outcome (runner.run pipeline source) = ⟨[], .error failure⟩) ∨
      (terminal = .count ∧
        ∃ count, outcome (runner.run pipeline source) = ⟨[], .ok (.count count)⟩) ∨
      ∃ flow, outcome (runner.run pipeline source) = (terminal.consume flow).map .ok := by
  unfold outcome
  split
  · exact .inl ⟨_, rfl⟩
  · rename_i delivery delivered
    have same : delivery.terminal = terminal :=
      Option.some.inj ((runner.terminal_of_run delivered).symm.trans ended)
    rw [← same]
    exact delivery.finish_cases

end Pushdown
