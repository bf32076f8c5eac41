import Pushdown.Proofs.Pipeline.RowStages
import Pushdown.Proofs.Pipeline.Simplifications
import Pushdown.Proofs.Plan.Remainder
import Pushdown.Runner

/-! # What is compiled of a pipeline

A pipeline is compiled when it can be run and the rules succeed on it. The plan keeps the terminal
and has no numeric specialization, so an answer with rows always finds stages to run them through
and a terminal to hand them to.
-/

namespace Pushdown

namespace Pipeline

variable {Note α : Type} {pipeline : Pipeline Note α}

theorem runnable_eq_ok_iff {terminal : Terminal Note α} :
    pipeline.runnable = .ok terminal ↔
      pipeline.target? = none ∧ pipeline.terminal = some terminal := by
  unfold runnable
  cases pipeline.target? <;> cases pipeline.terminal <;> simp

theorem runnable_of_target {target : NumericTarget} (found : pipeline.target? = some target) :
    pipeline.runnable = .error (.unsupportedOperation target) := by
  unfold runnable
  rw [found]

theorem runnable_of_unended (unspecialized : pipeline.target? = none)
    (unended : pipeline.terminal = none) : pipeline.runnable = .error .missingTerminal := by
  unfold runnable
  rw [unspecialized, unended]

end Pipeline

namespace Runner

variable {ρ κ ν μ Note : Type} [BackendQuery κ ν] (runner : Runner ρ κ ν)
  (pipeline : Pipeline Note (Element ρ μ)) (source : StreamSource)

/-- What the rules make of a simplified pipeline in front of a new query. -/
def merge : Except Failure (Plan κ Note (Element ρ μ)) :=
  PushRule.applyAll runner.backend.conditions runner.settings.activeRules
    ⟨runner.simplify pipeline, runner.backend.newQuery source⟩

variable {pipeline source} {plan : Plan κ Note (Element ρ μ)}

theorem compile_of_refused {failure : Failure} (refused : pipeline.runnable = .error failure) :
    runner.compile pipeline source = .error failure := by
  unfold compile
  rw [refused]

theorem compile_of_runnable {terminal : Terminal Note (Element ρ μ)}
    (runnable : pipeline.runnable = .ok terminal) :
    runner.compile pipeline source = runner.merge pipeline source := by
  unfold compile
  rw [runnable]
  rfl

theorem compile_eq_ok_iff :
    runner.compile pipeline source = .ok plan ↔
      (∃ terminal, pipeline.runnable = .ok terminal) ∧ runner.merge pipeline source = .ok plan := by
  cases runnable : pipeline.runnable with
  | error failure =>
      rw [runner.compile_of_refused runnable]
      refine iff_of_false nofun ?_
      rintro ⟨⟨terminal, impossible⟩, -⟩
      cases impossible
  | ok terminal =>
      rw [runner.compile_of_runnable runnable]
      exact ⟨fun merged => ⟨⟨terminal, rfl⟩, merged⟩, And.right⟩

/-! ## What a plan keeps -/

variable {runner} (compiled : runner.compile pipeline source = .ok plan)

include compiled

theorem remains_of_compile :
    Plan.Remains ⟨runner.simplify pipeline, runner.backend.newQuery source⟩ plan :=
  PushRule.applyAll_remains (runner.compile_eq_ok_iff.mp compiled).2

theorem terminal_of_compile : plan.pipeline.terminal = pipeline.terminal := by
  rw [(remains_of_compile compiled).terminal]
  exact Simplification.terminal_applyAll _ pipeline

theorem unspecialized_of_compile : plan.pipeline.target? = none := by
  obtain ⟨⟨terminal, runnable⟩, -⟩ := runner.compile_eq_ok_iff.mp compiled
  obtain ⟨unspecialized, -⟩ := Pipeline.runnable_eq_ok_iff.mp runnable
  apply (remains_of_compile compiled).unspecialized
  exact Simplification.unspecialized_applyAll _ unspecialized

theorem ended_of_compile : ∃ terminal, plan.pipeline.terminal = some terminal := by
  obtain ⟨⟨terminal, runnable⟩, -⟩ := runner.compile_eq_ok_iff.mp compiled
  obtain ⟨-, ended⟩ := Pipeline.runnable_eq_ok_iff.mp runnable
  exact ⟨terminal, (terminal_of_compile compiled).trans ended⟩

omit compiled

/-! ## Answers -/

variable [Entity ρ] {terminal : Terminal Note (Element ρ μ)}

theorem receive_rows (unspecialized : plan.pipeline.target? = none)
    (ended : plan.pipeline.terminal = some terminal) (rows : List ρ) :
    receive plan (.ok (.rows rows)) =
      .ok ⟨.elements (Stage.runAll plan.pipeline.stages (.ofRows rows)), terminal⟩ := by
  unfold receive
  rw [ended, unspecialized]
  rfl

theorem receive_counts (ended : plan.pipeline.terminal = some terminal) (counts : List Count) :
    receive (ρ := ρ) plan (.ok (.counts counts)) =
      if BackendQuery.isCount plan.query && plan.pipeline.stages.isEmpty then
        .ok ⟨.counts counts, terminal⟩
      else .error .countsForRows := by
  unfold receive
  rw [ended]

end Runner

end Pushdown
