import Mathlib.Algebra.Group.Nat.Defs
import Pushdown.Proofs.Plan.Compiling

/-! # The course of a run

A run is settled by two answers: what is compiled of the pipeline, and what the backend says to
the query of that plan. The backend is asked once where there is a plan and otherwise never, an
observer is told how far the run came, and once the backend has been asked only its own failure
or counts that nobody asked for can end the run.
-/

namespace Pushdown

namespace Runner

variable {ρ κ ν μ Note : Type} [Entity ρ] [BackendQuery κ ν] {runner : Runner ρ κ ν}
  {pipeline : Pipeline Note (Element ρ μ)} {source : StreamSource}
  {plan : Plan κ Note (Element ρ μ)}

/-! ## The two courses -/

theorem course_of_failure {failure : Failure}
    (refused : runner.compile pipeline source = .error failure) (asked : List κ) :
    (runner.course pipeline source).run asked =
      (([.start (Entity.name ρ) (RunEvent.size pipeline.stages.length),
          .error (Entity.name ρ) failure.kind failure.origin], .error failure), asked) := by
  unfold course
  rw [refused]
  rfl

theorem course_of_plan (compiled : runner.compile pipeline source = .ok plan) (asked : List κ) :
    (runner.course pipeline source).run asked =
      (([.start (Entity.name ρ) (RunEvent.size pipeline.stages.length),
          mergedEvent (runner.simplify pipeline) plan,
          lastEvent (receive plan (runner.backend.execute plan.query))],
        receive plan (runner.backend.execute plan.query)), asked ++ [plan.query]) := by
  unfold course
  rw [compiled]
  rfl

theorem run_of_failure {failure : Failure}
    (refused : runner.compile pipeline source = .error failure) :
    runner.run pipeline source =
      { events := if runner.observed then
          [.start (Entity.name ρ) (RunEvent.size pipeline.stages.length),
            .error (Entity.name ρ) failure.kind failure.origin] else []
        executed := []
        outcome := .error failure } := by
  unfold run
  rw [course_of_failure refused]

theorem run_of_plan (compiled : runner.compile pipeline source = .ok plan) :
    runner.run pipeline source =
      { events := if runner.observed then
          [.start (Entity.name ρ) (RunEvent.size pipeline.stages.length),
            mergedEvent (runner.simplify pipeline) plan,
            lastEvent (receive plan (runner.backend.execute plan.query))] else []
        executed := [plan.query]
        outcome := receive plan (runner.backend.execute plan.query) } := by
  unfold run
  rw [course_of_plan compiled, List.nil_append]

/-- Whatever was asked before, a run asks its own queries behind it. -/
theorem log_course (runner : Runner ρ κ ν) (pipeline : Pipeline Note (Element ρ μ))
    (source : StreamSource) (asked : List κ) :
    ((runner.course pipeline source).run asked).2 =
      asked ++ (runner.run pipeline source).executed := by
  cases compiled : runner.compile pipeline source with
  | error failure => rw [course_of_failure compiled, run_of_failure compiled, List.append_nil]
  | ok plan => rw [course_of_plan compiled, run_of_plan compiled]

theorem executed_eq_nil_iff :
    (runner.run pipeline source).executed = [] ↔
      ∃ failure, runner.compile pipeline source = .error failure := by
  cases compiled : runner.compile pipeline source with
  | error failure =>
      rw [run_of_failure compiled]
      exact iff_of_true rfl ⟨failure, rfl⟩
  | ok plan =>
      rw [run_of_plan compiled]
      exact iff_of_false nofun nofun

/-- The backend has been asked a query just when there is a plan with that query. -/
theorem executed_eq_singleton_iff {query : κ} :
    (runner.run pipeline source).executed = [query] ↔
      ∃ plan, runner.compile pipeline source = .ok plan ∧ plan.query = query := by
  cases compiled : runner.compile pipeline source with
  | error failure =>
      rw [run_of_failure compiled]
      exact iff_of_false nofun nofun
  | ok plan =>
      rw [run_of_plan compiled, List.cons.injEq]
      constructor
      · rintro ⟨same, -⟩
        exact ⟨plan, rfl, same⟩
      · rintro ⟨other, found, same⟩
        cases found
        exact ⟨same, rfl⟩

/-- The backend is asked at most once. -/
theorem length_executed_le (runner : Runner ρ κ ν) (pipeline : Pipeline Note (Element ρ μ))
    (source : StreamSource) : (runner.run pipeline source).executed.length ≤ 1 := by
  cases compiled : runner.compile pipeline source with
  | error failure =>
      rw [run_of_failure compiled]
      exact Nat.zero_le 1
  | ok plan =>
      rw [run_of_plan compiled]
      exact Nat.le_refl 1

theorem length_executed_eq_one_iff :
    (runner.run pipeline source).executed.length = 1 ↔
      (∀ stage ∈ pipeline.stages, stage.target? = none) ∧
        (∃ terminal, pipeline.terminal = some terminal) ∧
        ∃ plan, runner.merge pipeline source = .ok plan := by
  rw [← List.findSome?_eq_none_iff, List.length_eq_one_iff]
  simp only [executed_eq_singleton_iff, compile_eq_ok_iff, Pipeline.runnable_eq_ok_iff]
  constructor
  · rintro ⟨query, plan, ⟨⟨terminal, unspecialized, ended⟩, merged⟩, -⟩
    exact ⟨unspecialized, ⟨terminal, ended⟩, plan, merged⟩
  · rintro ⟨unspecialized, ⟨terminal, ended⟩, plan, merged⟩
    exact ⟨plan.query, plan, ⟨⟨terminal, unspecialized, ended⟩, merged⟩, rfl⟩

/-! ## Stages in events -/

omit [Entity ρ] [BackendQuery κ ν] in
/-- A number within 32 bits stands in an event as it is. -/
theorem size_of_fits {number : Nat} (fits : number < 2 ^ 32) : RunEvent.size number = number :=
  Nat.min_eq_left (Nat.le_sub_one_of_lt fits)

/-- The stages pushed and the stages left are those that the simplifications have kept, and these
are no more than there were. -/
theorem counted_of_merged (compiled : runner.compile pipeline source = .ok plan)
    (fits : pipeline.stages.length < 2 ^ 32) {root : String} {pushed residual : Nat}
    {counting : Bool}
    (merged : mergedEvent (runner.simplify pipeline) plan = .merged root pushed residual counting) :
    pushed + residual = (runner.simplify pipeline).stages.length ∧
      pushed + residual ≤ pipeline.stages.length := by
  have left : plan.pipeline.stages.length ≤ (runner.simplify pipeline).stages.length :=
    (remains_of_compile compiled).suffix.length_le
  have kept : (runner.simplify pipeline).stages.length ≤ pipeline.stages.length :=
    Simplification.length_applyAll_le _ pipeline
  unfold mergedEvent at merged
  rw [size_of_fits (by omega), size_of_fits (by omega)] at merged
  cases merged
  omega

/-! ## Answers -/

/-- What may end a run once the backend has been asked. -/
theorem failure_of_receive (compiled : runner.compile pipeline source = .ok plan)
    {answer : Except String (QueryAnswer ρ)} {failure : Failure}
    (failed : receive plan answer = .error failure) :
    (∃ cause, answer = .error cause ∧ failure = .backend cause) ∨
      (∃ counts, answer = .ok (.counts counts) ∧ failure = .countsForRows) := by
  obtain ⟨terminal, ended⟩ := ended_of_compile compiled
  have unspecialized := unspecialized_of_compile compiled
  cases answer with
  | error cause =>
      cases failed
      exact .inl ⟨cause, rfl, rfl⟩
  | ok answer =>
      cases answer with
      | rows rows =>
          rw [receive_rows unspecialized ended] at failed
          cases failed
      | counts counts =>
          rw [receive_counts ended] at failed
          split at failed
          · cases failed
          · cases failed
            exact .inr ⟨counts, rfl, rfl⟩

/-! ## Runs -/

theorem start_ne_lastEvent {root : String} {stages : Nat}
    (outcome : Except Failure (Delivery Note (Element ρ μ))) :
    RunEvent.start root stages ≠ lastEvent outcome := by
  cases outcome with
  | error failure => exact nofun
  | ok delivery => exact nofun

theorem merged_ne_lastEvent {root : String} {pushed residual : Nat} {counting : Bool}
    (outcome : Except Failure (Delivery Note (Element ρ μ))) :
    RunEvent.merged root pushed residual counting ≠ lastEvent outcome := by
  cases outcome with
  | error failure => exact nofun
  | ok delivery => exact nofun

theorem counted_of_seen (fits : pipeline.stages.length < 2 ^ 32) {root : String}
    {pushed residual : Nat} {counting : Bool}
    (seen : .merged root pushed residual counting ∈ (runner.run pipeline source).events) :
    pushed + residual = (runner.simplify pipeline).stages.length ∧
      ∀ started, .start root started ∈ (runner.run pipeline source).events →
        pushed + residual ≤ started := by
  cases compiled : runner.compile pipeline source with
  | error failure =>
      rw [run_of_failure compiled] at seen
      cases watched : runner.observed <;> simp [watched] at seen
  | ok plan =>
      rw [run_of_plan compiled] at seen ⊢
      cases watched : runner.observed with
      | false => simp [watched] at seen
      | true =>
          rw [watched, if_pos rfl, List.mem_cons, List.mem_cons, List.mem_singleton] at seen
          rcases seen with start | merged | ended
          · cases start
          · obtain ⟨whole, fewer⟩ := counted_of_merged compiled fits merged.symm
            refine ⟨whole, fun started begun => ?_⟩
            rw [if_pos rfl, List.mem_cons, List.mem_cons, List.mem_singleton] at begun
            rcases begun with start | merged | ended
            · cases start
              rw [size_of_fits fits]
              exact fewer
            · cases merged
            · exact absurd ended (start_ne_lastEvent _)
          · exact absurd ended (merged_ne_lastEvent _)

/-- What a run asks of its backend, what it comes to, and what an observer sees of it. -/
structure LawfulCourse (runner : Runner ρ κ ν) (pipeline : Pipeline Note (Element ρ μ))
    (source : StreamSource) (run : Run κ Note (Element ρ μ)) : Prop where
  /-- What it asks is logged as it is asked, behind whatever was asked before. -/
  logged (asked : List κ) :
    ((runner.course pipeline source).run asked).2 = asked ++ run.executed
  /-- The backend is asked at most once, -/
  asked_once : run.executed.length ≤ 1
  /-- and it is asked just where no stage is a numeric specialization, there is a terminal, and
  the rules succeed. -/
  asked_iff : run.executed.length = 1 ↔
    (∀ stage ∈ pipeline.stages, stage.target? = none) ∧
      (∃ terminal, pipeline.terminal = some terminal) ∧
      ∃ plan, runner.merge pipeline source = .ok plan
  /-- The first numeric specialization is refused, whether or not there is a terminal. -/
  specialized (before after : List (Stage Note (Element ρ μ))) (target : NumericTarget)
      (parts : pipeline.stages = before ++ .mapToNumeric target :: after)
      (first : ∀ stage ∈ before, stage.target? = none) :
    ∃ failure, run.outcome = .error failure ∧ failure = .unsupportedOperation target ∧
      failure.detail? = some (.unsupportedOperation target.operation)
  unended (unspecialized : ∀ stage ∈ pipeline.stages, stage.target? = none)
      (unended : pipeline.terminal = none) : run.outcome = .error .missingTerminal
  /-- What is not compiled is not run, for the same reason. -/
  refused (failure : Failure) (refused : runner.compile pipeline source = .error failure) :
    run.executed = [] ∧ run.outcome = .error failure
  /-- What is compiled is what is run: the query of the plan is asked, and the rows go through
  the stages of the plan to the terminal of the pipeline. -/
  compiled (plan : Plan κ Note (Element ρ μ))
      (compiled : runner.compile pipeline source = .ok plan) :
    run.executed = [plan.query] ∧ ∃ terminal, pipeline.terminal = some terminal ∧
      run.outcome =
        match runner.backend.execute plan.query with
        | .error cause => .error (.backend cause)
        | .ok (.rows rows) =>
            .ok ⟨.elements (Stage.runAll plan.pipeline.stages (.ofRows rows)), terminal⟩
        | .ok (.counts counts) =>
            if BackendQuery.isCount plan.query && plan.pipeline.stages.isEmpty then
              .ok ⟨.counts counts, terminal⟩
            else .error .countsForRows
  /-- Once the backend has been asked, two failures are left: its own, and counts that were not
  asked for. -/
  failures (query : κ) (asked : run.executed = [query]) (failure : Failure)
      (failed : run.outcome = .error failure) :
    (∃ cause, runner.backend.execute query = .error cause ∧ failure = .backend cause) ∨
      ∃ counts, runner.backend.execute query = .ok (.counts counts) ∧ failure = .countsForRows
  unobserved (hidden : runner.observed = false) : run.events = []
  /-- An observer sees the start and the failure of a run that has not asked the backend, -/
  idle_events (observed : runner.observed = true) (idle : run.executed = []) :
    ∃ failure, run.outcome = .error failure ∧
      run.events =
        [.start (Entity.name ρ) (RunEvent.size pipeline.stages.length),
          .error (Entity.name ρ) failure.kind failure.origin]
  /-- and otherwise the start, the stages pushed and left, and an end that tells the outcome. -/
  asked_events (observed : runner.observed = true) (plan : Plan κ Note (Element ρ μ))
      (compiled : runner.compile pipeline source = .ok plan) :
    ∃ pushed last,
      run.events =
        [.start (Entity.name ρ) (RunEvent.size pipeline.stages.length),
          .merged (Entity.name ρ) pushed (RunEvent.size plan.pipeline.stages.length)
            (BackendQuery.isCount plan.query),
          last] ∧
      (∀ delivery, run.outcome = .ok delivery →
        last = .finish (Entity.name ρ) delivery.isCount) ∧
      (∀ failure, run.outcome = .error failure →
        last = .error (Entity.name ρ) failure.kind failure.origin) ∧
      ((∃ counting, last = .finish (Entity.name ρ) counting) ↔
        ∃ delivery, run.outcome = .ok delivery)
  /-- Stages pushed and stages left are those that the simplifications have kept. -/
  counted (fits : pipeline.stages.length < 2 ^ 32) (pushed residual : Nat) (counting : Bool)
      (seen : .merged (Entity.name ρ) pushed residual counting ∈ run.events) :
    pushed + residual = (runner.simplify pipeline).stages.length ∧
      ∀ started, .start (Entity.name ρ) started ∈ run.events → pushed + residual ≤ started

/-- **A run asks once.** Every run takes a lawful course, whatever the backend, the settings and
the pipeline are. -/
theorem run_lawful (runner : Runner ρ κ ν) (pipeline : Pipeline Note (Element ρ μ))
    (source : StreamSource) :
    LawfulCourse runner pipeline source (runner.run pipeline source) := by
  constructor
  case logged => exact log_course runner pipeline source
  case asked_once => exact length_executed_le runner pipeline source
  case asked_iff => exact length_executed_eq_one_iff
  case specialized =>
    intro before after target parts first
    have found : pipeline.target? = some target := by
      unfold Pipeline.target?
      rw [parts, List.findSome?_append, List.findSome?_eq_none_iff.mpr first]
      rfl
    have refused : runner.compile pipeline source = .error (.unsupportedOperation target) :=
      runner.compile_of_refused (Pipeline.runnable_of_target found)
    rw [run_of_failure refused]
    exact ⟨_, rfl, rfl, rfl⟩
  case unended =>
    intro unspecialized unended
    have none : pipeline.target? = none := List.findSome?_eq_none_iff.mpr unspecialized
    have refused : runner.compile pipeline source = .error .missingTerminal :=
      runner.compile_of_refused (Pipeline.runnable_of_unended none unended)
    rw [run_of_failure refused]
  case refused =>
    intro failure refused
    rw [run_of_failure refused]
    exact ⟨rfl, rfl⟩
  case compiled =>
    intro plan compiled
    obtain ⟨terminal, ended⟩ := ended_of_compile compiled
    rw [run_of_plan compiled]
    refine ⟨rfl, terminal, (terminal_of_compile compiled).symm.trans ended, ?_⟩
    dsimp only
    rcases runner.backend.execute plan.query with cause | ⟨rows⟩ | ⟨counts⟩
    · rfl
    · exact receive_rows (unspecialized_of_compile compiled) ended rows
    · exact receive_counts ended counts
  case failures =>
    intro query asked failure failed
    obtain ⟨plan, compiled, rfl⟩ := executed_eq_singleton_iff.mp asked
    rw [run_of_plan compiled] at failed
    exact failure_of_receive compiled failed
  case unobserved =>
    intro hidden
    cases compiled : runner.compile pipeline source with
    | error failure => rw [run_of_failure compiled, hidden]; rfl
    | ok plan => rw [run_of_plan compiled, hidden]; rfl
  case idle_events =>
    intro observed idle
    obtain ⟨failure, refused⟩ := executed_eq_nil_iff.mp idle
    rw [run_of_failure refused, observed]
    exact ⟨failure, rfl, rfl⟩
  case asked_events =>
    intro observed plan compiled
    rw [run_of_plan compiled, observed]
    refine ⟨_, _, rfl, ?_⟩
    dsimp only
    cases receive plan (runner.backend.execute plan.query) with
    | error failure => simp [lastEvent]
    | ok delivery => simp [lastEvent]
  case counted => exact fun fits pushed residual counting seen => counted_of_seen fits seen

end Runner

end Pushdown
