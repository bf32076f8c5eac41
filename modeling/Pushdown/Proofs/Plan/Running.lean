import Pushdown.Proofs.Pipeline.TerminalTraces
import Pushdown.Proofs.Plan.Counting
import Pushdown.Proofs.Plan.Pushing
import Pushdown.RowStream

/-! # What a run over a table comes to

The outcome of a run is what the terminal makes of the flow of its plan, a count by the
table included. Settings choose the plan alone, and all plans of a pipeline have one trace:
so nothing but a refused predicate tells settings apart.
-/

namespace Pushdown

/-- The settings that change nothing: every stage runs in process. -/
def Settings.plain : Settings where
  simplifications := []
  pushRules := []

/-- A count of rows and no notes are what counting in process comes to as well. -/
theorem Terminal.consume_count_ofRows {ρ μ Note : Type} (rows : List ρ) :
    Terminal.count.consume (.ofRows rows : Flow Note (Element ρ μ)) =
      ⟨[], .count (.ofNat rows.length)⟩ := by
  rw [consume, Flow.drain_eq, Stage.notes_ofRows, Stage.elements_ofRows, Noted.map,
    List.length_map]

namespace Table

open Plan

variable {ρ μ Note : Type} [Entity ρ] (table : Table ρ) (settings : Settings) (observed : Bool)
  (source : StreamSource) {pipeline : Pipeline Note (Element ρ μ)}
  {terminal : Terminal Note (Element ρ μ)}

/-- The runner over a table. -/
def runner : Runner ρ TableQuery TableCondition :=
  ⟨table.backend, settings, observed⟩

/-- The notes and the output of a run over a table. -/
def outcome (pipeline : Pipeline Note (Element ρ μ)) :
    Noted Note (Except Failure (Output Note (Element ρ μ))) :=
  RowStream.outcome ((table.runner settings observed).run pipeline source)

/-- What is compiled of a pipeline: its simplification before a query that has just been
made. -/
def start (pipeline : Pipeline Note (Element ρ μ)) : Plan TableQuery Note (Element ρ μ) :=
  ⟨Simplification.applyAll settings.simplifications pipeline, table.backend.newQuery source⟩

/-! ## Compiling -/

/-- A pipeline that can be run is compiled by the rules alone. -/
theorem compile_eq (ended : pipeline.terminal = some terminal)
    (unspecialized : pipeline.target? = none) :
    (table.runner settings observed).compile pipeline source =
      PushRule.applyAll table.conditions settings.activeRules
        (table.start settings source pipeline) := by
  unfold Runner.compile Pipeline.runnable
  rw [ended, unspecialized]
  rfl

/-- A query that has just been made asks for all rows. -/
theorem select_newQuery (rows : List ρ) :
    (table.backend.newQuery source).select rows = rows := by
  change Window.everything.apply
    (sortedBy (SortKey.compareBy []) (rows.filter fun _ => true)) = rows
  rw [List.filter_true, TableQuery.sortedBy_noKeys]
  exact Window.apply_of_not_isBounded rfl rows

theorem flow_start :
    (table.start settings source pipeline).flow table.rows =
      Stage.runAll (Simplification.applyAll settings.simplifications pipeline).stages
        (.ofRows table.rows) := by
  rw [flow, start, select_newQuery]

/-! ## Outcomes -/

variable {table settings observed source}

/-- The outcome of a compiled plan is what its terminal makes of its flow. -/
theorem outcome_of_plan (working : table.failure = none)
    {plan : Plan TableQuery Note (Element ρ μ)}
    (compiled : (table.runner settings observed).compile pipeline source = .ok plan)
    (ended : plan.pipeline.terminal = some terminal) (alone : plan.CountsAlone) :
    table.outcome settings observed source pipeline =
      (terminal.consume (plan.flow table.rows)).map .ok := by
  cases counts : plan.query.counting with
  | false => exact Runner.outcome_of_rows compiled (table.execute_rows working counts) ended
  | true =>
      obtain ⟨counted, nothing⟩ := alone counts
      obtain rfl := Option.some.inj (ended.symm.trans counted)
      have answer : table.outcome settings observed source pipeline = _ :=
        Runner.outcome_of_counts compiled (table.execute_counts working counts)
          ⟨counts, nothing, ended⟩
      rw [answer, flow, nothing, Stage.runAll_nil, Terminal.consume_count_ofRows,
        Count.sum_singleton]
      rfl

theorem outcome_of_failure {failure : Failure}
    (refused : (table.runner settings observed).compile pipeline source = .error failure) :
    table.outcome settings observed source pipeline = ⟨[], .error failure⟩ :=
  Runner.outcome_of_failure refused

/-! ## Settings -/

/-- **Settings are unobservable.** Whatever is simplified and pushed, a run over a table that
works comes to what it comes to when every stage runs in process, as long as no sequence is
longer than a count can tell. Only a table without both connectives may refuse a predicate
instead. Where peeks are removed, this is what an observer sees who refuses their notes. -/
theorem outcome_agrees_with_plain (table : Table ρ) (working : table.failure = none)
    (settings : Settings) (observed observed' : Bool) (source : StreamSource)
    (ended : pipeline.terminal = some terminal) (unspecialized : pipeline.target? = none)
    (formed : ∀ predicate, .filter predicate ∈ pipeline.stages → predicate.WellFormed)
    (countable : Stage.Countable pipeline.stages (.ofRows table.rows)) :
    ∃ expected : Noted Note (Output Note (Element ρ μ)),
      table.outcome .plain observed' source pipeline = expected.map .ok ∧
        ((∃ form, table.outcome settings observed source pipeline =
              ⟨[], .error (.unsupportedPredicate form)⟩ ∧
            ¬(table.hasAnd = true ∧ table.hasOr = true)) ∨
          ∃ result : Noted Note (Output Note (Element ρ μ)),
            table.outcome settings observed source pipeline = result.map .ok ∧
              ∀ keep, (.removePeek ∈ settings.simplifications →
                  ∀ stage ∈ pipeline.stages, stage.Silent keep) →
                result.Alike keep expected) := by
  have bounded : table.rows.length ≤ Count.largest := by
    have counted := countable.length_le
    rw [Stage.elements_ofRows, List.length_map] at counted
    exact counted
  have ended' : (table.start settings source pipeline).pipeline.terminal = some terminal :=
    (Simplification.terminal_applyAll settings.simplifications pipeline).trans ended
  have formed' : ∀ stage ∈ (table.start settings source pipeline).pipeline.stages,
      ∀ predicate, stage = .filter predicate → predicate.WellFormed := by
    apply Simplification.forall_applyAll
    · exact fun count predicate same => nomatch same
    · exact fun count predicate same => nomatch same
    · exact fun stage member predicate same => formed predicate (same ▸ member)
  refine ⟨terminal.consume (Stage.runAll pipeline.stages (.ofRows table.rows)), ?_, ?_⟩
  · rw [outcome_of_plan working (table.compile_eq .plain observed' source ended unspecialized)
      ended fun counts => Bool.noConfusion counts]
    rw [flow_start]
    rfl
  · have compiled := table.compile_eq settings observed source ended unspecialized
    cases pushed : PushRule.applyAll table.conditions settings.activeRules
        (table.start settings source pipeline) with
    | error failure =>
        left
        obtain ⟨⟨form, rfl⟩, incomplete⟩ := PushRule.applyAll_error bounded
          (fun predicate present => formed' _ present predicate rfl) pushed
        exact ⟨form, outcome_of_failure (compiled.trans pushed), incomplete⟩
    | ok plan =>
        right
        have kept := PushRule.applyAll_pushedTo bounded settings.activeRules pushed
        have alone : plan.CountsAlone := kept.counting fun counts => Bool.noConfusion counts
        refine ⟨_, outcome_of_plan working (compiled.trans pushed) (kept.terminal.trans ended')
          alone, fun keep silent => Terminal.consume_congr ?_ terminal⟩
        rw [kept.trace keep, flow_start]
        exact (Simplification.faithful_applyAll settings.simplifications silent countable).trace

/-- Under the default settings the peeks are gone and the actions at the end are the same. -/
theorem outcome_agrees_with_plain_forEach :
    let table : Table Record := { rows := [⟨[("n", .int 2)]⟩, ⟨[]⟩, ⟨[("n", .int 1)]⟩] }
    let pipeline : Pipeline String (Element Record Empty) :=
      { stages :=
          [.filter (.test ⟨"n", .greaterThan, .value (.int 0)⟩), .peek fun _ => "seen", .skip 1]
        terminal := some (.forEach fun _ => "done") }
    ∃ expected result : Noted String (Output String (Element Record Empty)),
      table.outcome .plain false {} pipeline = expected.map .ok ∧
        table.outcome {} true {} pipeline = result.map .ok ∧
        result.notes.filter (· != "seen") = expected.notes.filter (· != "seen") := by
  intro table pipeline
  have formed (predicate : Predicate) (present : .filter predicate ∈ pipeline.stages) :
      predicate.WellFormed := by
    simp only [pipeline, List.mem_cons, Stage.filter.injEq, reduceCtorEq, List.not_mem_nil,
      or_false] at present
    obtain rfl := present
    exact .test _ rfl
  have countable : Stage.Countable pipeline.stages (.ofRows table.rows) := by
    simp only [pipeline, Stage.countable_cons, Stage.countable_nil]
    decide
  obtain ⟨expected, plain, ⟨-, -, incomplete⟩ | ⟨result, chosen, alike⟩⟩ :=
    table.outcome_agrees_with_plain rfl {} true false {} rfl rfl formed countable
  · exact absurd ⟨rfl, rfl⟩ incomplete
  · refine ⟨expected, result, plain, chosen, (alike (· != "seen") fun _ => ?_).notes⟩
    simp [pipeline, Stage.Silent]

end Table

end Pushdown
