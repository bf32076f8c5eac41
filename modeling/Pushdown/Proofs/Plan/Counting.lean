import Pushdown.Proofs.Plan.Course
import Pushdown.Proofs.Plan.Selection
import Pushdown.Proofs.Record
import Pushdown.RowStream

/-! # Counts in place of rows

A backend may answer any query with counts, asked for or not. They are added up just where the
query was to count, no stage is left and the terminal counts; anywhere else they are refused, and
no wrong number comes of them. A query on a table that did not count at first has come to count by
the rule for it alone, which asks the table only when everything else has been pushed and nothing
is cut. From then on every rule leaves the plan as it is.
-/

namespace Pushdown

/-! ## Queries that count -/

namespace PushRule

variable {κ ν Note α : Type}

theorem pushCount_of_isCount [BackendQuery κ ν] {plan : Plan κ Note α}
    (counts : BackendQuery.isCount plan.query = true) : pushCount plan = plan := by
  have asked : onlyCounts plan ≠ true := by
    rw [ne_eq, onlyCounts_iff, counts]
    exact fun ⟨_, _, _, uncounted⟩ => nomatch uncounted
  exact if_neg asked

/-- Nothing is pushed into a query that counts. -/
theorem apply_of_isCount [BackendQuery κ ν] {builder : ConditionBuilder ν} {plan : Plan κ Note α}
    (counts : BackendQuery.isCount plan.query = true) (rule : PushRule) :
    rule.apply builder plan = .ok plan := by
  cases rule with
  | filter =>
      change pushFilter builder plan = _
      unfold pushFilter
      rw [counts, Bool.or_true, if_pos rfl]
  | sort =>
      refine congrArg Except.ok ?_
      unfold pushSort
      rw [counts, Bool.or_true, if_pos rfl]
  | slice => exact congrArg Except.ok (pushSlice_of_isCount counts)
  | count => exact congrArg Except.ok (pushCount_of_isCount counts)

theorem applyAll_of_isCount [BackendQuery κ ν] {builder : ConditionBuilder ν} {plan : Plan κ Note α}
    (counts : BackendQuery.isCount plan.query = true) (rules : List PushRule) :
    applyAll builder rules plan = .ok plan :=
  applyAll_of_fixed fun rule _ => apply_of_isCount counts rule

/-- What holds of a plan whose query on a table has been asked to count. -/
structure AskedToCount (plan : Plan TableQuery Note α) : Prop where
  terminal : plan.pipeline.terminal = some .count
  finished : plan.pipeline.stages = []
  loose : plan.query.window.isBounded = false
  granted : ∃ query : TableQuery, query.counting = false ∧ query.projectCount = (plan.query, true)

variable {builder : ConditionBuilder TableCondition} {plan plan' : Plan TableQuery Note α}

/-- A query on a table that does not count is asked to by no rule but the one for counts. -/
theorem askedToCount_of_apply {rule : PushRule} (uncounted : plan.query.counting = false)
    (pushed : rule.apply builder plan = .ok plan') (counts : plan'.query.counting = true) :
    rule = .count ∧ AskedToCount plan' := by
  have kept {query : TableQuery} (same : query.counting = plan.query.counting) :
      query.counting ≠ true := by
    rw [same, uncounted]
    exact Bool.false_ne_true
  cases rule with
  | filter =>
      rcases pushFilter_eq_ok pushed with ⟨rfl, -⟩ | ⟨predicate, condition, -, -, -, -, rfl⟩
      · exact absurd counts (kept rfl)
      · exact absurd counts (kept rfl)
  | sort =>
      cases pushed
      rcases pushSort_cases plan with same | ⟨order, rest, -, -, -, -, taken⟩
      · rw [same] at counts
        exact absurd counts (kept rfl)
      · rw [taken] at counts
        refine absurd counts (kept ?_)
        rw [leaving, TableQuery.addKeys_eq]
  | slice =>
      cases pushed
      rcases pushSlice_cases plan with same | ⟨-, taken⟩
      · rw [same] at counts
        exact absurd counts (kept rfl)
      · rw [taken] at counts
        exact absurd counts (kept rfl)
  | count =>
      cases pushed
      by_cases ready : onlyCounts plan = true
      · have asked : pushCount plan = { plan with query := plan.query.projectCount.1 } :=
          if_pos ready
        obtain ⟨terminal, finished, loose, -⟩ := onlyCounts_iff.mp ready
        rw [asked] at counts ⊢
        exact ⟨rfl, terminal, finished, loose, plan.query, uncounted, Prod.ext rfl counts⟩
      · have same : pushCount plan = plan := if_neg ready
        rw [same] at counts
        exact absurd counts (kept rfl)

/-- A query on a table that counts after some rules has been asked to by the rule for counts, and
nothing has changed since. -/
theorem askedToCount_of_applyAll {rules : List PushRule} (uncounted : plan.query.counting = false)
    (pushed : applyAll builder rules plan = .ok plan') (counts : plan'.query.counting = true) :
    .count ∈ rules ∧ AskedToCount plan' := by
  induction rules generalizing plan with
  | nil =>
      cases pushed
      cases uncounted.symm.trans counts
  | cons rule rest hyp =>
      obtain ⟨next, first, others⟩ := applyAll_cons_ok_iff.mp pushed
      cases counts' : next.query.counting with
      | false =>
          obtain ⟨listed, asked⟩ := hyp counts' others
          exact ⟨List.mem_cons_of_mem rule listed, asked⟩
      | true =>
          -- From here on the rules meet a query that counts, and none of them touches it.
          obtain ⟨rfl, asked⟩ := askedToCount_of_apply uncounted first counts'
          cases (applyAll_of_isCount counts' rest).symm.trans others
          exact ⟨List.mem_cons_self, asked⟩

end PushRule

theorem Settings.mem_activeRules_count_iff {settings : Settings} :
    .count ∈ settings.activeRules ↔
      .count ∈ settings.pushRules ∧ settings.countShortcut = true := by
  unfold activeRules
  rw [List.mem_filter, bne_self_eq_false, Bool.or_false]

/-! ## Answers -/

/-- A plan that leaves nothing to do but to add up the counts that its query asks for. -/
def Plan.AwaitsCounts {κ ν Note α : Type} [BackendQuery κ ν] (plan : Plan κ Note α) : Prop :=
  BackendQuery.isCount plan.query = true ∧ plan.pipeline.stages = [] ∧
    plan.pipeline.terminal = some .count

namespace Runner

variable {ρ κ ν μ Note : Type} [Entity ρ]

section

variable [BackendQuery κ ν] {runner : Runner ρ κ ν} {pipeline : Pipeline Note (Element ρ μ)}
  {source : StreamSource} {plan : Plan κ Note (Element ρ μ)} {counts : List Count}

theorem outcome_of_failure {failure : Failure}
    (refused : runner.compile pipeline source = .error failure) :
    RowStream.outcome (runner.run pipeline source) = ⟨[], .error failure⟩ := by
  rw [run_of_failure refused, RowStream.outcome]

theorem outcome_of_cause {cause : String} (compiled : runner.compile pipeline source = .ok plan)
    (failed : runner.backend.execute plan.query = .error cause) :
    RowStream.outcome (runner.run pipeline source) = ⟨[], .error (.backend cause)⟩ := by
  rw [run_of_plan compiled, failed, RowStream.outcome]
  rfl

/-- Rows come to what the terminal makes of them behind the stages that are left. -/
theorem outcome_of_rows {rows : List ρ} {terminal : Terminal Note (Element ρ μ)}
    (compiled : runner.compile pipeline source = .ok plan)
    (answered : runner.backend.execute plan.query = .ok (.rows rows))
    (ended : plan.pipeline.terminal = some terminal) :
    RowStream.outcome (runner.run pipeline source) =
      (terminal.consume (Stage.runAll plan.pipeline.stages (.ofRows rows))).map .ok := by
  rw [run_of_plan compiled, answered, receive_rows (unspecialized_of_compile compiled) ended,
    RowStream.outcome]
  rfl

theorem outcome_of_counts (compiled : runner.compile pipeline source = .ok plan)
    (answered : runner.backend.execute plan.query = .ok (.counts counts)) (awaits : plan.AwaitsCounts) :
    RowStream.outcome (runner.run pipeline source) = ⟨[], .ok (.count (Count.sum counts))⟩ := by
  obtain ⟨counting, finished, terminal⟩ := awaits
  unfold RowStream.outcome
  rw [run_of_plan compiled, answered, receive_counts terminal, counting, finished]
  rfl

/-- A run refuses counts where rows were asked for or stages are left. -/
theorem outcome_of_unaccepted (compiled : runner.compile pipeline source = .ok plan)
    (answered : runner.backend.execute plan.query = .ok (.counts counts))
    (unaccepted : ¬(BackendQuery.isCount plan.query && plan.pipeline.stages.isEmpty) = true) :
    RowStream.outcome (runner.run pipeline source) = ⟨[], .error .countsForRows⟩ := by
  obtain ⟨terminal, ended⟩ := ended_of_compile compiled
  unfold RowStream.outcome
  rw [run_of_plan compiled, answered, receive_counts ended, if_neg unaccepted]

/-- A terminal that does not count refuses counts. -/
theorem outcome_of_uncounting {terminal : Terminal Note (Element ρ μ)}
    (compiled : runner.compile pipeline source = .ok plan)
    (answered : runner.backend.execute plan.query = .ok (.counts counts))
    (accepted : (BackendQuery.isCount plan.query && plan.pipeline.stages.isEmpty) = true)
    (ended : plan.pipeline.terminal = some terminal) (uncounting : terminal.kind ≠ .count) :
    RowStream.outcome (runner.run pipeline source) =
      ⟨[], .error (.countsForTerminal terminal.kind)⟩ := by
  unfold RowStream.outcome
  rw [run_of_plan compiled, answered, receive_counts ended, if_pos accepted]
  cases terminal with
  | count => exact absurd rfl uncounting
  | _ => rfl

/-- Counts that a plan does not await are refused: by the run where rows were asked for, and by a
terminal that does not count. -/
theorem outcome_of_strayCounts (compiled : runner.compile pipeline source = .ok plan)
    (answered : runner.backend.execute plan.query = .ok (.counts counts))
    (stray : ¬plan.AwaitsCounts) :
    ∃ failure, RowStream.outcome (runner.run pipeline source) = ⟨[], .error failure⟩ ∧
      (failure = .countsForRows ∨ ∃ kind, failure = .countsForTerminal kind) := by
  by_cases accepted : (BackendQuery.isCount plan.query && plan.pipeline.stages.isEmpty) = true
  · obtain ⟨terminal, ended⟩ := ended_of_compile compiled
    obtain ⟨counting, finished⟩ := Bool.and_eq_true_iff.mp accepted
    have uncounting : terminal.kind ≠ .count := by
      cases terminal with
      | count => exact absurd ⟨counting, List.isEmpty_iff.mp finished, ended⟩ stray
      | _ => exact nofun
    exact ⟨_, outcome_of_uncounting compiled answered accepted ended uncounting, .inr ⟨_, rfl⟩⟩
  · exact ⟨_, outcome_of_unaccepted compiled answered accepted, .inl rfl⟩

end

/-- **Counts are never misread.** Counts from a backend come to their sum, at most the largest count,
just where the plan awaits them, and to a failure of the run anywhere else. A query on a table, if
it does not count at first, awaits counts only where the rule for them takes part, nothing is left
to do but to count, no rows are cut off, and the table has granted it. -/
theorem counts_never_misread :
    (∀ (κ ν : Type) [BackendQuery κ ν] (runner : Runner ρ κ ν)
        (pipeline : Pipeline Note (Element ρ μ)) (source : StreamSource)
        (plan : Plan κ Note (Element ρ μ)) (counts : List Count),
      runner.compile pipeline source = .ok plan →
      runner.backend.execute plan.query = .ok (.counts counts) →
      (runner.run pipeline source).executed = [plan.query] ∧
      ((RowStream.outcome (runner.run pipeline source)).value =
          .ok (.count (UInt64.ofNat (min (counts.map UInt64.toNat).sum (2 ^ 64 - 1)))) ↔
        plan.AwaitsCounts) ∧
      (¬plan.AwaitsCounts → ∃ failure,
        (RowStream.outcome (runner.run pipeline source)).value = .error failure ∧
          failure.kind = .invariantViolation ∧ failure.origin = .render)) ∧
    ∀ (runner : Runner ρ TableQuery TableCondition) (pipeline : Pipeline Note (Element ρ μ))
        (source : StreamSource) (plan : Plan TableQuery Note (Element ρ μ)),
      (runner.backend.newQuery source).counting = false →
      runner.compile pipeline source = .ok plan → plan.query.counting = true →
      .count ∈ runner.settings.pushRules ∧ runner.settings.countShortcut = true ∧
        PushRule.AskedToCount plan := by
  constructor
  · intro κ ν _ runner pipeline source plan counts compiled answered
    refine ⟨by rw [run_of_plan compiled], ⟨fun counted => ?_, fun awaits => ?_⟩, fun stray => ?_⟩
    · by_contra stray
      obtain ⟨failure, refused, -⟩ := outcome_of_strayCounts compiled answered stray
      rw [refused] at counted
      cases counted
    · rw [outcome_of_counts compiled answered awaits, Count.sum_eq]
      rfl
    · obtain ⟨failure, refused, why⟩ := outcome_of_strayCounts compiled answered stray
      refine ⟨failure, by rw [refused], ?_⟩
      rcases why with rfl | ⟨kind, rfl⟩
      · exact ⟨rfl, rfl⟩
      · exact ⟨rfl, rfl⟩
  · intro runner pipeline source plan uncounted compiled counts
    obtain ⟨-, merged⟩ := runner.compile_eq_ok_iff.mp compiled
    obtain ⟨active, asked⟩ := PushRule.askedToCount_of_applyAll uncounted merged counts
    obtain ⟨listed, allowed⟩ := Settings.mem_activeRules_count_iff.mp active
    exact ⟨listed, allowed, asked⟩

/-- A table asked to count after a skip of nothing; a backend whose counts go past the largest one;
and the same counts for a query that asks for rows. -/
theorem counts_never_misread_past_the_limit :
    let table : Table Record := { rows := [⟨[("n", .int 2)]⟩] }
    let counts : List Count := [18446744073709551610, 7]
    let runner : Runner Record TableQuery TableCondition := ⟨table.backend.answering counts, {}, true⟩
    let counting : Pipeline Unit (Element Record Empty) :=
      { stages := [.unordered, .skip 0], terminal := some .count }
    let listing : Pipeline Unit (Element Record Empty) :=
      { stages := [.filterBy fun _ => true], terminal := some .count }
    ∃ plan plan' : Plan TableQuery Unit (Element Record Empty),
      runner.compile counting {} = .ok plan ∧ runner.compile listing {} = .ok plan' ∧
      (RowStream.outcome (runner.run counting {})).value = .ok (.count 18446744073709551615) ∧
      (∃ failure, (RowStream.outcome (runner.run listing {})).value = .error failure ∧
        failure.origin = .render) ∧
      .count ∈ runner.settings.pushRules ∧ PushRule.AskedToCount plan := by
  intro table counts runner counting listing
  have compiled : runner.compile counting {} = .ok _ := rfl
  have compiled' : runner.compile listing {} = .ok _ := rfl
  obtain ⟨answers, asks⟩ := @counts_never_misread Record Empty Unit _
  obtain ⟨-, reads, -⟩ := answers _ _ runner counting {} _ counts compiled rfl
  obtain ⟨-, -, refuses⟩ := answers _ _ runner listing {} _ counts compiled' rfl
  obtain ⟨failure, refused, -, origin⟩ := refuses fun awaits => nomatch awaits.2.1
  obtain ⟨listed, -, asked⟩ := asks runner counting {} _ rfl compiled rfl
  exact ⟨_, _, compiled, compiled', reads.mpr ⟨rfl, rfl, rfl⟩, ⟨failure, refused, origin⟩, listed,
    asked⟩

end Runner

end Pushdown
