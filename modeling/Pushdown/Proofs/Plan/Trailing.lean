import Pushdown.Proofs.Plan.Counting

/-! # A stage behind all others

Some stages are never simplified and never pushed. Put behind all others, such a stage is what the
plan ends in, and the query is the same as without it. A terminal that makes of the flow behind the
stage what another makes of the flow before it then ends the run in the same way; only a count must
be neither of the two, since a count may be left to the backend.
-/

namespace Pushdown

variable {κ ν ρ μ Note α : Type}

/-- A stage that is kept as it is and runs in process, wherever it stands. -/
structure Stage.InProcess (stage : Stage Note α) : Prop where
  predicate : stage.predicate? = none
  order : stage.order? = none
  slice : stage.slice? = none
  target : stage.target? = none
  peek : stage.isPeek = false
  unordered : stage.isUnordered = false

/-- Sorts by a comparison run in process. -/
theorem Stage.inProcess_sortedBy (compare : α → α → Ordering) :
    (.sortedBy compare : Stage Note α).InProcess :=
  ⟨rfl, rfl, rfl, rfl, rfl, rfl⟩

/-- The pipeline with one more stage behind its own, and another terminal. -/
def Pipeline.followedBy (pipeline : Pipeline Note α) (stage : Stage Note α)
    (terminal : Terminal Note α) : Pipeline Note α :=
  { pipeline with stages := pipeline.stages ++ [stage], terminal := some terminal }

/-- The plan with one more stage behind those that are left, and another terminal. -/
def Plan.followedBy (plan : Plan κ Note α) (stage : Stage Note α) (terminal : Terminal Note α) :
    Plan κ Note α :=
  { plan with pipeline := plan.pipeline.followedBy stage terminal }

section

variable {stage : Stage Note α} (stays : stage.InProcess) (terminal : Terminal Note α)
include stays

theorem Pipeline.target?_followedBy (pipeline : Pipeline Note α) :
    (pipeline.followedBy stage terminal).target? = pipeline.target? := by
  unfold target? followedBy
  rw [List.findSome?_append, List.findSome?_cons, stays.target, List.findSome?_nil, Option.or_none]

/-! ## Simplifications -/

namespace Simplification

omit stays in
theorem joinSlice_concat (unsliced : stage.slice? = none) (first : Stage Note α)
    (rest : List (Stage Note α)) :
    joinSlice first (rest ++ [stage]) = joinSlice first rest ++ [stage] := by
  cases rest with
  | nil =>
      rw [joinSlice_nil, List.nil_append, List.singleton_append]
      unfold joinSlice
      split
      · rename_i leads
        cases leads
        cases unsliced
      · rename_i leads
        cases leads
        cases unsliced
      · rfl
  | cons next others =>
      cases first with
      | limit count => cases next <;> rfl
      | skip count => cases next <;> rfl
      | _ => rfl

omit stays in
theorem joinSlices_concat (unsliced : stage.slice? = none) (stages : List (Stage Note α)) :
    joinSlices (stages ++ [stage]) = joinSlices stages ++ [stage] := by
  induction stages with
  | nil => exact (joinSlices_cons stage []).trans (joinSlice_nil stage)
  | cons first rest hyp =>
      rw [List.cons_append, joinSlices_cons, hyp, joinSlice_concat unsliced, joinSlices_cons]

theorem apply_followedBy (pipeline : Pipeline Note α) (simplification : Simplification) :
    simplification.apply (pipeline.followedBy stage terminal) =
      (simplification.apply pipeline).followedBy stage terminal := by
  cases simplification with
  | removePeek =>
      simp [apply, Pipeline.followedBy, stays.peek]
  | foldUnordered =>
      simp [apply, Pipeline.followedBy, stays.unordered]
  | collapseSlices =>
      unfold apply Pipeline.followedBy
      rw [joinSlices_concat stays.slice]

theorem applyAll_followedBy (chosen : List Simplification) (pipeline : Pipeline Note α) :
    applyAll chosen (pipeline.followedBy stage terminal) =
      (applyAll chosen pipeline).followedBy stage terminal := by
  induction chosen generalizing pipeline with
  | nil => rfl
  | cons simplification rest hyp =>
      change applyAll rest (simplification.apply (pipeline.followedBy stage terminal)) = _
      rw [apply_followedBy stays, hyp]
      rfl

end Simplification

/-! ## Rules -/

namespace PushRule

open Stage

variable [BackendQuery κ ν] {builder : ConditionBuilder ν}

theorem pushFilter_followedBy (plan : Plan κ Note α) :
    pushFilter builder (plan.followedBy stage terminal) =
      (pushFilter builder plan).map (·.followedBy stage terminal) := by
  have leads : leading predicate? (plan.followedBy stage terminal).pipeline.stages =
      leading predicate? plan.pipeline.stages := leading_concat stays.predicate _
  have rest : behind predicate? (plan.followedBy stage terminal).pipeline.stages =
      behind predicate? plan.pipeline.stages ++ [stage] := behind_concat stays.predicate _
  unfold pushFilter
  simp only [leadingPredicates_eq, leads, rest]
  change (if ((BackendQuery.window plan.query).isBounded || BackendQuery.isCount plan.query) = true
    then _ else _) = _
  split
  · rfl
  · cases conjunction? (leading predicate? plan.pipeline.stages) with
    | none => rfl
    | some predicate =>
        dsimp only
        cases builder.lower predicate with
        | error failure => rfl
        | ok condition => rfl

theorem pushSort_followedBy (plan : Plan κ Note α) :
    pushSort (plan.followedBy stage terminal) = (pushSort plan).followedBy stage terminal := by
  obtain ⟨⟨stages, ended, parallel, ordered, handlers, state⟩, query⟩ := plan
  unfold pushSort Plan.followedBy Pipeline.followedBy
  dsimp only
  split
  · rfl
  · cases stages with
    | nil =>
        cases stage with
        | sortedByField order => cases stays.order
        | _ => rfl
    | cons first rest => cases first <;> rfl

theorem pushSlice_followedBy (plan : Plan κ Note α) :
    pushSlice (plan.followedBy stage terminal) = (pushSlice plan).followedBy stage terminal := by
  have leads : leading slice? (plan.followedBy stage terminal).pipeline.stages =
      leading slice? plan.pipeline.stages := leading_concat stays.slice _
  have rest : behind slice? (plan.followedBy stage terminal).pipeline.stages =
      behind slice? plan.pipeline.stages ++ [stage] := behind_concat stays.slice _
  cases counts : BackendQuery.isCount plan.query with
  | true =>
      have counts' : BackendQuery.isCount (plan.followedBy stage terminal).query = true := counts
      rw [pushSlice_of_isCount counts, pushSlice_of_isCount counts']
  | false =>
      have uncounted : BackendQuery.isCount (plan.followedBy stage terminal).query = false := counts
      by_cases nothing : leading slice? plan.pipeline.stages = []
      · rw [pushSlice_of_nil nothing, pushSlice_of_nil (leads.trans nothing)]
      · have something := nothing
        rw [← leads] at something
        rw [pushSlice_of_ne_nil counts nothing, pushSlice_of_ne_nil uncounted something, leads, rest]
        rfl

omit stays in
/-- A plan with a stage left does not count alone, and neither does one with another terminal. -/
theorem pushCount_followedBy {plan : Plan κ Note α}
    (uncounting : plan.pipeline.terminal ≠ some .count) :
    pushCount (plan.followedBy stage terminal) = (pushCount plan).followedBy stage terminal := by
  rcases pushCount_cases plan with same | ⟨counting, -, -, -⟩
  · rcases pushCount_cases (plan.followedBy stage terminal) with same' | ⟨-, finished, -, -⟩
    · rw [same, same']
    · cases List.append_ne_nil_of_right_ne_nil _ (List.cons_ne_nil _ _) finished
  · exact absurd counting uncounting

/-- A rule does not look at a stage behind all others. -/
theorem apply_followedBy (rule : PushRule) {plan : Plan κ Note α}
    (uncounting : plan.pipeline.terminal ≠ some .count) :
    rule.apply builder (plan.followedBy stage terminal) =
      (rule.apply builder plan).map (·.followedBy stage terminal) := by
  cases rule with
  | filter => exact pushFilter_followedBy stays terminal plan
  | sort => exact congrArg Except.ok (pushSort_followedBy stays terminal plan)
  | slice => exact congrArg Except.ok (pushSlice_followedBy stays terminal plan)
  | count => exact congrArg Except.ok (pushCount_followedBy terminal uncounting)

theorem applyAll_followedBy (rules : List PushRule) {plan : Plan κ Note α}
    (uncounting : plan.pipeline.terminal ≠ some .count) :
    applyAll builder rules (plan.followedBy stage terminal) =
      (applyAll builder rules plan).map (·.followedBy stage terminal) := by
  induction rules generalizing plan with
  | nil => rfl
  | cons rule rest hyp =>
      have first : rule.apply builder (plan.followedBy stage terminal) =
          (rule.apply builder plan).map (·.followedBy stage terminal) :=
        apply_followedBy stays terminal rule uncounting
      unfold applyAll at hyp ⊢
      rw [List.foldlM_cons, List.foldlM_cons, first]
      cases once : rule.apply builder plan with
      | error failure => rfl
      | ok next =>
          have kept := (apply_remains once).terminal
          exact hyp (kept ▸ uncounting)

end PushRule

end

/-! ## Runs -/

namespace Runner

variable [Entity ρ] [BackendQuery κ ν] {runner : Runner ρ κ ν}
  {pipeline : Pipeline Note (Element ρ μ)} {source : StreamSource}
  {stage : Stage Note (Element ρ μ)} {first last : Terminal Note (Element ρ μ)}

omit [Entity ρ] in
theorem compile_followedBy (stays : stage.InProcess) (ended : pipeline.terminal = some first)
    (uncounting : first.kind ≠ .count) :
    runner.compile (pipeline.followedBy stage last) source =
      (runner.compile pipeline source).map (·.followedBy stage last) := by
  have same := pipeline.target?_followedBy stays last
  cases target : pipeline.target? with
  | some numbers =>
      rw [runner.compile_of_refused (Pipeline.runnable_of_target target),
        runner.compile_of_refused (Pipeline.runnable_of_target (same.trans target))]
      rfl
  | none =>
      rw [runner.compile_of_runnable (Pipeline.runnable_eq_ok_iff.mpr ⟨target, ended⟩),
        runner.compile_of_runnable (Pipeline.runnable_eq_ok_iff.mpr ⟨same.trans target, rfl⟩)]
      let start : Plan κ Note (Element ρ μ) :=
        ⟨runner.simplify pipeline, runner.backend.newQuery source⟩
      have uncounting' : start.pipeline.terminal ≠ some .count := by
        change (runner.simplify pipeline).terminal ≠ some .count
        rw [simplify, Simplification.terminal_applyAll, ended]
        rintro ⟨⟩
        exact uncounting rfl
      unfold merge
      rw [simplify, Simplification.applyAll_followedBy stays]
      exact PushRule.applyAll_followedBy stays last _ uncounting'

/-- Two results, of which one is a terminal's refusal of counts that answer a counting query, and the
other the refusal of the same counts by a run with a stage left. -/
def RefusedApart {β : Type} (runner : Runner ρ κ ν) (kind : Terminal.Kind) (executed : List κ)
    (former latter : Except Failure β) : Prop :=
  (∃ query counts, executed = [query] ∧ BackendQuery.isCount query = true ∧
      runner.backend.execute query = .ok (.counts counts)) ∧
    former = .error (.countsForTerminal kind) ∧ latter = .error .countsForRows

/-- Runs that ask the same of a backend, make the same notes and come to the same, unless counts are
refused by the terminal of the former and by a stage of the latter. -/
structure SameEnd (runner : Runner ρ κ ν) (kind : Terminal.Kind)
    (former latter : Run κ Note (Element ρ μ)) : Prop where
  executed : latter.executed = former.executed
  notes : (RowStream.outcome latter).notes = (RowStream.outcome former).notes
  value : (RowStream.outcome latter).value = (RowStream.outcome former).value ∨
    runner.RefusedApart kind former.executed (RowStream.outcome former).value
      (RowStream.outcome latter).value

omit [Entity ρ] in
theorem SameEnd.of_outcome {kind : Terminal.Kind} {former latter : Run κ Note (Element ρ μ)}
    (executed : latter.executed = former.executed)
    (same : RowStream.outcome latter = RowStream.outcome former) :
    SameEnd runner kind former latter :=
  ⟨executed, congrArg Noted.notes same, .inl (congrArg Noted.value same)⟩

section

variable {plan : Plan κ Note (Element ρ μ)} (compiled : runner.compile pipeline source = .ok plan)
  (compiles : runner.compile (pipeline.followedBy stage last) source =
    .ok (plan.followedBy stage last))
include compiled compiles

theorem executed_followedBy :
    (runner.run (pipeline.followedBy stage last) source).executed =
      (runner.run pipeline source).executed := by
  rw [run_of_plan compiled, run_of_plan compiles]
  rfl

theorem sameEnd_of_rows {rows : List ρ} (ended : plan.pipeline.terminal = some first)
    (same : ∀ flow, last.consume (stage.run flow) = first.consume flow)
    (answered : runner.backend.execute plan.query = .ok (.rows rows)) :
    SameEnd runner first.kind (runner.run pipeline source)
      (runner.run (pipeline.followedBy stage last) source) := by
  have parts : Stage.runAll (plan.followedBy stage last).pipeline.stages (.ofRows rows) =
      stage.run (Stage.runAll plan.pipeline.stages (.ofRows rows)) := by
    unfold Plan.followedBy Pipeline.followedBy Stage.runAll
    rw [List.foldl_append, List.foldl_cons, List.foldl_nil]
  refine .of_outcome (executed_followedBy compiled compiles) ?_
  rw [outcome_of_rows compiles answered rfl, outcome_of_rows compiled answered ended, parts, same]

/-- The stage behind the others is always left, so counts never come to the last terminal. -/
theorem sameEnd_of_counts {counts : List Count} (ended : plan.pipeline.terminal = some first)
    (uncounting : first.kind ≠ .count)
    (answered : runner.backend.execute plan.query = .ok (.counts counts)) :
    SameEnd runner first.kind (runner.run pipeline source)
      (runner.run (pipeline.followedBy stage last) source) := by
  have executed := executed_followedBy compiled compiles
  have left : ¬(BackendQuery.isCount (plan.followedBy stage last).query &&
      (plan.followedBy stage last).pipeline.stages.isEmpty) = true := by
    rw [Bool.and_eq_true_iff, List.isEmpty_iff]
    rintro ⟨-, finished⟩
    exact List.append_ne_nil_of_right_ne_nil _ (List.cons_ne_nil _ _) finished
  have refused := outcome_of_unaccepted compiles answered left
  by_cases accepted : (BackendQuery.isCount plan.query && plan.pipeline.stages.isEmpty) = true
  · have refused' := outcome_of_uncounting compiled answered accepted ended uncounting
    have asked : (runner.run pipeline source).executed = [plan.query] := by
      rw [run_of_plan compiled]
    obtain ⟨counting, -⟩ := Bool.and_eq_true_iff.mp accepted
    refine ⟨executed, ?_, .inr ⟨⟨plan.query, counts, asked, counting, answered⟩, ?_, ?_⟩⟩
    · rw [refused, refused']
    · rw [refused']
    · rw [refused]
  · refine .of_outcome executed ?_
    rw [refused, outcome_of_unaccepted compiled answered accepted]

end

/-- A run ends as one with a stage and a terminal that together do what its terminal does. -/
theorem run_followedBy (stays : stage.InProcess) (ended : pipeline.terminal = some first)
    (uncounting : first.kind ≠ .count)
    (same : ∀ flow, last.consume (stage.run flow) = first.consume flow) :
    SameEnd runner first.kind (runner.run pipeline source)
      (runner.run (pipeline.followedBy stage last) source) := by
  have compiles : runner.compile (pipeline.followedBy stage last) source =
      (runner.compile pipeline source).map (·.followedBy stage last) :=
    compile_followedBy stays ended uncounting
  cases compiled : runner.compile pipeline source with
  | error failure =>
      rw [compiled] at compiles
      refine .of_outcome ?_ ?_
      · rw [run_of_failure compiled, run_of_failure compiles]
      · rw [outcome_of_failure compiled, outcome_of_failure compiles]
  | ok plan =>
      rw [compiled] at compiles
      have ended' : plan.pipeline.terminal = some first :=
        (terminal_of_compile compiled).trans ended
      rcases answered : runner.backend.execute plan.query with cause | ⟨rows⟩ | ⟨counts⟩
      · refine .of_outcome (executed_followedBy compiled compiles) ?_
        rw [outcome_of_cause compiled answered, outcome_of_cause compiles answered]
      · exact sameEnd_of_rows compiled compiles ended' same answered
      · exact sameEnd_of_counts compiled compiles ended' uncounting answered

end Runner

end Pushdown
