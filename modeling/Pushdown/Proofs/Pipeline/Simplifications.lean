import Pushdown.Proofs.Pipeline.JoinedSlices
import Pushdown.Proofs.Pipeline.StageTraces

/-! # What simplifications keep

A simplification leaves the trace of a pipeline as it is, apart from the notes that dropped
stages would have made. Joined skips need a flow that can be counted: past the largest count
there is nothing left to skip.
-/

namespace Pushdown

namespace Stage

variable {Note ρ μ : Type} [Entity ρ]

/-- Stages that leave the same trace of a flow as others, while the flow stays countable. -/
structure Faithful (keep : Note → Bool) (flow : Flow Note (Element ρ μ))
    (stages stages' : List (Stage Note (Element ρ μ))) : Prop where
  trace : (runAll stages' flow).trace keep = (runAll stages flow).trace keep
  countable : Countable stages' flow

namespace Faithful

variable {keep : Note → Bool} {flow : Flow Note (Element ρ μ)}
  {first second third : List (Stage Note (Element ρ μ))}

theorem refl (countable : Countable first flow) : Faithful keep flow first first :=
  ⟨rfl, countable⟩

theorem trans (former : Faithful keep flow first second)
    (latter : Faithful keep flow second third) : Faithful keep flow first third :=
  ⟨latter.trace.trans former.trace, latter.countable⟩

/-- A stage in front of stages that are faithful over what it makes of the flow. -/
theorem cons {stage : Stage Note (Element ρ μ)} (bounded : flow.elements.length ≤ Count.largest)
    (rest : Faithful keep (stage.run flow) first second) :
    Faithful keep flow (stage :: first) (stage :: second) :=
  ⟨rest.trace, countable_cons.mpr ⟨bounded, rest.countable⟩⟩

end Faithful

end Stage

namespace Simplification

open Stage

variable {Note α ρ μ : Type} [Entity ρ] {keep : Note → Bool}

/-! ## Joined slices -/

/-- Two skips in one: a sum that is cut off still skips everything. -/
theorem trace_drop_plus {flow : Flow Note α} (bounded : flow.elements.length ≤ Count.largest)
    (first second : Count) :
    (flow.drop (first.plus second).toNat).trace keep =
      ((flow.drop first.toNat).drop second.toNat).trace keep := by
  rw [Flow.drop_drop, Count.toNat_plus]
  by_cases fits : first.toNat + second.toNat ≤ Count.largest
  · rw [Nat.min_eq_left fits]
  · have beyond := Nat.le_of_not_le fits
    rw [Nat.min_eq_right beyond, Flow.trace_drop_of_length_le keep bounded,
      Flow.trace_drop_of_length_le keep (Nat.le_trans bounded beyond)]

theorem faithful_joinSlice {flow : Flow Note (Element ρ μ)} (stage : Stage Note (Element ρ μ))
    (rest : List (Stage Note (Element ρ μ))) (countable : Countable (stage :: rest) flow) :
    Faithful keep flow (stage :: rest) (joinSlice stage rest) := by
  unfold joinSlice
  split
  · rename_i count next others
    have joined (flow : Flow Note (Element ρ μ)) :
        (Stage.limit (min count next)).run flow =
          (Stage.limit next).run ((Stage.limit count).run flow) := by
      rw [run, run, run, Flow.take_take, Count.toNat_min]
    rw [countable_cons, countable_cons] at countable
    constructor
    · rw [runAll_cons, runAll_cons, runAll_cons, joined]
    · rw [countable_cons, joined]
      exact ⟨countable.1, countable.2.2⟩
  · rename_i count next others
    rw [countable_cons, countable_cons] at countable
    have joined (keep : Note → Bool) :
        ((Stage.skip (count.plus next)).run flow).trace keep =
          ((Stage.skip next).run ((Stage.skip count).run flow)).trace keep :=
      trace_drop_plus countable.1 count next
    constructor
    · exact trace_runAll_congr others (joined keep)
    · rw [countable_cons]
      exact ⟨countable.1, countable.2.2.congr (Flow.elements_congr (joined keep)).symm⟩
  · exact .refl countable

theorem faithful_joinSlices {stages : List (Stage Note (Element ρ μ))}
    {flow : Flow Note (Element ρ μ)} (countable : Countable stages flow) :
    Faithful keep flow stages (joinSlices stages) := by
  induction stages generalizing flow with
  | nil => exact .refl countable
  | cons stage rest hyp =>
      have both := countable_cons.mp countable
      -- The rest is joined first, so that a slice always meets a list that has been joined.
      have behind : Faithful keep flow (stage :: rest) (stage :: joinSlices rest) :=
        .cons both.1 (hyp both.2)
      rw [joinSlices_cons]
      exact behind.trans (faithful_joinSlice stage (joinSlices rest) behind.countable)

/-! ## Dropped stages -/

/-- Stages that leave every trace as it is may be dropped. -/
theorem faithful_filter {kept : Stage Note (Element ρ μ) → Bool}
    {stages : List (Stage Note (Element ρ μ))}
    (idle : ∀ stage ∈ stages, kept stage = false →
      ∀ flow, (stage.run flow).trace keep = flow.trace keep)
    {flow : Flow Note (Element ρ μ)} (countable : Countable stages flow) :
    Faithful keep flow stages (stages.filter kept) := by
  induction stages generalizing flow with
  | nil => exact .refl countable
  | cons stage rest hyp =>
      have both := countable_cons.mp countable
      have idle' := fun other member => idle other (List.mem_cons_of_mem stage member)
      cases remains : kept stage with
      | true =>
          rw [List.filter_cons_of_pos remains]
          exact .cons both.1 (hyp idle' both.2)
      | false =>
          rw [List.filter_cons_of_neg (by rw [remains]; decide)]
          have unseen := idle stage List.mem_cons_self remains flow
          have countable' : Countable rest flow := both.2.congr (Flow.elements_congr unseen)
          have dropped : Faithful keep flow (stage :: rest) rest :=
            ⟨(trace_runAll_congr rest unseen).symm, countable'⟩
          exact dropped.trans (hyp idle' countable')

/-- A simplification leaves the trace of a countable flow, apart from the notes that it
drops. -/
theorem faithful_apply {pipeline : Pipeline Note (Element ρ μ)} (simplification : Simplification)
    (silent : simplification = .removePeek → ∀ stage ∈ pipeline.stages, stage.Silent keep)
    {flow : Flow Note (Element ρ μ)} (countable : Countable pipeline.stages flow) :
    Faithful keep flow pipeline.stages (simplification.apply pipeline).stages := by
  cases simplification with
  | removePeek =>
      refine faithful_filter (fun stage member dropped flow => ?_) countable
      have peeks : stage.isPeek = true := by
        simpa using dropped
      exact trace_run_of_silent peeks (silent rfl stage member) flow
  | foldUnordered =>
      refine faithful_filter (fun stage member dropped flow => ?_) countable
      cases stage with
      | unordered => rfl
      | _ => cases dropped
  | collapseSlices => exact faithful_joinSlices countable

/-! ## What holds of all stages -/

omit [Entity ρ] in
theorem forall_joinSlice {holds : Stage Note α → Prop} (limits : ∀ count, holds (.limit count))
    (skips : ∀ count, holds (.skip count)) {stage : Stage Note α} {rest : List (Stage Note α)}
    (each : ∀ other ∈ stage :: rest, holds other) :
    ∀ other ∈ joinSlice stage rest, holds other := by
  unfold joinSlice
  split
  · rw [List.forall_mem_cons, List.forall_mem_cons] at each
    exact List.forall_mem_cons.mpr ⟨limits _, each.2.2⟩
  · rw [List.forall_mem_cons, List.forall_mem_cons] at each
    exact List.forall_mem_cons.mpr ⟨skips _, each.2.2⟩
  · exact each

omit [Entity ρ] in
theorem forall_joinSlices {holds : Stage Note α → Prop} (limits : ∀ count, holds (.limit count))
    (skips : ∀ count, holds (.skip count)) {stages : List (Stage Note α)}
    (each : ∀ stage ∈ stages, holds stage) : ∀ stage ∈ joinSlices stages, holds stage := by
  induction stages with
  | nil => exact each
  | cons stage rest hyp =>
      rw [List.forall_mem_cons] at each
      rw [joinSlices_cons]
      exact forall_joinSlice limits skips (List.forall_mem_cons.mpr ⟨each.1, hyp each.2⟩)

omit [Entity ρ] in
/-- What holds of every stage and of every slice still holds after a simplification. -/
theorem forall_apply {holds : Stage Note α → Prop} (limits : ∀ count, holds (.limit count))
    (skips : ∀ count, holds (.skip count)) {pipeline : Pipeline Note α}
    (each : ∀ stage ∈ pipeline.stages, holds stage) (simplification : Simplification) :
    ∀ stage ∈ (simplification.apply pipeline).stages, holds stage := by
  cases simplification with
  | removePeek => exact fun stage member => each stage (List.mem_filter.mp member).1
  | foldUnordered => exact fun stage member => each stage (List.mem_filter.mp member).1
  | collapseSlices => exact forall_joinSlices limits skips each

omit [Entity ρ] in
theorem length_joinSlices_le (stages : List (Stage Note α)) :
    (joinSlices stages).length ≤ stages.length := by
  have joined (stage : Stage Note α) (rest : List (Stage Note α)) :
      (joinSlice stage rest).length ≤ rest.length + 1 := by
    unfold joinSlice
    split
    · exact Nat.le_succ _
    · exact Nat.le_succ _
    · exact Nat.le_refl _
  induction stages with
  | nil => exact Nat.le_refl 0
  | cons stage rest hyp =>
      rw [joinSlices_cons]
      exact Nat.le_trans (joined stage (joinSlices rest)) (Nat.succ_le_succ hyp)

/-! ## Several simplifications -/

omit [Entity ρ] in
/-- What holds of every stage and of every slice still holds after all simplifications. -/
theorem forall_applyAll {holds : Stage Note α → Prop} (limits : ∀ count, holds (.limit count))
    (skips : ∀ count, holds (.skip count)) (chosen : List Simplification)
    {pipeline : Pipeline Note α} (each : ∀ stage ∈ pipeline.stages, holds stage) :
    ∀ stage ∈ (applyAll chosen pipeline).stages, holds stage := by
  induction chosen generalizing pipeline with
  | nil => exact each
  | cons simplification rest hyp => exact hyp (forall_apply limits skips each simplification)

omit [Entity ρ] in
/-- Simplifications change nothing but the stages and the order. -/
theorem applyAll_eq (chosen : List Simplification) (pipeline : Pipeline Note α) :
    applyAll chosen pipeline =
      { pipeline with
        stages := (applyAll chosen pipeline).stages
        ordered := (applyAll chosen pipeline).ordered } := by
  induction chosen generalizing pipeline with
  | nil => rfl
  | cons simplification rest hyp =>
      refine (hyp (simplification.apply pipeline)).trans ?_
      cases simplification <;> rfl

omit [Entity ρ] in
theorem terminal_applyAll (chosen : List Simplification) (pipeline : Pipeline Note α) :
    (applyAll chosen pipeline).terminal = pipeline.terminal := by
  rw [applyAll_eq]

omit [Entity ρ] in
/-- Simplifications never add a stage. -/
theorem length_applyAll_le (chosen : List Simplification) (pipeline : Pipeline Note α) :
    (applyAll chosen pipeline).stages.length ≤ pipeline.stages.length := by
  induction chosen generalizing pipeline with
  | nil => exact Nat.le_refl _
  | cons simplification rest hyp =>
      have once : (simplification.apply pipeline).stages.length ≤ pipeline.stages.length := by
        cases simplification with
        | removePeek => exact List.length_filter_le _ _
        | foldUnordered => exact List.length_filter_le _ _
        | collapseSlices => exact length_joinSlices_le _
      exact Nat.le_trans (hyp (simplification.apply pipeline)) once

omit [Entity ρ] in
/-- Simplifications bring no numeric specialization in. -/
theorem unspecialized_applyAll (chosen : List Simplification) {pipeline : Pipeline Note α}
    (none : pipeline.target? = none) : (applyAll chosen pipeline).target? = .none := by
  unfold Pipeline.target? at none ⊢
  rw [List.findSome?_eq_none_iff] at none ⊢
  exact forall_applyAll (fun _ => rfl) (fun _ => rfl) chosen none

/-- Simplifications leave the trace of a countable flow, apart from the notes that they
drop. -/
theorem faithful_applyAll (chosen : List Simplification) {pipeline : Pipeline Note (Element ρ μ)}
    (silent : .removePeek ∈ chosen → ∀ stage ∈ pipeline.stages, stage.Silent keep)
    {flow : Flow Note (Element ρ μ)} (countable : Countable pipeline.stages flow) :
    Faithful keep flow pipeline.stages (applyAll chosen pipeline).stages := by
  induction chosen generalizing pipeline with
  | nil => exact .refl countable
  | cons simplification rest hyp =>
      have first : Faithful keep flow pipeline.stages (simplification.apply pipeline).stages :=
        faithful_apply simplification (fun same => silent (same ▸ List.mem_cons_self)) countable
      have silent' (chosen : .removePeek ∈ rest) :
          ∀ stage ∈ (simplification.apply pipeline).stages, stage.Silent keep :=
        forall_apply (fun _ => trivial) (fun _ => trivial)
          (silent (List.mem_cons_of_mem _ chosen)) simplification
      exact first.trans (hyp silent' first.countable)

end Simplification

end Pushdown
