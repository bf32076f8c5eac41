import Pushdown.Pipeline.Stage
import Pushdown.Proofs.Flow.Trace

/-! # Traces of stages

A stage turns flows with one trace into flows with one trace, whichever notes are kept. So
stages may be exchanged for others wherever the traces agree, and what stands behind them
need not be looked at.
-/

namespace Pushdown

namespace Stage

variable {Note ρ μ : Type} [Entity ρ] {keep : Note → Bool}

/-- What a stage makes of a flow depends on its trace alone. -/
theorem trace_run_congr (stage : Stage Note (Element ρ μ)) {flow flow' : Flow Note (Element ρ μ)}
    (same : flow.trace keep = flow'.trace keep) :
    (stage.run flow).trace keep = (stage.run flow').trace keep := by
  cases stage with
  | filter predicate => rw [run, run, Flow.trace_filter, Flow.trace_filter, same]
  | filterBy test => rw [run, run, Flow.trace_filter, Flow.trace_filter, same]
  | map image => rw [run, run, Flow.trace_map, Flow.trace_map, same]
  | flatMap images => rw [run, run, Flow.trace_flatMap, Flow.trace_flatMap, same]
  | mapToNumeric target => exact same
  | distinct sameness =>
      rw [run, run, Flow.distinct, Flow.distinct, Flow.trace_distinctFrom,
        Flow.trace_distinctFrom, same]
  | sorted compare => exact Flow.trace_sorted_congr same compare
  | sortedByField order => exact Flow.trace_sorted_congr same _
  | sortedBy compare => exact Flow.trace_sorted_congr same compare
  | peek note => rw [run, run, Flow.trace_peek, Flow.trace_peek, same]
  | limit count => rw [run, run, Flow.trace_take, Flow.trace_take, same]
  | skip count => rw [run, run, Flow.trace_drop, Flow.trace_drop, same]
  | unordered => exact same

@[simp]
theorem runAll_nil (flow : Flow Note (Element ρ μ)) : runAll [] flow = flow := rfl

@[simp]
theorem runAll_cons (stage : Stage Note (Element ρ μ)) (rest : List (Stage Note (Element ρ μ)))
    (flow : Flow Note (Element ρ μ)) :
    runAll (stage :: rest) flow = runAll rest (stage.run flow) := rfl

/-- What stages make of a flow depends on its trace alone. -/
theorem trace_runAll_congr (stages : List (Stage Note (Element ρ μ)))
    {flow flow' : Flow Note (Element ρ μ)} (same : flow.trace keep = flow'.trace keep) :
    (runAll stages flow).trace keep = (runAll stages flow').trace keep := by
  induction stages generalizing flow flow' with
  | nil => exact same
  | cons stage rest hyp => exact hyp (stage.trace_run_congr same)

/-! ## Stages whose notes nobody keeps -/

/-- Whether all notes of a stage are refused. -/
def Silent (keep : Note → Bool) : Stage Note (Element ρ μ) → Prop
  | .peek note => ∀ element, keep (note element) = false
  | _ => True

/-- A stage that only makes notes does nothing where its notes are refused. -/
theorem trace_run_of_silent {stage : Stage Note (Element ρ μ)} (peeks : stage.isPeek = true)
    (silent : stage.Silent keep) (flow : Flow Note (Element ρ μ)) :
    (stage.run flow).trace keep = flow.trace keep := by
  cases stage with
  | peek note => exact Flow.trace_peek_of_refused keep silent flow
  | _ => cases peeks

/-- The elements that stages hand out do not depend on the notes. -/
theorem elements_run_congr (stage : Stage Note (Element ρ μ))
    {flow flow' : Flow Note (Element ρ μ)} (same : flow.elements = flow'.elements) :
    (stage.run flow).elements = (stage.run flow').elements := by
  have bare : flow.trace (fun _ => false) = flow'.trace (fun _ => false) := by
    rw [Flow.trace_of_refusal, Flow.trace_of_refusal, same]
  exact Flow.elements_congr (stage.trace_run_congr bare)

/-! ## Flows that can be counted -/

/-- Neither a flow nor what any of the first stages make of it has more elements than a count
can tell. -/
def Countable (stages : List (Stage Note (Element ρ μ))) (flow : Flow Note (Element ρ μ)) :
    Prop :=
  ∀ leading, leading <+: stages → (runAll leading flow).elements.length ≤ Count.largest

theorem countable_nil {flow : Flow Note (Element ρ μ)} :
    Countable [] flow ↔ flow.elements.length ≤ Count.largest := by
  constructor
  · intro countable
    exact countable [] List.prefix_rfl
  · intro reached leading first
    rw [List.prefix_nil.mp first]
    exact reached

theorem countable_cons {stage : Stage Note (Element ρ μ)}
    {rest : List (Stage Note (Element ρ μ))} {flow : Flow Note (Element ρ μ)} :
    Countable (stage :: rest) flow ↔
      flow.elements.length ≤ Count.largest ∧ Countable rest (stage.run flow) := by
  constructor
  · intro countable
    refine ⟨countable [] List.nil_prefix, fun leading first => ?_⟩
    exact countable (stage :: leading) ((List.prefix_cons_inj stage).mpr first)
  · rintro ⟨reached, countable⟩ leading first
    rcases List.prefix_cons_iff.mp first with rfl | ⟨others, rfl, within⟩
    · exact reached
    · exact countable others within

theorem Countable.length_le {stages : List (Stage Note (Element ρ μ))}
    {flow : Flow Note (Element ρ μ)} (countable : Countable stages flow) :
    flow.elements.length ≤ Count.largest :=
  countable [] List.nil_prefix

theorem Countable.congr {stages : List (Stage Note (Element ρ μ))}
    {flow flow' : Flow Note (Element ρ μ)} (countable : Countable stages flow)
    (same : flow.elements = flow'.elements) : Countable stages flow' := by
  induction stages generalizing flow flow' with
  | nil =>
      rw [countable_nil] at countable ⊢
      rw [← same]
      exact countable
  | cons stage rest hyp =>
      rw [countable_cons] at countable ⊢
      rw [← same]
      exact ⟨countable.1, hyp countable.2 (stage.elements_run_congr same)⟩

end Stage

end Pushdown
