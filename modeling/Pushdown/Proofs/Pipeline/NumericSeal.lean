import Pushdown.Proofs.Pipeline.Lifecycle

/-! # Numeric specializations at the end

A link ends the building of a pipeline: whatever is called later, its stages and its terminal stay
as they are. A numeric specialization that came in by a link is therefore the last stage and the
only one of its kind, and no terminal follows it. It is the link that does this and not the stage:
a specialization that is appended like any other stage leaves the pipeline open.
-/

namespace Pushdown

namespace Pipeline

variable {Note α : Type}

/-- A pipeline that ends in its only numeric specialization and has no terminal. -/
structure SealedBy (target : NumericTarget) (pipeline : Pipeline Note α) : Prop where
  last : ∃ before, pipeline.stages = before ++ [.mapToNumeric target] ∧
    ∀ stage ∈ before, stage.target? = none
  unended : pipeline.terminal = none

theorem SealedBy.congr {target : NumericTarget} {pipeline pipeline' : Pipeline Note α}
    (sealedBy : SealedBy target pipeline) (stages : pipeline'.stages = pipeline.stages)
    (terminal : pipeline'.terminal = pipeline.terminal) : SealedBy target pipeline' :=
  ⟨stages ▸ sealedBy.last, terminal ▸ sealedBy.unended⟩

/-! ## Pipelines that are no longer open -/

/-- A pipeline that is no longer open, with the stages and the terminal that it has come to. -/
structure Settled (settled pipeline : Pipeline Note α) : Prop where
  unopened : pipeline.state ≠ .opened
  stages : pipeline.stages = settled.stages
  terminal : pipeline.terminal = settled.terminal

namespace Course

variable {course : Course Note α}

/-- No call opens a pipeline again, and none adds to one that is not open. -/
theorem settled_next {settled : Pipeline Note α} (held : Settled settled course.pipeline)
    (call : Call Note α) : Settled settled (course.next call).pipeline := by
  cases asks : call.action? with
  | some action =>
      by_cases grants : course.pipeline.state.Grants action
      · rw [course.next_granted asks grants]
        cases call with
        | onClose handler => exact ⟨held.unopened, held.stages, held.terminal⟩
        | close => cases asks
        | _ =>
            cases asks
            exact absurd grants held.unopened
      · rw [course.next_refused asks grants]
        exact held
  | none =>
      cases call with
      | close => exact ⟨nofun, held.stages, held.terminal⟩
      | _ => cases asks

/-- An open pipeline grants every call. -/
theorem pipeline_next_of_opened (opened : course.pipeline.state = .opened) (call : Call Note α) :
    (course.next call).pipeline = course.pipeline.changedBy call := by
  cases asks : call.action? with
  | some action =>
      have grants : course.pipeline.state.Grants action := by
        rw [opened]
        cases action with
        | onClose => exact nofun
        | _ => rfl
      rw [course.next_granted asks grants]
  | none =>
      cases call with
      | close => rfl
      | _ => cases asks

end Course

/-! ## Where specializations stand -/

/-- Numeric specializations are found only in a pipeline that is no longer open, and seal it. -/
structure Seals (pipeline : Pipeline Note α) : Prop where
  opened (opened : pipeline.state = .opened) : ∀ stage ∈ pipeline.stages, stage.target? = none
  recorded (target : NumericTarget) (recorded : .mapToNumeric target ∈ pipeline.stages) :
    SealedBy target pipeline

namespace Seals

variable {pipeline : Pipeline Note α}

theorem of_unspecialized (none : ∀ stage ∈ pipeline.stages, stage.target? = none) :
    Seals pipeline :=
  ⟨fun _ => none, fun _ recorded => nomatch none _ recorded⟩

/-- A call on an open pipeline without a specialization brings one in by a link at most. -/
theorem changedBy (plain : ∀ stage ∈ pipeline.stages, stage.target? = none)
    (unended : pipeline.terminal = none) {call : Call Note α}
    (linked : ∀ stage, call = .append stage → stage.target? = none) :
    Seals (pipeline.changedBy call) := by
  cases call with
  | append stage =>
      exact .of_unspecialized (List.forall_mem_append.mpr
        ⟨plain, List.forall_mem_singleton.mpr (linked stage rfl)⟩)
  | link stage =>
      refine ⟨nofun, fun target found => ?_⟩
      -- The stages before the link are plain, so the specialization is what has been linked.
      rcases List.mem_append.mp found with earlier | here
      · exact nomatch plain _ earlier
      · obtain rfl := List.mem_singleton.mp here
        exact ⟨⟨_, rfl, plain⟩, unended⟩
  | _ => exact .of_unspecialized plain

/-- A call that appends no numeric specialization keeps the others at the end. -/
theorem next {calls : List (Call Note α)} {course : Course Note α} (seals : Seals course.pipeline)
    (held : course.Recorded calls) {call : Call Note α}
    (linked : ∀ stage, call = .append stage → stage.target? = none) :
    Seals (course.next call).pipeline := by
  by_cases opened : course.pipeline.state = .opened
  · rw [Course.pipeline_next_of_opened opened]
    exact changedBy (seals.opened opened) (held.of_opened opened).2.1 linked
  · have settled := Course.settled_next ⟨opened, rfl, rfl⟩ call
    refine ⟨fun again => absurd again settled.unopened, fun target found => ?_⟩
    rw [settled.stages] at found
    exact (seals.recorded target found).congr settled.stages settled.terminal

end Seals

/-! ## Whole lives -/

/-- What a pipeline that is no longer open has come to stays, whatever is called later. -/
theorem settled_append {calls : List (Call Note α)}
    (ended : (course calls).pipeline.state ≠ .opened) (later : List (Call Note α)) :
    Settled (course calls).pipeline (course (calls ++ later)).pipeline := by
  induction later using List.reverseRecOn with
  | nil =>
      rw [List.append_nil]
      exact ⟨ended, rfl, rfl⟩
  | append_singleton later call hyp =>
      rw [← List.append_assoc, course_concat]
      exact Course.settled_next hyp call

theorem course_seals {calls : List (Call Note α)}
    (linked : ∀ stage, .append stage ∈ calls → stage.target? = none) :
    Seals (course calls).pipeline := by
  induction calls using List.reverseRecOn with
  | nil => exact .of_unspecialized nofun
  | append_singleton calls call hyp =>
      rw [course_concat]
      refine (hyp fun stage member => ?_).next (course_recorded calls) fun stage same => ?_
      · exact linked stage (List.mem_append_left _ member)
      · exact linked stage (List.mem_append_right _ (List.mem_singleton.mpr same.symm))

/-- **A link seals.** Where numeric specializations are linked and never appended, one that has been
recorded is the last stage and the only one of its kind, and there is no terminal; so it stays
whatever is called later, and no stage and no terminal is accepted any more. -/
theorem linked_specialization_seals {calls : List (Call Note α)}
    (linked : ∀ stage, .append stage ∈ calls → stage.target? = none) {target : NumericTarget}
    (recorded : .mapToNumeric target ∈ (course calls).pipeline.stages)
    (later : List (Call Note α)) :
    SealedBy target (course (calls ++ later)).pipeline ∧
      ∀ call action, call.action? = some action → action ≠ .onClose →
        ((course (calls ++ later)).pipeline.perform call).1.value =
          .error (.notOpen (course (calls ++ later)).pipeline.state action) := by
  have seals := course_seals linked
  have ended : (course calls).pipeline.state ≠ .opened := fun opened =>
    nomatch seals.opened opened _ recorded
  have settled := settled_append ended later
  refine ⟨(seals.recorded target recorded).congr settled.stages settled.terminal,
    fun call action asks other => ?_⟩
  have refused : ¬(course (calls ++ later)).pipeline.state.Grants action := by
    cases action with
    | onClose => exact absurd rfl other
    | _ => exact settled.unopened
  rw [perform_refused _ asks refused]

/-- A handler may still be registered behind a link, and a second link is refused. -/
theorem linked_specialization_seals_before_handlers :
    let calls : List (Call String Nat) := [.append (.limit 1), .link (.mapToNumeric .int64)]
    let later : List (Call String Nat) := [.onClose ⟨"handler", none⟩, .append .unordered, .close]
    (∀ stage, .append stage ∈ calls → stage.target? = none) ∧
      .mapToNumeric .int64 ∈ (course calls).pipeline.stages ∧
      SealedBy .int64 (course (calls ++ later)).pipeline ∧
      ((course calls).pipeline.perform (.link (.mapToNumeric .int32))).1.value =
        .error (.notOpen .linked .link) := by
  intro calls later
  have linked : ∀ stage, .append stage ∈ calls → stage.target? = none := by
    intro stage member
    simp only [calls, List.mem_cons, Call.append.injEq, List.not_mem_nil, or_false, reduceCtorEq]
      at member
    rw [member]
    rfl
  have recorded : .mapToNumeric .int64 ∈ (course calls).pipeline.stages :=
    List.mem_cons_of_mem _ List.mem_cons_self
  obtain ⟨sealedBy, -⟩ := linked_specialization_seals linked recorded later
  obtain ⟨-, refuses⟩ := linked_specialization_seals linked recorded []
  exact ⟨linked, recorded, sealedBy, refuses (.link (.mapToNumeric .int32)) .link rfl nofun⟩

/-- A numeric specialization that is appended seals nothing: another one, a slice and a terminal
are accepted behind it. -/
theorem appended_specialization_seals_nothing :
    let calls : List (Call Unit Unit) :=
      [.append (.mapToNumeric .int64), .append (.mapToNumeric .int32), .append (.limit 1),
        .setTerminal .count]
    (course calls).succeeded = calls ∧
      (course calls).pipeline.stages =
        [.mapToNumeric .int64, .mapToNumeric .int32, .limit 1] ∧
      (course calls).pipeline.terminal = some .count ∧
      ∀ target, ¬SealedBy target (course calls).pipeline :=
  ⟨rfl, rfl, rfl, fun _ sealedBy => nomatch sealedBy.unended⟩

end Pipeline

end Pushdown
