import Mathlib.Data.List.Induction
import Pushdown.Pipeline

/-! # The life of a pipeline

Calls on one pipeline, each answered before the next is made. What one call does is said once:
a refused call changes nothing, a granted one makes its change, and a close is never refused.
From this the whole life follows by induction on the calls: what the pipeline holds can be read
off the calls that were granted, and its state off the calls that were made.
-/

namespace Pushdown

/-- Whether a pipeline in a state grants an action. -/
def Lifecycle.Grants (state : Lifecycle) : Lifecycle.Action → Prop
  | .append | .link | .setTerminal => state = .opened
  | .onClose => state ≠ .closed

theorem Lifecycle.Grants.not_closed {state : Lifecycle} {action : Lifecycle.Action}
    (granted : state.Grants action) : ¬state = .closed := by
  rintro rfl
  cases action with
  | onClose => exact granted rfl
  | _ => cases granted

namespace Pipeline

variable {Note α : Type}

/-- A call on a pipeline. -/
inductive Call (Note α : Type) where
  | append (stage : Stage Note α)
  | link (stage : Stage Note α)
  | setTerminal (terminal : Terminal Note α)
  | onClose (handler : CloseHandler Note)
  | close

namespace Call

/-- The action that a call asks for, if it may be refused. -/
def action? : Call Note α → Option Lifecycle.Action
  | .append _ => some .append
  | .link _ => some .link
  | .setTerminal _ => some .setTerminal
  | .onClose _ => some .onClose
  | .close => none

def stage? : Call Note α → Option (Stage Note α)
  | .append stage | .link stage => some stage
  | _ => none

def terminal? : Call Note α → Option (Terminal Note α)
  | .setTerminal terminal => some terminal
  | _ => none

def handler? : Call Note α → Option (CloseHandler Note)
  | .onClose handler => some handler
  | _ => none

def isLink : Call Note α → Bool
  | .link _ => true
  | _ => false

def isClose : Call Note α → Bool
  | .close => true
  | _ => false

end Call

/-- The answer to a change and the pipeline after it. -/
def attempt (pipeline : Pipeline Note α) (change : Except Failure (Pipeline Note α)) :
    Noted Note (Except Failure Unit) × Pipeline Note α :=
  match change with
  | .ok changed => (⟨[], .ok ()⟩, changed)
  | .error failure => (⟨[], .error failure⟩, pipeline)

/-- The answer to a call and the pipeline after it. -/
def perform (pipeline : Pipeline Note α) :
    Call Note α → Noted Note (Except Failure Unit) × Pipeline Note α
  | .append stage => pipeline.attempt (pipeline.append stage)
  | .link stage => pipeline.attempt (pipeline.link stage)
  | .setTerminal terminal => pipeline.attempt (pipeline.setTerminal terminal)
  | .onClose handler => pipeline.attempt (pipeline.onClose handler)
  | .close => (pipeline.close, pipeline.closed)

/-! ## One call -/

theorem attempt_whenOpen_refused (pipeline changed : Pipeline Note α) (action : Lifecycle.Action)
    (refused : ¬pipeline.state = .opened) :
    pipeline.attempt (pipeline.whenOpen action changed) =
      (⟨[], .error (.notOpen pipeline.state action)⟩, pipeline) := by
  rw [whenOpen, if_neg refused, attempt]

theorem attempt_whenOpen_granted (pipeline changed : Pipeline Note α) (action : Lifecycle.Action)
    (granted : pipeline.state = .opened) :
    pipeline.attempt (pipeline.whenOpen action changed) = (⟨[], .ok ()⟩, changed) := by
  rw [whenOpen, if_pos granted, attempt]

/-- A refused call names the state and leaves the pipeline as it is. -/
theorem perform_refused (pipeline : Pipeline Note α) {call : Call Note α}
    {action : Lifecycle.Action} (asks : call.action? = some action)
    (refused : ¬pipeline.state.Grants action) :
    pipeline.perform call = (⟨[], .error (.notOpen pipeline.state action)⟩, pipeline) := by
  cases call with
  | append stage =>
      cases asks
      exact pipeline.attempt_whenOpen_refused _ _ refused
  | link stage =>
      cases asks
      exact pipeline.attempt_whenOpen_refused _ _ refused
  | setTerminal terminal =>
      cases asks
      exact pipeline.attempt_whenOpen_refused _ _ refused
  | onClose handler =>
      cases asks
      have ended : pipeline.state = .closed := Classical.not_not.mp refused
      rw [perform, onClose, if_pos ended, attempt]
  | close => cases asks

/-- The pipeline that a granted call makes of another. -/
def changedBy (pipeline : Pipeline Note α) : Call Note α → Pipeline Note α
  | .append stage => { pipeline with stages := pipeline.stages ++ [stage] }
  | .link stage => { pipeline with stages := pipeline.stages ++ [stage], state := .linked }
  | .setTerminal terminal => { pipeline with terminal := some terminal, state := .consumed }
  | .onClose handler => { pipeline with closeHandlers := pipeline.closeHandlers ++ [handler] }
  | .close => pipeline.closed

theorem perform_granted (pipeline : Pipeline Note α) {call : Call Note α}
    {action : Lifecycle.Action} (asks : call.action? = some action)
    (granted : pipeline.state.Grants action) :
    pipeline.perform call = (⟨[], .ok ()⟩, pipeline.changedBy call) := by
  cases call with
  | append stage =>
      cases asks
      exact pipeline.attempt_whenOpen_granted _ _ granted
  | link stage =>
      cases asks
      exact pipeline.attempt_whenOpen_granted _ _ granted
  | setTerminal terminal =>
      cases asks
      exact pipeline.attempt_whenOpen_granted _ _ granted
  | onClose handler =>
      cases asks
      rw [perform, onClose, if_neg granted, attempt]
      rfl
  | close => cases asks

theorem stages_changedBy (pipeline : Pipeline Note α) (call : Call Note α) :
    (pipeline.changedBy call).stages = pipeline.stages ++ call.stage?.toList := by
  cases call with
  | append stage => rfl
  | link stage => rfl
  | _ => exact (List.append_nil _).symm

theorem terminal_changedBy (pipeline : Pipeline Note α) (call : Call Note α) :
    (pipeline.changedBy call).terminal = call.terminal?.or pipeline.terminal := by
  cases call <;> rfl

theorem handlers_changedBy (pipeline : Pipeline Note α) {call : Call Note α}
    {action : Lifecycle.Action} (asks : call.action? = some action) :
    (pipeline.changedBy call).closeHandlers =
      pipeline.closeHandlers ++ call.handler?.toList := by
  cases call with
  | onClose handler => rfl
  | close => cases asks
  | _ => exact (List.append_nil _).symm

/-! ## Many calls -/

/-- A pipeline after some calls, with the calls that succeeded and all notes made. -/
structure Course (Note α : Type) where
  succeeded : List (Call Note α) := []
  notes : List Note := []
  pipeline : Pipeline Note α := {}

namespace Course

/-- One more call. -/
def next (course : Course Note α) (call : Call Note α) : Course Note α :=
  let (answer, changed) := course.pipeline.perform call
  { succeeded := if answer.value.isOk then course.succeeded ++ [call] else course.succeeded
    notes := course.notes ++ answer.notes
    pipeline := changed }

/-- The stages that were appended or linked with success. -/
def stages (course : Course Note α) : List (Stage Note α) :=
  course.succeeded.filterMap Call.stage?

/-- The terminals that were set with success. -/
def terminals (course : Course Note α) : List (Terminal Note α) :=
  course.succeeded.filterMap Call.terminal?

/-- The handlers that were registered with success. -/
def handlers (course : Course Note α) : List (CloseHandler Note) :=
  course.succeeded.filterMap Call.handler?

/-- Whether a link has succeeded. -/
def isLinked (course : Course Note α) : Bool :=
  course.succeeded.any Call.isLink

theorem next_refused (course : Course Note α) {call : Call Note α} {action : Lifecycle.Action}
    (asks : call.action? = some action) (refused : ¬course.pipeline.state.Grants action) :
    course.next call = course := by
  rw [next, course.pipeline.perform_refused asks refused]
  simp only [List.append_nil]
  rfl

theorem next_granted (course : Course Note α) {call : Call Note α} {action : Lifecycle.Action}
    (asks : call.action? = some action) (granted : course.pipeline.state.Grants action) :
    course.next call =
      { succeeded := course.succeeded ++ [call]
        notes := course.notes
        pipeline := course.pipeline.changedBy call } := by
  rw [next, course.pipeline.perform_granted asks granted]
  simp only [List.append_nil]
  rfl

theorem succeeded_next (course : Course Note α) (call : Call Note α) :
    (course.next call).succeeded = course.succeeded ∨
      (course.next call).succeeded = course.succeeded ++ [call] := by
  by_cases answered : (course.pipeline.perform call).1.value.isOk = true
  · exact .inr (if_pos answered)
  · exact .inl (if_neg answered)

/-- A close is not among the calls that leave something behind. -/
theorem filterMap_next_close {β : Type} (course : Course Note α) (read : Call Note α → Option β)
    (blank : read .close = none) :
    (course.next .close).succeeded.filterMap read = course.succeeded.filterMap read := by
  rcases course.succeeded_next .close with same | more
  · rw [same]
  · rw [more, List.filterMap_append, List.filterMap_cons_none blank, List.filterMap_nil,
      List.append_nil]

/-- The state that calls lead to. -/
def stateAfter (calls : List (Call Note α)) (course : Course Note α) : Lifecycle :=
  if calls.any Call.isClose then .closed
  else if course.pipeline.terminal.isSome then .consumed
  else if course.isLinked then .linked
  else .opened

/-- What a pipeline holds after some calls. -/
structure Recorded (calls : List (Call Note α)) (course : Course Note α) : Prop where
  stages : course.pipeline.stages = course.stages
  terminals : course.terminals = course.pipeline.terminal.toList
  handlers : course.pipeline.closeHandlers =
    if calls.any Call.isClose then [] else course.handlers
  state : course.pipeline.state = stateAfter calls course
  notes : course.notes =
    if calls.any Call.isClose then course.handlers.map CloseHandler.note else []

namespace Recorded

variable {calls : List (Call Note α)} {course : Course Note α}

theorem closed_iff (recorded : Recorded calls course) :
    course.pipeline.state = .closed ↔ calls.any Call.isClose = true := by
  rw [recorded.state, stateAfter]
  split
  · rename_i closes
    exact iff_of_true rfl closes
  · rename_i stays
    refine iff_of_false ?_ stays
    split
    · exact nofun
    · split
      · exact nofun
      · exact nofun

/-- An open pipeline has been neither closed nor ended nor linked. -/
theorem of_opened (recorded : Recorded calls course)
    (opened : course.pipeline.state = .opened) :
    calls.any Call.isClose = false ∧ course.pipeline.terminal = none ∧
      course.isLinked = false := by
  rw [recorded.state, stateAfter] at opened
  split at opened
  · cases opened
  · rename_i stays
    split at opened
    · cases opened
    · rename_i endless
      split at opened
      · cases opened
      · rename_i unlinked
        exact ⟨Bool.eq_false_iff.mpr stays, Option.not_isSome_iff_eq_none.mp endless,
          Bool.eq_false_iff.mpr unlinked⟩

theorem any_isClose_concat (calls : List (Call Note α)) {call : Call Note α}
    {action : Lifecycle.Action} (asks : call.action? = some action) :
    (calls ++ [call]).any Call.isClose = calls.any Call.isClose := by
  rw [List.any_append]
  cases call with
  | close => cases asks
  | _ => exact Bool.or_false _

/-- A new pipeline holds nothing. -/
theorem initially : Recorded ([] : List (Call Note α)) {} :=
  ⟨rfl, rfl, rfl, rfl, rfl⟩

/-- A refused call leaves everything as recorded. -/
theorem refused (recorded : Recorded calls course) {call : Call Note α}
    {action : Lifecycle.Action} (asks : call.action? = some action)
    (refused : ¬course.pipeline.state.Grants action) :
    Recorded (calls ++ [call]) (course.next call) := by
  have same := any_isClose_concat calls asks
  rw [course.next_refused asks refused]
  refine ⟨recorded.stages, recorded.terminals, ?_, ?_, ?_⟩
  · rw [same]
    exact recorded.handlers
  · rw [stateAfter, same]
    exact recorded.state
  · rw [same]
    exact recorded.notes

/-- A terminal is set only where there is none. -/
theorem terminals_concat (recorded : Recorded calls course) {call : Call Note α}
    {action : Lifecycle.Action} (asks : call.action? = some action)
    (granted : course.pipeline.state.Grants action) :
    course.terminals ++ call.terminal?.toList =
      (course.pipeline.changedBy call).terminal.toList := by
  rw [recorded.terminals, terminal_changedBy]
  cases call with
  | setTerminal terminal =>
      cases asks
      rw [(recorded.of_opened granted).2.1]
      rfl
  | _ => exact List.append_nil _

theorem state_concat (recorded : Recorded calls course) {call : Call Note α}
    {action : Lifecycle.Action} (asks : call.action? = some action)
    (granted : course.pipeline.state.Grants action) :
    (course.pipeline.changedBy call).state =
      stateAfter (calls ++ [call]) (course.next call) := by
  rw [course.next_granted asks granted, stateAfter, any_isClose_concat _ asks, isLinked,
    List.any_append]
  cases call with
  | append stage =>
      rw [show [Call.append stage].any Call.isLink = false from rfl, Bool.or_false]
      exact recorded.state
  | link stage =>
      cases asks
      obtain ⟨stays, endless, -⟩ := recorded.of_opened granted
      simp [changedBy, stays, endless, Call.isLink]
  | setTerminal terminal =>
      cases asks
      obtain ⟨stays, -, -⟩ := recorded.of_opened granted
      simp [changedBy, stays]
  | onClose handler =>
      rw [show [Call.onClose handler].any Call.isLink = false from rfl, Bool.or_false]
      exact recorded.state
  | close => cases asks

/-- A granted call is recorded behind the others. -/
theorem granted (recorded : Recorded calls course) {call : Call Note α}
    {action : Lifecycle.Action} (asks : call.action? = some action)
    (granted : course.pipeline.state.Grants action) :
    Recorded (calls ++ [call]) (course.next call) := by
  have stays : ¬calls.any Call.isClose = true := by
    rw [← recorded.closed_iff]
    exact granted.not_closed
  have state := recorded.state_concat asks granted
  have reads {β : Type} (read : Call Note α → Option β) :
      (course.next call).succeeded.filterMap read =
        course.succeeded.filterMap read ++ (read call).toList := by
    rw [course.next_granted asks granted, List.filterMap_append]
    cases found : read call <;> simp [found]
  refine ⟨?_, ?_, ?_, ?_, ?_⟩
  · rw [Course.stages, reads, course.next_granted asks granted, stages_changedBy, recorded.stages]
    rfl
  · rw [Course.terminals, reads, course.next_granted asks granted]
    exact recorded.terminals_concat asks granted
  · rw [Course.handlers, reads, course.next_granted asks granted, handlers_changedBy _ asks,
      recorded.handlers, any_isClose_concat _ asks, if_neg stays, if_neg stays]
    rfl
  · rw [← state, course.next_granted asks granted]
  · rw [course.next_granted asks granted, any_isClose_concat _ asks, if_neg stays, recorded.notes,
      if_neg stays]

/-- A close makes the notes of the handlers that are still there, and leaves none. -/
theorem close (recorded : Recorded calls course) :
    Recorded (calls ++ [.close]) (course.next .close) := by
  have closes : (calls ++ [Call.close]).any Call.isClose = true := by
    rw [List.any_append]
    exact Bool.or_true _
  refine ⟨?_, ?_, ?_, ?_, ?_⟩
  · rw [Course.stages, filterMap_next_close course _ rfl]
    exact recorded.stages
  · rw [Course.terminals, filterMap_next_close course _ rfl]
    exact recorded.terminals
  · rw [if_pos closes]
    rfl
  · rw [stateAfter, if_pos closes]
    rfl
  · rw [if_pos closes, Course.handlers, filterMap_next_close course _ rfl]
    change course.notes ++ course.pipeline.closeHandlers.map CloseHandler.note = _
    rw [recorded.notes, recorded.handlers]
    -- The handlers are all still there, or they have all run before.
    split
    · exact List.append_nil _
    · rfl

/-- Whatever the call, the record is kept. -/
theorem next (recorded : Recorded calls course) (call : Call Note α) :
    Recorded (calls ++ [call]) (course.next call) := by
  cases asks : call.action? with
  | some action =>
      by_cases grants : course.pipeline.state.Grants action
      · exact recorded.granted asks grants
      · exact recorded.refused asks grants
  | none =>
      cases call with
      | close => exact recorded.close
      | _ => cases asks

end Recorded

end Course

/-- The course of several calls on a new pipeline. -/
def course (calls : List (Call Note α)) : Course Note α :=
  calls.foldl Course.next {}

theorem course_concat (calls : List (Call Note α)) (call : Call Note α) :
    course (calls ++ [call]) = (course calls).next call := by
  rw [course, course, List.foldl_append, List.foldl_cons, List.foldl_nil]

/-- After all calls the pipeline holds what is recorded. -/
theorem course_recorded (calls : List (Call Note α)) : (course calls).Recorded calls := by
  -- From the last call on: the record speaks of the calls from the first.
  induction calls using List.reverseRecOn with
  | nil => exact .initially
  | append_singleton calls call hyp =>
      rw [course_concat]
      exact hyp.next call

/-- What has succeeded is never taken back. -/
theorem prefix_succeeded (calls later : List (Call Note α)) :
    (course calls).succeeded <+: (course (calls ++ later)).succeeded := by
  induction later using List.reverseRecOn with
  | nil => exact ⟨[], by rw [List.append_nil, List.append_nil]⟩
  | append_singleton later call hyp =>
      rw [← List.append_assoc, course_concat]
      refine hyp.trans ?_
      rcases (course (calls ++ later)).succeeded_next call with same | more
      · exact ⟨[], by rw [same, List.append_nil]⟩
      · exact ⟨[call], more.symm⟩

/-- A terminal that is recorded is the first that was set, and so it stays. -/
theorem terminal_append (calls later : List (Call Note α)) {terminal : Terminal Note α}
    (found : (course calls).pipeline.terminal = some terminal) :
    (course (calls ++ later)).pipeline.terminal = some terminal := by
  have kept : (course calls).terminals <+: (course (calls ++ later)).terminals :=
    (prefix_succeeded calls later).filterMap _
  rw [(course_recorded _).terminals, (course_recorded _).terminals, found] at kept
  cases last : (course (calls ++ later)).pipeline.terminal with
  | none =>
      rw [last] at kept
      exact absurd (List.prefix_nil.mp kept) (List.cons_ne_nil _ _)
  | some other =>
      rw [last] at kept
      rw [(List.cons_prefix_cons.mp kept).1]

/-! ## The laws of a pipeline's life -/

/-- What holds of a pipeline after some calls, and of the next call on it. -/
structure Lawful (calls : List (Call Note α)) : Prop where
  /-- A change succeeds in the states that grant it and in no other. -/
  succeeds_iff (call : Call Note α) (action : Lifecycle.Action)
      (asks : call.action? = some action) :
    ((course calls).pipeline.perform call).1.value = .ok () ↔
      (course calls).pipeline.state.Grants action
  /-- A change that fails is told the state of the pipeline and leaves it as it is. -/
  fails (call : Call Note α) (action : Lifecycle.Action) (failure : Failure)
      (asks : call.action? = some action)
      (failed : ((course calls).pipeline.perform call).1.value = .error failure) :
    failure = .notOpen (course calls).pipeline.state action ∧ failure.kind = .invalidState ∧
      failure.detail? = some (.invalidState (course calls).pipeline.state) ∧
      ((course calls).pipeline.perform call).2 = (course calls).pipeline
  /-- The stages are those of the calls that succeeded, in the order of the calls. -/
  stages : (course calls).pipeline.stages = (course calls).stages
  one_terminal : (course calls).terminals.length ≤ 1
  terminal : (course calls).pipeline.terminal = (course calls).terminals.head?
  /-- A terminal that is recorded stays, whatever is called later. -/
  terminal_stays (later : List (Call Note α)) (terminal : Terminal Note α)
      (recorded : (course calls).pipeline.terminal = some terminal) :
    (course (calls ++ later)).pipeline.terminal = some terminal
  state : (course calls).pipeline.state =
    if calls.any Call.isClose then .closed
    else if (course calls).pipeline.terminal.isSome then .consumed
    else if (course calls).isLinked then .linked
    else .opened
  /-- The first close runs all handlers in order and joins the failures of those that fail. -/
  first_close (unclosed : calls.any Call.isClose = false) :
    let closing := ((course calls).pipeline.perform .close).1
    closing.notes = (course calls).handlers.map CloseHandler.note ∧
      (closing.value = .ok () ↔ ∀ handler ∈ (course calls).handlers, handler.failure = none) ∧
      ∀ failure, closing.value = .error failure →
        failure = .closeHandlers ((course calls).handlers.filterMap CloseHandler.failure)
  /-- A later close does nothing. -/
  later_close (closed : calls.any Call.isClose = true) :
    ((course calls).pipeline.perform .close).1 = ⟨[], .ok ()⟩
  /-- Over the whole life every handler runs once, and only when the pipeline is closed. -/
  notes : (course calls).notes =
    if calls.any Call.isClose then (course calls).handlers.map CloseHandler.note else []

/-- Closing succeeds when no handler fails. -/
theorem value_close_eq_ok_iff (pipeline : Pipeline Note α) :
    pipeline.close.value = .ok () ↔
      ∀ handler ∈ pipeline.closeHandlers, handler.failure = none := by
  rw [← List.filterMap_eq_nil_iff, ← List.isEmpty_iff]
  by_cases quiet : pipeline.closeFailures.isEmpty = true
  · exact iff_of_true (if_pos quiet) quiet
  · refine iff_of_false ?_ quiet
    rw [close, if_neg quiet]
    exact nofun

theorem value_close_eq_error (pipeline : Pipeline Note α) {failure : Failure}
    (failed : pipeline.close.value = .error failure) :
    failure = .closeHandlers pipeline.closeFailures := by
  unfold close at failed
  split at failed
  · cases failed
  · cases failed
    rfl

/-- Every sequence of calls on a new pipeline is a lawful one. -/
theorem lawful (calls : List (Call Note α)) : Lawful calls := by
  have recorded := course_recorded calls
  constructor
  case succeeds_iff =>
    intro call action asks
    by_cases grants : (course calls).pipeline.state.Grants action
    · rw [perform_granted _ asks grants]
      exact iff_of_true rfl grants
    · rw [perform_refused _ asks grants]
      exact iff_of_false nofun grants
  case fails =>
    intro call action failure asks failed
    by_cases grants : (course calls).pipeline.state.Grants action
    · rw [perform_granted _ asks grants] at failed
      cases failed
    · rw [perform_refused _ asks grants] at failed ⊢
      cases failed
      exact ⟨rfl, rfl, rfl, rfl⟩
  case stages => exact recorded.stages
  case one_terminal =>
    rw [recorded.terminals]
    exact Option.length_toList_le
  case terminal =>
    rw [recorded.terminals, Option.head?_toList]
  case terminal_stays => exact fun later _ found => terminal_append calls later found
  case state => exact recorded.state
  case first_close =>
    intro unclosed closing
    have handlers : (course calls).pipeline.closeHandlers = (course calls).handlers := by
      rw [recorded.handlers, unclosed]
      rfl
    rw [← handlers]
    exact ⟨rfl, value_close_eq_ok_iff _, fun failure => value_close_eq_error _⟩
  case later_close =>
    intro closed
    have handlers : (course calls).pipeline.closeHandlers = [] := by
      rw [recorded.handlers, if_pos closed]
    rw [perform, close, closeFailures, handlers]
    rfl
  case notes => exact recorded.notes

/-- A handler is registered after the terminal, and one that fails does not stop the others. -/
example : (course (α := Unit) [.onClose ⟨"first", some "broken"⟩, .setTerminal .count,
    .onClose ⟨"second", none⟩, .append .unordered, .close, .onClose ⟨"third", none⟩,
    .close]).notes = ["first", "second"] := rfl

end Pipeline

end Pushdown
