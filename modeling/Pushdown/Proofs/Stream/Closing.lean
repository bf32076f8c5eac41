import Pushdown.Proofs.Stream.Building
import Pushdown.Proofs.Stream.Cursors

/-! # Closing streams

However a stream ends, its close handlers run once each, in the order in which they were
registered, and after everything else that the stream does: its notes are those of the same
stream without handlers, and then those of the handlers.
-/

namespace Pushdown

variable {ρ κ ν μ Note : Type}

/-- What closing tells of handlers: whether some failed, and all their failures. -/
def CloseHandler.verdict (handlers : List (CloseHandler Note)) : Except Failure Unit :=
  if (handlers.filterMap CloseHandler.failure).isEmpty then .ok ()
  else .error (.closeHandlers (handlers.filterMap CloseHandler.failure))

namespace RowStream

/-! ## Value terminals -/

/-- A terminal that ends a stream with a value. -/
inductive ValueTerminal (ρ μ Note : Type) : Type → Type 1 where
  | count : ValueTerminal ρ μ Note Count
  | toList : ValueTerminal ρ μ Note (List (Element ρ μ))
  | collect {β : Type} (collector : Collector (Element ρ μ) β) : ValueTerminal ρ μ Note β
  | forEach (note : Element ρ μ → Note) : ValueTerminal ρ μ Note Unit
  | forEachOrdered (note : Element ρ μ → Note) : ValueTerminal ρ μ Note Unit
  | reduceFrom (identity : Element ρ μ) (accumulate : Element ρ μ → Element ρ μ → Element ρ μ) :
      ValueTerminal ρ μ Note (Element ρ μ)
  | reduce (accumulate : Element ρ μ → Element ρ μ → Element ρ μ) :
      ValueTerminal ρ μ Note (Option (Element ρ μ))
  | min (compare : Element ρ μ → Element ρ μ → Ordering) :
      ValueTerminal ρ μ Note (Option (Element ρ μ))
  | max (compare : Element ρ μ → Element ρ μ → Ordering) :
      ValueTerminal ρ μ Note (Option (Element ρ μ))
  | findFirst : ValueTerminal ρ μ Note (Option (Element ρ μ))
  | findAny : ValueTerminal ρ μ Note (Option (Element ρ μ))
  | anyMatch (test : Element ρ μ → Bool) : ValueTerminal ρ μ Note Bool
  | allMatch (test : Element ρ μ → Bool) : ValueTerminal ρ μ Note Bool
  | noneMatch (test : Element ρ μ → Bool) : ValueTerminal ρ μ Note Bool

namespace ValueTerminal

variable {β : Type}

/-- The terminal of the pipeline. -/
def terminal : ValueTerminal ρ μ Note β → Terminal Note (Element ρ μ)
  | .count => .count
  | .toList => .toArray
  | .collect collector => .collect collector.asks
  | .forEach note => .forEach note
  | .forEachOrdered note => .forEachOrdered note
  | .reduceFrom identity accumulate => .reduceFrom identity accumulate
  | .reduce accumulate => .reduce accumulate
  | .min compare => .min compare
  | .max compare => .max compare
  | .findFirst => .findFirst
  | .findAny => .findAny
  | .anyMatch test => .anyMatch test
  | .allMatch test => .allMatch test
  | .noneMatch test => .noneMatch test

/-- The value that an output stands for, if the terminal can have made it. -/
def read? : ValueTerminal ρ μ Note β → Output Note (Element ρ μ) → Option β
  | .count, .count number => some number
  | .toList, .collection elements => some elements
  | .collect collector, .gathered elements => some (collector.collection elements)
  | .forEach _, _ | .forEachOrdered _, _ => some ()
  | .reduceFrom _ _, .single element => some element
  | .reduce _, .optional element | .min _, .optional element | .max _, .optional element
  | .findFirst, .optional element | .findAny, .optional element => some element
  | .anyMatch _, .boolean result | .allMatch _, .boolean result
  | .noneMatch _, .boolean result => some result
  | _, _ => none

/-- The value of an output, or the refusal of one that the terminal cannot have made. -/
def read (terminal : ValueTerminal ρ μ Note β) (output : Output Note (Element ρ μ)) :
    Except Failure β :=
  match terminal.read? output with
  | some value => .ok value
  | none => .error (.unexpectedOutput output.arity terminal.terminal.arity)

/-- What the terminal makes of a flow is a value. -/
theorem read_consume (terminal : ValueTerminal ρ μ Note β) (flow : Flow Note (Element ρ μ)) :
    ∃ value, terminal.read (terminal.terminal.consume flow).value = .ok value := by
  cases terminal <;> exact ⟨_, rfl⟩

variable [Entity ρ] [BackendQuery κ ν]

/-- The end of a stream in the terminal. -/
def conclude (stream : RowStream ρ κ ν μ Note) : ValueTerminal ρ μ Note β → Conclusion κ Note β
  | .count => stream.count
  | .toList => stream.toList
  | .collect collector => stream.collect collector
  | .forEach note => stream.forEach note
  | .forEachOrdered note => stream.forEachOrdered note
  | .reduceFrom identity accumulate => stream.reduceFrom identity accumulate
  | .reduce accumulate => stream.reduce accumulate
  | .min compare => stream.min compare
  | .max compare => stream.max compare
  | .findFirst => stream.findFirst
  | .findAny => stream.findAny
  | .anyMatch test => stream.anyMatch test
  | .allMatch test => stream.allMatch test
  | .noneMatch test => stream.noneMatch test

/-- The end of a stream in the terminal is the end of its run, read as a value. -/
theorem conclude_eq (terminal : ValueTerminal ρ μ Note β) (stream : RowStream ρ κ ν μ Note) :
    terminal.conclude stream = (stream.terminate terminal.terminal).andThen terminal.read := by
  have reads {read : Output Note (Element ρ μ) → Except Failure β}
      (same : ∀ output, read output = terminal.read output) :
      (stream.terminate terminal.terminal).andThen read =
        (stream.terminate terminal.terminal).andThen terminal.read :=
    congrArg _ (funext same)
  cases terminal with
  | forEach note => rfl
  | forEachOrdered note => rfl
  | _ => exact reads fun output => by cases output <;> rfl

end ValueTerminal

/-! ## Ends of streams that were only built -/

/-- The pipeline of a stream that ends in a terminal. -/
def consumed (stream : RowStream ρ κ ν μ Note) (terminal : Terminal Note (Element ρ μ)) :
    Pipeline Note (Element ρ μ) :=
  { stream.pipeline with terminal := some terminal, state := .consumed }

/-- The run of a stream that ends in a terminal. -/
def runInto [Entity ρ] [BackendQuery κ ν] (stream : RowStream ρ κ ν μ Note)
    (terminal : Terminal Note (Element ρ μ)) : Run κ Note (Element ρ μ) :=
  stream.runner.run (stream.consumed terminal) stream.source

theorem runInto_withoutHandlers [Entity ρ] [BackendQuery κ ν] (stream : RowStream ρ κ ν μ Note)
    (terminal : Terminal Note (Element ρ μ)) :
    stream.withoutHandlers.runInto terminal = stream.runInto terminal :=
  stream.runner.run_withHandlers (stream.consumed terminal) [] stream.source

/-- Closing runs the handlers of the pipeline, and giving up what is closed runs none. -/
theorem close_eq_of_handlers {stream : RowStream ρ κ ν μ Note}
    {handlers : List (CloseHandler Note)} (held : stream.pipeline.closeHandlers = handlers) :
    stream.close = ⟨handlers.map CloseHandler.note, CloseHandler.verdict handlers⟩ := by
  rw [← held]
  exact congrArg (Noted.mk · _) (List.append_nil _)

theorem release_eq_of_handlers {stream : RowStream ρ κ ν μ Note}
    {handlers : List (CloseHandler Note)} (held : stream.pipeline.closeHandlers = handlers) :
    stream.release = handlers.map CloseHandler.note := by
  rw [← held]
  rfl

namespace Fresh

variable {handlers : List (CloseHandler Note)} {stream : RowStream ρ κ ν μ Note}

theorem specialize_eq (fresh : Fresh handlers stream) (target : NumericTarget) :
    (stream.specialize target : Conclusion κ Note Empty) =
      { notes := handlers.map CloseHandler.note
        result := .error (.unsupportedOperation target) } := by
  rw [specialize, fresh.unrefused, Pipeline.link, Pipeline.whenOpen, if_pos fresh.opened]
  exact congrArg (Conclusion.mk [] [] · _) (release_eq_of_handlers fresh.handlers)

theorem finished_eq (fresh : Fresh handlers stream) (terminal : Terminal Note (Element ρ μ)) :
    stream.finished terminal = .ok (stream.consumed terminal) := by
  rw [finished, fresh.unrefused, Pipeline.setTerminal, Pipeline.whenOpen, if_pos fresh.opened]
  rfl

variable [Entity ρ] [BackendQuery κ ν]

/-- A value terminal ends a stream as its run does, and then the handlers run. -/
theorem conclude_eq (fresh : Fresh handlers stream) {β : Type}
    (terminal : ValueTerminal ρ μ Note β) :
    terminal.conclude stream =
      { events := (stream.runInto terminal.terminal).events
        executed := (stream.runInto terminal.terminal).executed
        notes := (outcome (stream.runInto terminal.terminal)).notes ++
          handlers.map CloseHandler.note
        result := settle (outcome (stream.runInto terminal.terminal)).value
          (CloseHandler.verdict handlers) >>= terminal.read } := by
  have closing : close { stream with pipeline := stream.consumed terminal.terminal } =
      ⟨handlers.map CloseHandler.note, CloseHandler.verdict handlers⟩ :=
    close_eq_of_handlers fresh.handlers
  rw [ValueTerminal.conclude_eq, terminate, fresh.finished_eq]
  dsimp only
  rw [closing]
  rfl

/-- A run that is answered at all is answered by a value. -/
theorem outcome_read (stream : RowStream ρ κ ν μ Note) {β : Type}
    (terminal : ValueTerminal ρ μ Note β) {output : Output Note (Element ρ μ)}
    (answered : (outcome (stream.runInto terminal.terminal)).value = .ok output) :
    ∃ value, terminal.read output = .ok value := by
  have ended : (stream.consumed terminal.terminal).terminal = some terminal.terminal := rfl
  unfold runInto at answered
  rcases outcome_cases stream.runner stream.source ended with
    ⟨failure, failed⟩ | ⟨counts, count, counted⟩ | ⟨flow, consumes⟩
  · rw [failed] at answered
    cases answered
  · rw [counted] at answered
    cases answered
    cases terminal with
    | count => exact ⟨count, rfl⟩
    | _ => cases counts
  · rw [consumes] at answered
    cases answered
    exact terminal.read_consume flow

/-- A cursor that cannot be opened leaves nothing to close; one that can has closed nothing. -/
theorem openCursor_cases (fresh : Fresh handlers stream) {terminal : Terminal Note (Element ρ μ)}
    (sequential : terminal.arity = .sequence) :
    (∃ failure, (stream.openCursor terminal).result = .error failure ∧
        (stream.openCursor terminal).notes = handlers.map CloseHandler.note) ∨
      ∃ flow, (stream.openCursor terminal).result = .ok ⟨flow, stream.consumed terminal⟩ ∧
        (stream.openCursor terminal).notes = [] ∧
        (stream.withoutHandlers.openCursor terminal).result =
          .ok ⟨flow, stream.withoutHandlers.consumed terminal⟩ := by
  have same := stream.runInto_withoutHandlers terminal
  have ended : (stream.consumed terminal).terminal = some terminal := rfl
  unfold runInto at same
  -- With and without handlers it is the same run, so its cases serve both streams.
  rw [openCursor, openCursor, fresh.finished_eq, fresh.withoutHandlers.finished_eq]
  dsimp only
  rw [same]
  rcases outcome_cases stream.runner stream.source ended with
    ⟨failure, failed⟩ | ⟨rfl, -⟩ | ⟨flow, consumes⟩
  · rw [failed]
    exact .inl ⟨failure, rfl, release_eq_of_handlers fresh.handlers⟩
  · cases sequential
  · rw [consumes]
    cases terminal with
    | iterate => exact .inr ⟨flow, rfl, rfl, rfl⟩
    | split => exact .inr ⟨flow, rfl, rfl, rfl⟩
    | _ => cases sequential

end Fresh

/-! ## Every end of a stream -/

/-- A cursor with handlers, beside one without. A cursor that is opened has run no handler, nor
does using it; closing it or giving it up runs them. Where no cursor is opened, they have run. -/
structure OpensOnce {σ υ : Type} (kind : CursorKind Note (Element ρ μ) σ υ)
    (handlers : List (CloseHandler Note)) (opening plain : Conclusion κ Note σ) : Prop where
  opened (cursor : σ) (found : opening.result = .ok cursor) :
    opening.notes = [] ∧ ∃ cursor', plain.result = .ok cursor' ∧ ∀ uses,
      (kind.useAll cursor uses).notes = (kind.useAll cursor' uses).notes ∧
      kind.close (kind.useAll cursor uses).value =
        ⟨handlers.map CloseHandler.note, CloseHandler.verdict handlers⟩ ∧
      kind.release (kind.useAll cursor uses).value = handlers.map CloseHandler.note
  unopened (failure : Failure) (refused : opening.result = .error failure) :
    opening.notes = handlers.map CloseHandler.note

variable [Entity ρ] [BackendQuery κ ν]

/-- A stream with handlers, beside the same stream without. -/
structure ClosesOnce (handlers : List (CloseHandler Note)) (stream plain : RowStream ρ κ ν μ Note) :
    Prop where
  closed : stream.close = ⟨handlers.map CloseHandler.note, CloseHandler.verdict handlers⟩
  released : stream.release = handlers.map CloseHandler.note
  /-- A numeric specialization asks nothing of the backend. -/
  specialized (target : NumericTarget) :
    (stream.specialize target : Conclusion κ Note Empty) =
      { events := []
        executed := []
        notes := handlers.map CloseHandler.note
        result := .error (.unsupportedOperation target) }
  /-- Without handlers, a value terminal ends as the run does. -/
  ran {β : Type} (terminal : ValueTerminal ρ μ Note β) :
    let run := outcome (plain.runInto terminal.terminal)
    (terminal.conclude plain).notes = run.notes ∧
      (∀ failure, run.value = .error failure →
        (terminal.conclude plain).result = .error failure) ∧
      ∀ output, run.value = .ok output →
        ∃ value, terminal.read output = .ok value ∧ (terminal.conclude plain).result = .ok value
  /-- With handlers it ends in the same way, and they run after the run; their failures are told
  only where the run has none. -/
  concluded {β : Type} (terminal : ValueTerminal ρ μ Note β) :
    (terminal.conclude stream).events = (terminal.conclude plain).events ∧
      (terminal.conclude stream).executed = (terminal.conclude plain).executed ∧
      (terminal.conclude stream).notes =
        (terminal.conclude plain).notes ++ handlers.map CloseHandler.note ∧
      (∀ failure, (terminal.conclude plain).result = .error failure →
        (terminal.conclude stream).result = .error failure) ∧
      ∀ value, (terminal.conclude plain).result = .ok value →
        (terminal.conclude stream).result = (CloseHandler.verdict handlers).map fun _ => value
  iterated : OpensOnce Cursor.kind handlers stream.iterate plain.iterate
  split : OpensOnce BatchCursor.kind handlers stream.split plain.split

namespace Fresh

variable {handlers : List (CloseHandler Note)} {stream : RowStream ρ κ ν μ Note}

theorem opensOnce (fresh : Fresh handlers stream) {σ υ : Type}
    (kind : CursorKind Note (Element ρ μ) σ υ) {terminal : Terminal Note (Element ρ μ)}
    (sequential : terminal.arity = .sequence) (wrap : Cursor Note (Element ρ μ) → σ)
    (wraps : ∀ flow pipeline pipeline',
      kind.withPipeline pipeline (wrap ⟨flow, pipeline'⟩) = wrap ⟨flow, pipeline⟩) :
    OpensOnce kind handlers
      ((stream.openCursor terminal).andThen fun cursor => .ok (wrap cursor))
      ((stream.withoutHandlers.openCursor terminal).andThen fun cursor => .ok (wrap cursor)) := by
  have closing : (stream.consumed terminal).close =
      ⟨handlers.map CloseHandler.note, CloseHandler.verdict handlers⟩ := by
    rw [← fresh.handlers]
    rfl
  unfold Conclusion.andThen
  rcases fresh.openCursor_cases sequential with
    ⟨failure, refused, run⟩ | ⟨flow, opened, silent, opened'⟩
  · refine ⟨fun cursor found => ?_, fun _ _ => run⟩
    rw [refused] at found
    cases found
  · refine ⟨fun cursor found => ?_, fun failure refused => ?_⟩
    · rw [opened] at found
      cases found
      refine ⟨silent, wrap ⟨flow, stream.withoutHandlers.consumed terminal⟩, ?_, fun uses => ?_⟩
      · rw [opened']
        rfl
      · rw [← wraps flow _ (stream.withoutHandlers.consumed terminal), kind.useAll_withPipeline,
          Noted.map, kind.close_withPipeline, kind.release_withPipeline, closing]
        exact ⟨rfl, rfl, rfl⟩
    · rw [opened] at refused
      cases refused

theorem closesOnce (fresh : Fresh handlers stream) :
    ClosesOnce handlers stream stream.withoutHandlers := by
  constructor
  case closed => exact close_eq_of_handlers fresh.handlers
  case released => exact release_eq_of_handlers fresh.handlers
  case specialized => exact fresh.specialize_eq
  case ran =>
    intro β terminal run
    rw [fresh.withoutHandlers.conclude_eq]
    refine ⟨List.append_nil _, fun failure failed => ?_, fun output answered => ?_⟩
    · change settle run.value _ >>= terminal.read = _
      rw [failed]
      rfl
    · obtain ⟨value, reads⟩ := outcome_read stream.withoutHandlers terminal answered
      refine ⟨value, reads, ?_⟩
      change settle run.value _ >>= terminal.read = _
      rw [answered]
      exact reads
  case concluded =>
    intro β terminal
    rw [fresh.conclude_eq, fresh.withoutHandlers.conclude_eq, runInto_withoutHandlers,
      List.map_nil, List.append_nil]
    refine ⟨rfl, rfl, rfl, ?_⟩
    dsimp only
    cases answer : (outcome (stream.runInto terminal.terminal)).value with
    | error failure => exact ⟨fun _ failed => failed, nofun⟩
    | ok output =>
        obtain ⟨value, found⟩ := outcome_read stream terminal answer
        refine ⟨fun failure failed => ?_, fun value' told => ?_⟩
        · have refused : terminal.read output = .error failure := failed
          rw [found] at refused
          cases refused
        · have read : terminal.read output = .ok value' := told
          cases CloseHandler.verdict handlers with
          | error failure => rfl
          | ok _ => exact read
  case iterated =>
    have whole (opening : Conclusion κ Note (Cursor Note (Element ρ μ))) :
        (opening.andThen fun cursor => .ok cursor) = opening := by
      obtain ⟨events, executed, notes, result⟩ := opening
      cases result <;> rfl
    have sequential : (.iterate : Terminal Note (Element ρ μ)).arity = .sequence := rfl
    have opens := fresh.opensOnce Cursor.kind sequential (fun cursor => cursor) fun _ _ _ => rfl
    rw [whole, whole] at opens
    exact opens
  case split => exact fresh.opensOnce BatchCursor.kind rfl _ fun _ _ _ => rfl

end Fresh

/-- **Handlers run once.** Building a stream runs no handler. However the stream ends then, and
whatever the backend answers, every handler runs once, in the order of the registrations, and
after all that the same stream without handlers does. -/
theorem build_closesOnce [DecidableEq ρ] [Hashable ρ] [DecidableEq μ] [Hashable μ] [Ord ρ] [Ord μ]
    (runner : Runner ρ κ ν) (source : StreamSource) (buildings : List (Building ρ μ Note)) :
    (build runner source buildings).notes = [] ∧
      ClosesOnce (buildings.filterMap Building.handler?) (build runner source buildings).value
        (build runner source (buildings.filter fun building => building.handler?.isNone)).value := by
  rw [build_withoutHandlers]
  exact ⟨notes_buildFrom _ buildings, (build_fresh runner source buildings).closesOnce⟩

end RowStream

end Pushdown
