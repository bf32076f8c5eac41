import Pushdown.Proofs.Plan.CloseHandlers
import Pushdown.Proofs.Stream.Cursors

/-! # Building streams

The calls that build a stream further, in any number and order. None of them is ever refused,
since a stream that is being built is open. A call adds a stage, changes a flag, or registers a
handler; it makes no notes, even where it leaves an emptied stream behind, and handlers stand in
the order of their calls.
-/

namespace Pushdown

namespace RowStream

variable {ρ κ ν μ Note : Type}

/-- A call that builds a stream further. -/
inductive Building (ρ μ Note : Type) where
  | filter (predicate : Predicate)
  | sortedByField (order : SortOrder)
  | filterBy (test : Element ρ μ → Bool)
  | map (image : Element ρ μ → Element ρ μ)
  | flatMap (images : Element ρ μ → Series (Element ρ μ))
  | distinct
  | sorted
  | sortedBy (compare : Element ρ μ → Element ρ μ → Ordering)
  | peek (note : Element ρ μ → Note)
  | limit (count : Count)
  | skip (count : Count)
  | unordered
  | setParallel (parallel : Bool)
  | onClose (handler : CloseHandler Note)

namespace Building

/-- The handler that a call registers. -/
def handler? : Building ρ μ Note → Option (CloseHandler Note)
  | .onClose handler => some handler
  | _ => none

/-- The stream after a call. Calls that change the type of the elements move it. -/
def apply [DecidableEq ρ] [Hashable ρ] [DecidableEq μ] [Hashable μ] [Ord ρ] [Ord μ]
    (stream : RowStream ρ κ ν μ Note) :
    Building ρ μ Note → Noted Note (RowStream ρ κ ν μ Note)
  | .filter predicate => ⟨[], stream.filter predicate⟩
  | .sortedByField order => ⟨[], stream.sortedByField order⟩
  | .filterBy test => ⟨[], stream.filterBy test⟩
  | .map image => (stream.push (.map image)).retype
  | .flatMap images => (stream.push (.flatMap images)).retype
  | .distinct => ⟨[], stream.distinct⟩
  | .sorted => ⟨[], stream.sorted⟩
  | .sortedBy compare => ⟨[], stream.sortedBy compare⟩
  | .peek note => ⟨[], stream.peek note⟩
  | .limit count => ⟨[], stream.limit count⟩
  | .skip count => ⟨[], stream.skip count⟩
  | .unordered => ⟨[], stream.unordered⟩
  | .setParallel parallel => ⟨[], stream.setParallel parallel⟩
  | .onClose handler => ⟨[], stream.onClose handler⟩

end Building

/-- The stream without its close handlers. -/
def withoutHandlers (stream : RowStream ρ κ ν μ Note) : RowStream ρ κ ν μ Note :=
  { stream with pipeline := stream.pipeline.withHandlers [] }

/-! ## Streams that are being built -/

/-- A stream that nothing has ended, with its handlers. -/
structure Fresh (handlers : List (CloseHandler Note)) (stream : RowStream ρ κ ν μ Note) :
    Prop where
  unrefused : stream.failure = none
  opened : stream.pipeline.state = .opened
  handlers : stream.pipeline.closeHandlers = handlers

theorem fresh_start (runner : Runner ρ κ ν) (source : StreamSource) :
    Fresh [] ({ runner := runner, source := source } : RowStream ρ κ ν μ Note) :=
  ⟨rfl, rfl, rfl⟩

namespace Fresh

variable {handlers : List (CloseHandler Note)} {stream : RowStream ρ κ ν μ Note}

theorem withoutHandlers (fresh : Fresh handlers stream) : Fresh [] stream.withoutHandlers :=
  ⟨fresh.unrefused, fresh.opened, rfl⟩

theorem push_eq (fresh : Fresh handlers stream) (stage : Stage Note (Element ρ μ)) :
    stream.push stage =
      { stream with
        pipeline := { stream.pipeline with stages := stream.pipeline.stages ++ [stage] } } := by
  rw [push, change, fresh.unrefused, Pipeline.append, Pipeline.whenOpen, if_pos fresh.opened]

theorem push (fresh : Fresh handlers stream) (stage : Stage Note (Element ρ μ)) :
    Fresh handlers (stream.push stage) := by
  rw [fresh.push_eq]
  exact ⟨fresh.unrefused, fresh.opened, fresh.handlers⟩

theorem push_withoutHandlers (fresh : Fresh handlers stream) (stage : Stage Note (Element ρ μ)) :
    stream.withoutHandlers.push stage = (stream.push stage).withoutHandlers := by
  rw [fresh.push_eq, fresh.withoutHandlers.push_eq]
  rfl

theorem onClose_eq (fresh : Fresh handlers stream) (handler : CloseHandler Note) :
    stream.onClose handler =
      { stream with pipeline := stream.pipeline.withHandlers (handlers ++ [handler]) } := by
  have unclosed : ¬stream.pipeline.state = .closed := by
    rw [fresh.opened]
    exact nofun
  rw [onClose, change, fresh.unrefused, Pipeline.onClose, if_neg unclosed, fresh.handlers]
  rfl

variable [DecidableEq ρ] [Hashable ρ] [DecidableEq μ] [Hashable μ] [Ord ρ] [Ord μ]

/-- A call leaves a fresh stream fresh, and registers its handler behind the others. -/
theorem apply (fresh : Fresh handlers stream) (building : Building ρ μ Note) :
    Fresh (handlers ++ building.handler?.toList) (building.apply stream).value := by
  cases building with
  | onClose handler =>
      change Fresh _ (stream.onClose handler)
      rw [fresh.onClose_eq]
      exact ⟨fresh.unrefused, fresh.opened, rfl⟩
  | setParallel parallel =>
      change Fresh (handlers ++ []) _
      rw [List.append_nil]
      exact ⟨fresh.unrefused, fresh.opened, fresh.handlers⟩
  | _ =>
      change Fresh (handlers ++ []) _
      rw [List.append_nil]
      exact fresh.push _

/-- A call that registers no handler does the same to a stream without handlers. -/
theorem apply_withoutHandlers (fresh : Fresh handlers stream) {building : Building ρ μ Note}
    (unhandled : building.handler? = none) :
    (building.apply stream.withoutHandlers).value =
      (building.apply stream).value.withoutHandlers := by
  cases building with
  | onClose handler => cases unhandled
  | setParallel parallel => rfl
  | _ => exact fresh.push_withoutHandlers _

/-- A call that registers a handler does nothing else. -/
theorem apply_onClose (fresh : Fresh handlers stream) {building : Building ρ μ Note}
    {handler : CloseHandler Note} (handled : building.handler? = some handler) :
    (building.apply stream).value.withoutHandlers = stream.withoutHandlers := by
  cases building with
  | onClose handler =>
      change (stream.onClose handler).withoutHandlers = _
      rw [fresh.onClose_eq]
      rfl
  | _ => cases handled

end Fresh

/-! ## Building -/

variable [DecidableEq ρ] [Hashable ρ] [DecidableEq μ] [Hashable μ] [Ord ρ] [Ord μ]

/-- The stream after several calls. -/
def buildFrom (stream : RowStream ρ κ ν μ Note) (buildings : List (Building ρ μ Note)) :
    Noted Note (RowStream ρ κ ν μ Note) :=
  Noted.steps Building.apply stream buildings

/-- The stream that calls build over a source. -/
def build (runner : Runner ρ κ ν) (source : StreamSource)
    (buildings : List (Building ρ μ Note)) : Noted Note (RowStream ρ κ ν μ Note) :=
  buildFrom { runner := runner, source := source } buildings

/-- Building makes no notes. -/
theorem notes_buildFrom (stream : RowStream ρ κ ν μ Note)
    (buildings : List (Building ρ μ Note)) : (stream.buildFrom buildings).notes = [] := by
  induction buildings generalizing stream with
  | nil => rfl
  | cons building rest hyp =>
      have quiet : (building.apply stream).notes = [] := by
        cases building <;> rfl
      have later : (Noted.steps Building.apply (building.apply stream).value rest).notes = [] :=
        hyp _
      rw [buildFrom, Noted.steps, quiet, later]
      rfl

/-- Building keeps the runner. -/
theorem runner_buildFrom (stream : RowStream ρ κ ν μ Note)
    (buildings : List (Building ρ μ Note)) :
    (stream.buildFrom buildings).value.runner = stream.runner := by
  have kept (stream : RowStream ρ κ ν μ Note)
      (action : Pipeline Note (Element ρ μ) → Except Failure (Pipeline Note (Element ρ μ))) :
      (stream.change action).runner = stream.runner := by
    unfold change
    split
    · rfl
    · split <;> rfl
  induction buildings generalizing stream with
  | nil => rfl
  | cons building rest hyp =>
      have first : (building.apply stream).value.runner = stream.runner := by
        cases building with
        | setParallel parallel => rfl
        | _ => exact kept stream _
      exact (hyp (building.apply stream).value).trans first

theorem Fresh.buildFrom {handlers : List (CloseHandler Note)} {stream : RowStream ρ κ ν μ Note}
    (fresh : Fresh handlers stream) (buildings : List (Building ρ μ Note)) :
    Fresh (handlers ++ buildings.filterMap Building.handler?)
      (stream.buildFrom buildings).value := by
  induction buildings generalizing handlers stream with
  | nil =>
      rw [List.filterMap_nil, List.append_nil]
      exact fresh
  | cons building rest hyp =>
      have first : (building :: rest).filterMap Building.handler? =
          building.handler?.toList ++ rest.filterMap Building.handler? := by
        rw [List.filterMap_cons]
        cases building.handler? <;> rfl
      rw [first, ← List.append_assoc]
      exact hyp (fresh.apply building)

theorem Fresh.buildFrom_withoutHandlers {handlers : List (CloseHandler Note)}
    {stream : RowStream ρ κ ν μ Note} (fresh : Fresh handlers stream)
    (buildings : List (Building ρ μ Note)) :
    (stream.withoutHandlers.buildFrom
        (buildings.filter fun building => building.handler?.isNone)).value =
      (stream.buildFrom buildings).value.withoutHandlers := by
  induction buildings generalizing handlers stream with
  | nil => rfl
  | cons building rest hyp =>
      have next := hyp (fresh.apply building)
      cases registers : building.handler? with
      | none =>
          rw [List.filter_cons_of_pos (by rw [registers]; rfl)]
          rw [← fresh.apply_withoutHandlers registers] at next
          exact next
      | some handler =>
          rw [List.filter_cons_of_neg (by rw [registers]; exact nofun)]
          rw [fresh.apply_onClose registers] at next
          exact next

/-- What is built is open and has the handlers of the calls, in their order. -/
theorem build_fresh (runner : Runner ρ κ ν) (source : StreamSource)
    (buildings : List (Building ρ μ Note)) :
    Fresh (buildings.filterMap Building.handler?) (build runner source buildings).value :=
  (fresh_start runner source).buildFrom buildings

/-- Without the calls that register handlers the same is built, without handlers. -/
theorem build_withoutHandlers (runner : Runner ρ κ ν) (source : StreamSource)
    (buildings : List (Building ρ μ Note)) :
    (build runner source (buildings.filter fun building => building.handler?.isNone)).value =
      (build runner source buildings).value.withoutHandlers :=
  (fresh_start runner source).buildFrom_withoutHandlers buildings

end RowStream

end Pushdown
