import Pushdown.Settings

/-! # Running pipelines

A run simplifies the pipeline, pushes what it can into one query, has the backend answer it
once, and leaves the rest to the terminal. Observers see how far a run came. Counts are
accepted only from a counting query with nothing left to run.
-/

namespace Pushdown

/-- What an observer of a run sees. Numbers are cut to 32 bits. -/
inductive RunEvent where
  | start (root : String) (stages : Nat)
  | merged (root : String) (pushed residual : Nat) (counting : Bool)
  | finish (root : String) (counting : Bool)
  | error (root : String) (kind : Failure.Class) (origin : Failure.Origin)
  deriving DecidableEq

/-- The largest number in an event. -/
def RunEvent.largest : Nat :=
  UInt32.size - 1

/-- A number as it stands in an event. -/
def RunEvent.size (number : Nat) : Nat :=
  min number largest

/-- What the terminal of a run works on. -/
inductive Found (Note α : Type) where
  | elements (flow : Flow Note α)
  | counts (counts : List Count)

/-- The outcome of a run: what was found, and the terminal to apply to it. -/
structure Delivery (Note α : Type) where
  found : Found Note α
  terminal : Terminal Note α

namespace Delivery

variable {Note α : Type}

/-- Whether a backend has counted in place of the pipeline. -/
def isCount (delivery : Delivery Note α) : Bool :=
  match delivery.found with
  | .elements _ => false
  | .counts _ => true

/-- The output of the terminal. Counts answer a count alone. -/
def finish (delivery : Delivery Note α) : Noted Note (Except Failure (Output Note α)) :=
  match delivery.found, delivery.terminal with
  | .counts counts, .count => ⟨[], .ok (.count (Count.sum counts))⟩
  | .counts _, terminal => ⟨[], .error (.countsForTerminal terminal.kind)⟩
  | .elements flow, terminal =>
      let output := terminal.consume flow
      ⟨output.notes, .ok output.value⟩

end Delivery

/-- The course of a run. -/
structure Run (κ Note α : Type) where
  events : List RunEvent
  /-- The queries that the backend was asked to answer. -/
  executed : List κ
  outcome : Except Failure (Delivery Note α)

/-- A backend with the settings of its runs. -/
structure Runner (ρ κ ν : Type) where
  backend : Backend ρ κ ν
  settings : Settings := {}
  /-- Whether somebody observes the runs. -/
  observed : Bool := false

namespace Runner

variable {ρ κ ν μ Note : Type} [Entity ρ] [BackendQuery κ ν]

/-- The pipeline that the simplifications make of another. -/
def simplify (runner : Runner ρ κ ν) (pipeline : Pipeline Note (Element ρ μ)) :
    Pipeline Note (Element ρ μ) :=
  Simplification.applyAll runner.settings.simplifications pipeline

/-- The plan of a pipeline over a source. -/
def compile (runner : Runner ρ κ ν) (pipeline : Pipeline Note (Element ρ μ))
    (source : StreamSource) : Except Failure (Plan κ Note (Element ρ μ)) :=
  match pipeline.runnable with
  | .error failure => .error failure
  | .ok _ =>
      PushRule.applyAll runner.backend.conditions runner.settings.activeRules
        ⟨runner.simplify pipeline, runner.backend.newQuery source⟩

/-- What a backend's answer leaves for a terminal, after the stages left in a plan. None of them
may be a numeric specialization. -/
def receive (plan : Plan κ Note (Element ρ μ)) (answer : Except String (QueryAnswer ρ)) :
    Except Failure (Delivery Note (Element ρ μ)) :=
  match answer, plan.pipeline.terminal with
  | .error cause, _ => .error (.backend cause)
  | .ok _, none => .error .missingTerminal
  | .ok (.rows rows), some terminal =>
      match plan.pipeline.target? with
      | some target => .error (.unsupportedOperation target)
      | none =>
          let flow := .later fun _ => .ofList (rows.map .row)
          .ok ⟨.elements (Stage.runAll plan.pipeline.stages flow), terminal⟩
  | .ok (.counts counts), some terminal =>
      if BackendQuery.isCount plan.query && plan.pipeline.stages.isEmpty then
        .ok ⟨.counts counts, terminal⟩
      else .error .countsForRows

/-- The last event of a run. -/
def lastEvent (outcome : Except Failure (Delivery Note (Element ρ μ))) : RunEvent :=
  match outcome with
  | .ok delivery => .finish (Entity.name ρ) delivery.isCount
  | .error failure => .error (Entity.name ρ) failure.kind failure.origin

/-- The event of a plan made from a simplified pipeline. -/
def mergedEvent (simplified : Pipeline Note (Element ρ μ)) (plan : Plan κ Note (Element ρ μ)) :
    RunEvent :=
  .merged (Entity.name ρ)
    (RunEvent.size (simplified.stages.length - plan.pipeline.stages.length))
    (RunEvent.size plan.pipeline.stages.length) (BackendQuery.isCount plan.query)

/-- Asks the backend a query, and records it behind the queries that it was asked before. -/
def ask (runner : Runner ρ κ ν) (query : κ) :
    StateM (List κ) (Except String (QueryAnswer ρ)) := do
  modify (· ++ [query])
  return runner.backend.execute query

/-- What an observer sees of a run, and its outcome. Only by asking does it reach the backend. -/
def course (runner : Runner ρ κ ν) (pipeline : Pipeline Note (Element ρ μ))
    (source : StreamSource) :
    StateM (List κ) (List RunEvent × Except Failure (Delivery Note (Element ρ μ))) := do
  let start := RunEvent.start (Entity.name ρ) (RunEvent.size pipeline.stages.length)
  match runner.compile pipeline source with
  | .error failure =>
      return ([start, .error (Entity.name ρ) failure.kind failure.origin], .error failure)
  | .ok plan =>
      let answer ← runner.ask plan.query
      let outcome := receive plan answer
      return ([start, mergedEvent (runner.simplify pipeline) plan, lastEvent outcome], outcome)

/-- The run of a pipeline over a source. -/
def run (runner : Runner ρ κ ν) (pipeline : Pipeline Note (Element ρ μ))
    (source : StreamSource) : Run κ Note (Element ρ μ) :=
  let ((events, outcome), executed) := (runner.course pipeline source).run []
  { events := if runner.observed then events else []
    executed := executed
    outcome := outcome }

end Runner

end Pushdown
