import Pushdown.Failure
import Pushdown.Pipeline.Stage
import Pushdown.Pipeline.Terminal

/-! # Pipelines

A pipeline records stages, at most one terminal, and handlers to run when it is closed.
Stages and the terminal are accepted while it is open, handlers until it is closed, and
a refused change leaves it as it was.
-/

namespace Pushdown

/-- Something to do when a pipeline is closed: a note, and perhaps a failure. -/
structure CloseHandler (Note : Type) where
  note : Note
  failure : Option String := none

/-- A pipeline over elements `α`, with notes `Note`. -/
structure Pipeline (Note α : Type) where
  stages : List (Stage Note α) := []
  terminal : Option (Terminal Note α) := none
  parallel : Bool := false
  ordered : Bool := true
  closeHandlers : List (CloseHandler Note) := []
  state : Lifecycle := .opened

namespace Pipeline

variable {Note α : Type}

instance : Inhabited (Pipeline Note α) := ⟨{}⟩

/-- A pipeline that is still open, or the refusal of an action on it. -/
def whenOpen (pipeline : Pipeline Note α) (action : Lifecycle.Action)
    (changed : Pipeline Note α) : Except Failure (Pipeline Note α) :=
  if pipeline.state = .opened then .ok changed else .error (.notOpen pipeline.state action)

/-- The pipeline with one more stage. -/
def append (pipeline : Pipeline Note α) (stage : Stage Note α) :
    Except Failure (Pipeline Note α) :=
  pipeline.whenOpen .append { pipeline with stages := pipeline.stages ++ [stage] }

/-- The pipeline with a last stage, after which it takes nothing more. -/
def link (pipeline : Pipeline Note α) (stage : Stage Note α) :
    Except Failure (Pipeline Note α) :=
  pipeline.whenOpen .link
    { pipeline with stages := pipeline.stages ++ [stage], state := .linked }

/-- The pipeline with its terminal. -/
def setTerminal (pipeline : Pipeline Note α) (terminal : Terminal Note α) :
    Except Failure (Pipeline Note α) :=
  pipeline.whenOpen .setTerminal { pipeline with terminal := some terminal, state := .consumed }

/-- The pipeline with one more close handler. -/
def onClose (pipeline : Pipeline Note α) (handler : CloseHandler Note) :
    Except Failure (Pipeline Note α) :=
  if pipeline.state = .closed then .error (.notOpen pipeline.state .onClose)
  else .ok { pipeline with closeHandlers := pipeline.closeHandlers ++ [handler] }

/-- The failures of the close handlers, in order. -/
def closeFailures (pipeline : Pipeline Note α) : List String :=
  pipeline.closeHandlers.filterMap CloseHandler.failure

/-- What closing does: every handler makes its note, and the failures are joined. -/
def close (pipeline : Pipeline Note α) : Noted Note (Except Failure Unit) where
  notes := pipeline.closeHandlers.map CloseHandler.note
  value :=
    if pipeline.closeFailures.isEmpty then .ok ()
    else .error (.closeHandlers pipeline.closeFailures)

/-- The pipeline after closing; no handler is left to run again. -/
def closed (pipeline : Pipeline Note α) : Pipeline Note α :=
  { pipeline with closeHandlers := [], state := .closed }

/-- The numeric specialization among the stages, the first if there are several. -/
def target? (pipeline : Pipeline Note α) : Option NumericTarget :=
  pipeline.stages.findSome? Stage.target?

/-- The terminal of a pipeline that can be run: one without numeric specialization. -/
def runnable (pipeline : Pipeline Note α) : Except Failure (Terminal Note α) :=
  match pipeline.target?, pipeline.terminal with
  | some target, _ => .error (.unsupportedOperation target)
  | none, none => .error .missingTerminal
  | none, some terminal => .ok terminal

end Pipeline

end Pushdown
