import Pushdown.Pipeline.Kind
import Pushdown.Predicate.Kind

/-! # Failures

A failure is kept as its cause. Its report classifies it, says where it comes from and
words it; some causes add a detail that says what exactly was refused.
-/

namespace Pushdown

/-- The causes of failure. -/
inductive Failure where
  /-- A pipeline that is no longer open was asked to change. -/
  | notOpen (state : Lifecycle) (action : Lifecycle.Action)
  /-- A backend cannot express a node of a predicate. -/
  | unsupportedPredicate (form : Predicate.Form)
  /-- Numeric specializations are recorded but never run. -/
  | unsupportedOperation (target : NumericTarget)
  /-- A backend failed to run a query. -/
  | backend (cause : String)
  /-- The operand of a field test has the wrong shape. -/
  | operandShape (kind : FieldTest.Kind) (found : Operand.Shape)
  /-- A field test with an operand of the wrong shape was lowered. -/
  | operandCarried (kind : FieldTest.Kind) (found : Operand.Shape)
  /-- A group needs a member. -/
  | emptyGroup (connective : Connective)
  /-- A sort order needs a key. -/
  | emptyOrder
  /-- Some close handlers failed. -/
  | closeHandlers (causes : List String)
  /-- A pipeline without a terminal was run. -/
  | missingTerminal
  /-- A backend answered with counts where rows were asked for. -/
  | countsForRows
  /-- Counts cannot answer a terminal. -/
  | countsForTerminal (kind : Terminal.Kind)
  /-- The output of a terminal has another shape than its caller asked for. -/
  | unexpectedOutput (found expected : Arity)
  deriving DecidableEq

namespace Failure

/-- What sort of failure it is. -/
inductive Class where
  | invalidState
  | unsupported
  | engine
  | internal
  | invariantViolation
  deriving DecidableEq, Inhabited

/-- The label of a class. -/
def Class.label : Class → String
  | .invalidState => "invalid_state"
  | .unsupported => "unsupported"
  | .engine => "engine"
  | .internal => "internal"
  | .invariantViolation => "invariant_violation"

/-- The name of a class. -/
def Class.name : Class → String
  | .invalidState => "InvalidState"
  | .unsupported => "Unsupported"
  | .engine => "Engine"
  | .internal => "Internal"
  | .invariantViolation => "InvariantViolation"

/-- The part that a failure comes from. -/
inductive Origin where
  | predicate
  | pipeline
  | mapper
  | merge
  | render
  | engine
  deriving DecidableEq, Inhabited

/-- The label of an origin. -/
def Origin.label : Origin → String
  | .predicate => "predicate"
  | .pipeline => "pipeline"
  | .mapper => "mapper"
  | .merge => "merge"
  | .render => "render"
  | .engine => "engine"

/-- The name of an origin. -/
def Origin.name : Origin → String
  | .predicate => "Predicate"
  | .pipeline => "Pipeline"
  | .mapper => "Mapper"
  | .merge => "Merge"
  | .render => "Render"
  | .engine => "Engine"

/-- What exactly was refused. -/
inductive Detail where
  | invalidState (state : Lifecycle)
  | unsupportedPredicate (label : String)
  | unsupportedOperation (operation : String)
  | closeHandlers (causes : List String)
  deriving DecidableEq

namespace Detail

/-- The name of a detail. -/
def name : Detail → String
  | .invalidState _ => "InvalidState"
  | .unsupportedPredicate _ => "UnsupportedPredicate"
  | .unsupportedOperation _ => "UnsupportedOperation"
  | .closeHandlers _ => "CloseHandlers"

/-- The wording of a detail. -/
def message : Detail → String
  | .invalidState state => s!"pipeline is {state.label}"
  | .unsupportedPredicate label => s!"unsupported predicate: {label}"
  | .unsupportedOperation operation => s!"unsupported operation: {operation}"
  | .closeHandlers causes => "close handlers failed: " ++ "; ".intercalate causes

end Detail

/-- A failure as it is shown. -/
structure Report where
  kind : Class
  origin : Origin
  message : String
  detail : Option Detail := none
  source : Option String := none
  deriving DecidableEq

/-- The message with origin and class in front. -/
def Report.labelled (report : Report) : String :=
  s!"{report.origin.label}:{report.kind.label}: {report.message}"

/-- The label of the predicate that a backend cannot express. -/
def Report.predicateLabel? (report : Report) : Option String :=
  match report.detail with
  | some (.unsupportedPredicate label) => some label
  | _ => none

/-- Whether the report is of a refused change to a pipeline. -/
def Report.isInvalidState (report : Report) : Bool :=
  report.kind == .invalidState

/-- Whether the report is of a predicate that a backend cannot express. -/
def Report.isUnsupportedPredicate (report : Report) : Bool :=
  report.predicateLabel?.isSome

/-- Whether the report is of an operation that is never run. -/
def Report.isUnsupportedOperation (report : Report) : Bool :=
  match report.detail with
  | some (.unsupportedOperation _) => true
  | _ => false

/-- Whether the report is of a backend's own failure. -/
def Report.isEngine (report : Report) : Bool :=
  report.kind == .engine

/-- The wording of a failure. -/
def message : Failure → String
  | .notOpen state action =>
      s!"stream has already been linked, consumed or closed ({state.label}): " ++
        s!"cannot {action.label}"
  | .unsupportedPredicate form => s!"predicate type [{form.label}] is not supported"
  | .unsupportedOperation target => s!"operation [{target.operation}] is not supported"
  | .backend cause => s!"native query execution failed: {cause}"
  | .operandShape kind found =>
      s!"predicate kind {kind.label} requires a {kind.shape.name} operand, found {found.name}"
  | .operandCarried kind found =>
      s!"predicate kind {kind.label} cannot carry a {found.name} operand"
  | .emptyGroup connective => s!"{connective.label} predicate requires at least one child"
  | .emptyOrder => "field comparator requires at least one ordering"
  | .closeHandlers causes =>
      s!"{causes.length} close handler(s) failed: " ++ "; ".intercalate causes
  | .missingTerminal => "pipeline has no terminal operation"
  | .countsForRows => "engine returned count aggregates for a row query"
  | .countsForTerminal kind => s!"count aggregate cannot feed terminal {kind.label}"
  | .unexpectedOutput found expected =>
      s!"terminal produced {found.name} output, expected {expected.name}"

/-- The class of a failure. -/
def kind : Failure → Class
  | .notOpen _ _ => .invalidState
  | .unsupportedPredicate _ | .unsupportedOperation _ => .unsupported
  | .backend _ => .engine
  | .closeHandlers _ => .internal
  | .operandShape _ _ | .operandCarried _ _ | .emptyGroup _ | .emptyOrder | .missingTerminal
  | .countsForRows | .countsForTerminal _ | .unexpectedOutput _ _ => .invariantViolation

/-- The origin of a failure. -/
def origin : Failure → Origin
  | .notOpen _ _ | .closeHandlers _ => .pipeline
  | .unsupportedPredicate _ => .mapper
  | .unsupportedOperation _ | .missingTerminal | .countsForRows | .countsForTerminal _
  | .unexpectedOutput _ _ => .render
  | .backend _ => .engine
  | .operandShape _ _ | .operandCarried _ _ | .emptyGroup _ | .emptyOrder => .predicate

/-- What exactly a failure refused, for the causes that say so. -/
def detail? : Failure → Option Detail
  | .notOpen state _ => some (.invalidState state)
  | .unsupportedPredicate form => some (.unsupportedPredicate form.label)
  | .unsupportedOperation target => some (.unsupportedOperation target.operation)
  | .closeHandlers causes => some (.closeHandlers causes)
  | _ => none

/-- The backend's own wording of its failure. -/
def source? : Failure → Option String
  | .backend cause => some cause
  | _ => none

/-- The report of a failure. -/
def report (failure : Failure) : Report where
  kind := failure.kind
  origin := failure.origin
  message := failure.message
  detail := failure.detail?
  source := failure.source?

end Failure

end Pushdown
