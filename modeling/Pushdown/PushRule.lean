import Pushdown.Backend
import Pushdown.Pipeline

/-! # Pushing stages into a query

A plan is a query and the pipeline that is left to run over its answer. A rule moves
stages from the head of the pipeline into the query, so what is left never precedes what
was moved. A rule that does not apply changes nothing.
-/

namespace Pushdown

/-- A query with the pipeline to run over its answer. -/
structure Plan (κ Note α : Type) where
  pipeline : Pipeline Note α
  query : κ

/-- The rules. -/
inductive PushRule where
  /-- Leading predicates become one condition of the query. -/
  | filter
  /-- A leading sort by fields becomes the order of the query. -/
  | sort
  /-- Leading skips and limits become the window of the query. -/
  | slice
  /-- A count of nothing but the query becomes a counting query. -/
  | count
  deriving DecidableEq, Inhabited

namespace PushRule

/-- All rules, in the order in which they run by default. -/
def all : List PushRule :=
  [.filter, .sort, .slice, .count]

/-- The name of a rule in settings. -/
def label : PushRule → String
  | .filter => "filter"
  | .sort => "sort"
  | .slice => "slice"
  | .count => "count"

/-- The diagnostic name of a rule. -/
def name : PushRule → String
  | .filter => "Filter"
  | .sort => "Sort"
  | .slice => "Slice"
  | .count => "Count"

variable {κ ν Note α : Type} [BackendQuery κ ν]

omit [BackendQuery κ ν] in
/-- The plan with other stages left to run. -/
def leaving (plan : Plan κ Note α) (stages : List (Stage Note α)) (query : κ) :
    Plan κ Note α where
  pipeline := { plan.pipeline with stages := stages }
  query := query

/-- The predicates of the leading filters, and the stages after them. -/
def leadingPredicates : List (Stage Note α) → List Predicate × List (Stage Note α)
  | .filter predicate :: rest =>
      let (predicates, rest) := leadingPredicates rest
      (predicate :: predicates, rest)
  | stages => ([], stages)

/-- One predicate for several: the only one, or their conjunction. -/
def conjunction? : List Predicate → Option Predicate
  | [] => none
  | [predicate] => some predicate
  | predicates => some (.group .and predicates)

/-- The window after the leading skips and limits, and the stages after them. -/
def leadingWindow (window : Window) : List (Stage Note α) → Window × List (Stage Note α)
  | .skip amount :: rest => leadingWindow (window.thenSkip amount) rest
  | .limit amount :: rest => leadingWindow (window.thenLimit amount) rest
  | stages => (window, stages)

/-- Pushes leading predicates, unless the query already cuts or counts. -/
def pushFilter (builder : ConditionBuilder ν) (plan : Plan κ Note α) :
    Except Failure (Plan κ Note α) :=
  if (BackendQuery.window plan.query).isBounded || BackendQuery.isCount plan.query then .ok plan
  else
    let (predicates, rest) := leadingPredicates plan.pipeline.stages
    match conjunction? predicates with
    | none => .ok plan
    | some predicate =>
        match builder.lower predicate with
        | .error failure => .error failure
        | .ok condition => .ok (leaving plan rest (BackendQuery.addCondition plan.query condition))

/-- Pushes a leading sort by fields, unless the query already sorts, cuts or counts. -/
def pushSort (plan : Plan κ Note α) : Plan κ Note α :=
  if BackendQuery.isOrdered plan.query || (BackendQuery.window plan.query).isBounded ||
      BackendQuery.isCount plan.query then plan
  else
    match plan.pipeline.stages with
    | .sortedByField order :: rest =>
        leaving plan rest (order.keys.foldl BackendQuery.addKey plan.query)
    | _ => plan

/-- Pushes leading skips and limits, unless the query already counts. -/
def pushSlice (plan : Plan κ Note α) : Plan κ Note α :=
  if BackendQuery.isCount plan.query then plan
  else
    match plan.pipeline.stages with
    | .skip _ :: _ | .limit _ :: _ =>
        let (window, rest) :=
          leadingWindow (BackendQuery.window plan.query) plan.pipeline.stages
        leaving plan rest (BackendQuery.setWindow plan.query window)
    | _ => plan

/-- Whether a plan only counts the rows of a query that neither cuts nor counts yet. -/
def onlyCounts (plan : Plan κ Note α) : Bool :=
  match plan.pipeline.terminal, plan.pipeline.stages with
  | some .count, [] =>
      !(BackendQuery.window plan.query).isBounded && !BackendQuery.isCount plan.query
  | _, _ => false

/-- Asks the query of a plan that only counts to do the counting. -/
def pushCount (plan : Plan κ Note α) : Plan κ Note α :=
  if onlyCounts plan then { plan with query := (BackendQuery.projectCount plan.query).1 }
  else plan

/-- The plan that a rule makes of another. -/
def apply (builder : ConditionBuilder ν) (plan : Plan κ Note α) :
    PushRule → Except Failure (Plan κ Note α)
  | .filter => pushFilter builder plan
  | .sort => .ok (pushSort plan)
  | .slice => .ok (pushSlice plan)
  | .count => .ok (pushCount plan)

/-- The plan that several rules make of another; the first failure ends the work. -/
def applyAll (builder : ConditionBuilder ν) (rules : List PushRule) (plan : Plan κ Note α) :
    Except Failure (Plan κ Note α) :=
  rules.foldlM (apply builder) plan

end PushRule

end Pushdown
