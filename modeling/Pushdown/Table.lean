import Pushdown.Backend
import Pushdown.Predicate.Evaluation

/-! # Tables

A backend over a fixed list of rows. It answers conditions with the same three-valued
results as predicates, sorts stably, and then cuts out the window. Single abilities can
be switched off.
-/

namespace Pushdown

/-- A condition node of a table. -/
inductive TableCondition where
  | compare (field : String) (comparison : Comparison) (value : Value)
  | range (field : String) (start stop : Value) (inclusion : Inclusion) (negated : Bool)
  | membership (field : String) (values : List Value) (negated : Bool)
  | group (connective : Connective) (members : List TableCondition)
  deriving Inhabited

namespace TableCondition

/-- A result, complemented when asked for. -/
def signed (negated : Bool) (result : Truth) : Truth :=
  if negated then result.not else result

mutual

/-- The result of a condition on a row. -/
def evaluate {ρ : Type} [Entity ρ] (row : ρ) : TableCondition → Truth
  | .compare field comparison value => (Entity.value row field).satisfies? comparison value
  | .range field start stop inclusion negated =>
      signed negated ((Entity.value row field).within? start stop inclusion)
  | .membership field values negated =>
      signed negated ((Entity.value row field).among? values)
  | .group connective members => connective.combine (evaluateAll row members)

/-- The results of several conditions on a row. -/
def evaluateAll {ρ : Type} [Entity ρ] (row : ρ) : List TableCondition → List Truth
  | [] => []
  | condition :: rest => evaluate row condition :: evaluateAll row rest

end

end TableCondition

/-- A query on a table. -/
structure TableQuery where
  root : String
  joins : List String
  conditions : List TableCondition := []
  keys : List SortKey := []
  window : Window := {}
  counting : Bool := false
  canCount : Bool

namespace TableQuery

/-- Whether a query can count, it does so from now on. -/
def projectCount (query : TableQuery) : TableQuery × Bool :=
  let asked := { query with counting := query.counting || query.canCount }
  (asked, asked.counting)

instance : BackendQuery TableQuery TableCondition where
  addCondition query condition := { query with conditions := query.conditions ++ [condition] }
  addKey query key := { query with keys := query.keys ++ [key] }
  isOrdered query := !query.keys.isEmpty
  window := TableQuery.window
  setWindow query window := { query with window := window }
  projectCount := projectCount
  isCount := TableQuery.counting

variable {ρ : Type} [Entity ρ]

/-- Whether a row satisfies every condition of a query. -/
def accepts (query : TableQuery) (row : ρ) : Bool :=
  query.conditions.all fun condition => (condition.evaluate row).holds

/-- The rows that a query asks for, in its order. -/
def select (query : TableQuery) (rows : List ρ) : List ρ :=
  query.window.apply (sortedBy (SortKey.compareBy query.keys) (rows.filter query.accepts))

end TableQuery

/-- A fixed list of rows and the abilities of the backend over it. -/
structure Table (ρ : Type) where
  rows : List ρ
  hasAnd : Bool := true
  hasOr : Bool := true
  hasCount : Bool := true
  failure : Option String := none

namespace Table

variable {ρ : Type}

/-- The condition nodes of a table. -/
def conditions (table : Table ρ) : ConditionBuilder TableCondition where
  comparison field comparison value := some (.compare field comparison value)
  range field start stop inclusion negated := some (.range field start stop inclusion negated)
  membership field values negated := some (.membership field values negated)
  combine connective members :=
    match connective with
    | .and => if table.hasAnd then some (.group .and members) else none
    | .or => if table.hasOr then some (.group .or members) else none

/-- The answer to a query. -/
def execute [Entity ρ] (table : Table ρ) (query : TableQuery) :
    Except String (QueryAnswer ρ) :=
  match table.failure with
  | some message => .error s!"memory engine failure: {message}"
  | none =>
      let rows := query.select table.rows
      .ok (if query.counting then .counts [.ofNat rows.length] else .rows rows)

/-- The backend over a table. -/
def backend [Entity ρ] (table : Table ρ) : Backend ρ TableQuery TableCondition where
  newQuery source :=
    { root := Entity.name ρ, joins := source.joins, canCount := table.hasCount }
  conditions := table.conditions
  execute := table.execute

end Table

end Pushdown
