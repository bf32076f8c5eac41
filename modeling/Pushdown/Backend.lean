import Pushdown.Predicate.Lowering
import Pushdown.SortOrder
import Pushdown.Window

/-! # Backends

A backend answers queries. It supplies constructors for condition nodes, an empty query
for a source, and the run of a query. Queries only grow: conditions and sort keys are
added, the window is replaced by a composed one, and a query may be turned into a count.
-/

namespace Pushdown

/-- What a stream starts from: rows of an entity, with related fields fetched along. -/
structure StreamSource where
  joins : List String := []
  deriving DecidableEq, Inhabited

/-- The source that fetches one more related field; a repeated field changes nothing. -/
def StreamSource.joining (source : StreamSource) (field : String) : StreamSource :=
  if source.joins.contains field then source else ⟨source.joins ++ [field]⟩

/-- Types of queries under construction. -/
class BackendQuery (κ : Type) (ν : outParam Type) where
  /-- The query that also demands a condition. -/
  addCondition : κ → ν → κ
  /-- The query ordered by one more key of lowest priority. -/
  addKey : κ → SortKey → κ
  /-- Whether a query has an order. -/
  isOrdered : κ → Bool
  /-- The part of the rows that a query asks for. -/
  window : κ → Window
  /-- The query for another part of the rows. -/
  setWindow : κ → Window → κ
  /-- The query asked to count rows, and whether it now does. -/
  projectCount : κ → κ × Bool
  /-- Whether a query counts rows. -/
  isCount : κ → Bool

/-- What a query is answered with. -/
inductive QueryAnswer (ρ : Type) where
  | rows (rows : List ρ)
  | counts (counts : List Count)
  deriving DecidableEq

/-- A backend for rows of one entity. -/
structure Backend (ρ κ ν : Type) where
  /-- The empty query for a source. -/
  newQuery : StreamSource → κ
  /-- The constructors of condition nodes. -/
  conditions : ConditionBuilder ν
  /-- The run of a query, or the wording of its failure. -/
  execute : κ → Except String (QueryAnswer ρ)

/-- The backend that answers with the given counts whenever a query can be run. -/
def Backend.answering {ρ κ ν : Type} (backend : Backend ρ κ ν) (counts : List Count) :
    Backend ρ κ ν :=
  { backend with execute := fun query => (backend.execute query).map fun _ => .counts counts }

end Pushdown
