import Pushdown.Entity
import Pushdown.Failure
import Pushdown.Value.Order

/-! # Sort orders

A sort order is a first key and further keys of falling priority. Nulls stand at one end
whatever the direction, so reversing an order turns the directions alone.
-/

namespace Pushdown

/-- The direction of a sort key. -/
inductive Direction where
  | ascending
  | descending
  deriving DecidableEq, Inhabited

namespace Direction

/-- Both directions. -/
def all : List Direction :=
  [.ascending, .descending]

/-- The opposite direction. -/
def reverse : Direction → Direction
  | .ascending => .descending
  | .descending => .ascending

/-- The name of a direction. -/
def name : Direction → String
  | .ascending => "Asc"
  | .descending => "Desc"

end Direction

/-- The end at which nulls stand. -/
inductive NullPlacement where
  | first
  | last
  deriving DecidableEq

namespace NullPlacement

/-- Nulls stand last unless told otherwise. -/
instance : Inhabited NullPlacement := ⟨.last⟩

/-- Both placements. -/
def all : List NullPlacement :=
  [.first, .last]

/-- The name of a placement. -/
def name : NullPlacement → String
  | .first => "First"
  | .last => "Last"

end NullPlacement

/-- One key of a sort order. -/
structure SortKey where
  field : String
  direction : Direction := .ascending
  nulls : NullPlacement := .last
  deriving DecidableEq

namespace SortKey

/-- The order of two values under a key. -/
def compareValues (key : SortKey) (left right : Value) : Ordering :=
  match left.isNull, right.isNull with
  | true, true => .eq
  | true, false => if key.nulls = .first then .lt else .gt
  | false, true => if key.nulls = .first then .gt else .lt
  | false, false =>
      let order := left.sortCompare right
      if key.direction = .ascending then order else order.swap

/-- The order of two rows under a key. -/
def compare {ρ : Type} [Entity ρ] (key : SortKey) (left right : ρ) : Ordering :=
  key.compareValues (Entity.value left key.field) (Entity.value right key.field)

/-- The order of two rows under several keys: the first key that tells them apart decides. -/
def compareBy {ρ : Type} [Entity ρ] (keys : List SortKey) (left right : ρ) : Ordering :=
  keys.foldr (fun key order => (key.compare left right).then order) .eq

/-- The same key in the opposite direction. -/
def reverse (key : SortKey) : SortKey :=
  { key with direction := key.direction.reverse }

end SortKey

/-- A sort order on rows. -/
structure SortOrder where
  first : SortKey
  rest : List SortKey := []
  deriving DecidableEq

namespace SortOrder

/-- The keys of an order, the most important first. -/
def keys (order : SortOrder) : List SortKey :=
  order.first :: order.rest

/-- The order with the given keys, refused when there are none. -/
def ofKeys? : List SortKey → Except Failure SortOrder
  | [] => .error .emptyOrder
  | first :: rest => .ok ⟨first, rest⟩

/-- The order with one more key of lowest priority. -/
def thenKey (order : SortOrder) (key : SortKey) : SortOrder :=
  { order with rest := order.rest ++ [key] }

/-- The order refined by another order. -/
def thenBy (order refinement : SortOrder) : SortOrder :=
  { order with rest := order.rest ++ refinement.keys }

/-- The order with every direction turned. -/
def reversed (order : SortOrder) : SortOrder where
  first := order.first.reverse
  rest := order.rest.map SortKey.reverse

/-- The order of two rows. -/
def compare {ρ : Type} [Entity ρ] (order : SortOrder) (left right : ρ) : Ordering :=
  SortKey.compareBy order.keys left right

end SortOrder

/-- A list in the order of a comparison; equal elements keep their places. -/
def sortedBy {α : Type} (compare : α → α → Ordering) (elements : List α) : List α :=
  elements.mergeSort fun left right => (compare left right).isLE

end Pushdown
