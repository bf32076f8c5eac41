import Pushdown.Value

/-! # Entities

An entity is a type of rows with named fields. A field may be missing from a row, and
a missing field counts as absent.
-/

namespace Pushdown

/-- Types of rows whose fields are read by name. -/
class Entity (ρ : Type) where
  /-- The name under which a backend knows the entity. -/
  name : String
  /-- The value of a field, if the row has that field. -/
  field? : ρ → String → Option Value

namespace Entity

/-- The value of a field; a missing field is null. -/
def value {ρ : Type} [Entity ρ] (row : ρ) (field : String) : Value :=
  (field? row field).getD .null

end Entity

end Pushdown
