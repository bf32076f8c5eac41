import Pushdown.Entity

/-! # Records

A record lists its fields with their values. It is the plainest entity: what a predicate
or a sort order sees of a row is what the list says.
-/

namespace Pushdown

/-- A row that lists its fields. -/
structure Record where
  fields : List (String × Value)
  deriving DecidableEq

instance : Entity Record where
  name := "Record"
  field? record field := record.fields.lookup field

end Pushdown
