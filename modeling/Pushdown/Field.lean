import Pushdown.Description
import Pushdown.Predicate
import Pushdown.SortOrder
import Pushdown.Value.Conversion

/-! # Typed fields

A field of a known type builds predicates and sort orders from typed operands. No
schema is consulted.
-/

namespace Pushdown

/-- A field whose values have a known type. -/
structure Field (α : Type) where
  name : String

namespace Field

variable {α : Type} [ToValue α]

/-- The field compared with an operand. -/
def compare (field : Field α) (comparison : Comparison) (operand : α) : Predicate :=
  .test (.compare field.name comparison (toValue operand))

/-- The field equals an operand. -/
def equal (field : Field α) (operand : α) : Predicate :=
  field.compare .equal operand

/-- The field differs from an operand. -/
def notEqual (field : Field α) (operand : α) : Predicate :=
  field.compare .notEqual operand

/-- The field is greater than an operand. -/
def greaterThan (field : Field α) (operand : α) : Predicate :=
  field.compare .greater operand

/-- The field is at least an operand. -/
def greaterOrEqual (field : Field α) (operand : α) : Predicate :=
  field.compare .greaterOrEqual operand

/-- The field is less than an operand. -/
def lessThan (field : Field α) (operand : α) : Predicate :=
  field.compare .less operand

/-- The field is at most an operand. -/
def lessOrEqual (field : Field α) (operand : α) : Predicate :=
  field.compare .lessOrEqual operand

/-- The field lies in a range with the given ends. -/
def betweenWith (field : Field α) (start stop : α) (inclusion : Inclusion) : Predicate :=
  .test (.range field.name false (toValue start) (toValue stop) inclusion)

/-- The field lies outside a range with the given ends. -/
def notBetweenWith (field : Field α) (start stop : α) (inclusion : Inclusion) : Predicate :=
  .test (.range field.name true (toValue start) (toValue stop) inclusion)

/-- The field lies in a range with its start and without its end. -/
def between (field : Field α) (start stop : α) : Predicate :=
  field.betweenWith start stop .startOnly

/-- The field lies outside a range with its start and without its end. -/
def notBetween (field : Field α) (start stop : α) : Predicate :=
  field.notBetweenWith start stop .startOnly

/-- The field equals one of several operands. -/
def oneOf (field : Field α) (operands : List α) : Predicate :=
  .test (.set field.name false (operands.map toValue))

/-- The field equals none of several operands. -/
def noneOf (field : Field α) (operands : List α) : Predicate :=
  .test (.set field.name true (operands.map toValue))

omit [ToValue α] in
/-- Ascending by the field, nulls last. -/
def ascending (field : Field α) : SortOrder :=
  ⟨⟨field.name, .ascending, .last⟩, []⟩

omit [ToValue α] in
/-- Ascending by the field, nulls first. -/
def ascendingNullsFirst (field : Field α) : SortOrder :=
  ⟨⟨field.name, .ascending, .first⟩, []⟩

omit [ToValue α] in
/-- Descending by the field, nulls last. -/
def descending (field : Field α) : SortOrder :=
  ⟨⟨field.name, .descending, .last⟩, []⟩

end Field

instance {α : Type} : Describe (Field α) := ⟨fun field => .tuple "Field" [describe field.name]⟩

end Pushdown
