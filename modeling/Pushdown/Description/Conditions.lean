import Pushdown.Binary64.Layout
import Pushdown.Description
import Pushdown.Predicate
import Pushdown.SortOrder

/-! # Descriptions of values, predicates and sort orders -/

namespace Pushdown

mutual

/-- The description of a value: its form, then its content. -/
def Value.description : Value → Description
  | .null => .word "Null"
  | .bool value => .tuple "Bool" [describe value]
  | .int value => .tuple "Int" [describe value]
  | .uint value => .tuple "Uint" [describe value]
  | .float value => .tuple "Float64" [.tuple "Float64" [.word (Layout.tagged.text value)]]
  | .text value => .tuple "Text" [describe value]
  | .list items => .tuple "List" [.list (Value.descriptions items)]

/-- The descriptions of several values. -/
def Value.descriptions : List Value → List Description
  | [] => []
  | value :: rest => value.description :: Value.descriptions rest

end

instance : Describe Value := ⟨Value.description⟩

instance : Describe Operand :=
  ⟨fun operand =>
    match operand with
    | .value value => .tuple "Value" [describe value]
    | .range start stop inclusion =>
        .record "Range" [("start", describe start), ("end", describe stop),
          ("inclusion", .word inclusion.name)]
    | .set values => .tuple "Set" [describe values]⟩

instance : Describe FieldTest :=
  ⟨fun test => .record "FieldPredicate"
    [("field", describe test.field), ("kind", .word test.kind.name),
      ("operand", describe test.operand)]⟩

mutual

/-- The description of a predicate: a test, or a group with its members. -/
def Predicate.description : Predicate → Description
  | .test leaf => .tuple "Field" [describe leaf]
  | .group connective members => .tuple "Combined" [.record "CombinedPredicate"
      [("kind", .word connective.name), ("children", .list (Predicate.descriptions members))]]

/-- The descriptions of several predicates. -/
def Predicate.descriptions : List Predicate → List Description
  | [] => []
  | predicate :: rest => predicate.description :: Predicate.descriptions rest

end

instance : Describe Predicate := ⟨Predicate.description⟩

instance : Describe SortKey :=
  ⟨fun key => .record "FieldOrdering"
    [("field", describe key.field), ("direction", .word key.direction.name),
      ("nulls", .word key.nulls.name)]⟩

instance : Describe SortOrder := ⟨fun order => .tuple "FieldComparator" [describe order.keys]⟩

end Pushdown
