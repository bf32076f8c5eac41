import Pushdown.Json.Coding
import Pushdown.Predicate
import Pushdown.SortOrder

/-! # Values, predicates and sort orders in JSON -/

namespace Pushdown

instance : JsonCoded Comparison := .ofNames Comparison.all Comparison.name

instance : JsonCoded Inclusion := .ofNames Inclusion.all Inclusion.name

instance : JsonCoded FieldTest.Kind := .ofNames FieldTest.Kind.all FieldTest.Kind.name

instance : JsonCoded Connective := .ofNames Connective.all Connective.name

instance : JsonCoded Direction := .ofNames Direction.all Direction.name

instance : JsonCoded NullPlacement := .ofNames NullPlacement.all NullPlacement.name

namespace Value

mutual

/-- The JSON value of a value. -/
def toJson : Value → Json
  | .null => "Null"
  | .bool value => .object [("Bool", encode value)]
  | .int value => .object [("Int", encode value)]
  | .uint value => .object [("Uint", encode value)]
  | .float value => .object [("Float64", encode value)]
  | .text value => .object [("Text", encode value)]
  | .list items => .object [("List", .array (toJsonItems items))]

/-- The JSON values of several values. -/
def toJsonItems : List Value → List Json
  | [] => []
  | value :: rest => toJson value :: toJsonItems rest

end

mutual

/-- The value that a JSON value is read as. -/
def ofJson : Json → Decoded Value
  | .text "Null" => .ok .null
  | .object [("Null", .null)] => .ok .null
  | .object [("Bool", json)] => (decode json).map .bool
  | .object [("Int", json)] => (decode json).map .int
  | .object [("Uint", json)] => (decode json).map .uint
  | .object [("Float64", json)] => (decode json).map .float
  | .object [("Text", json)] => (decode json).map .text
  | .object [("List", json)] => (ofJsonList json).map .list
  | _ => .wrong

/-- The values that a JSON array is read as. -/
def ofJsonList : Json → Decoded (List Value)
  | .array items => ofJsonItems items
  | _ => .wrong

/-- The values that several JSON values are read as. -/
def ofJsonItems : List Json → Decoded (List Value)
  | [] => .ok []
  | json :: rest =>
      match ofJson json with
      | .error failure => .error failure
      | .ok value => (ofJsonItems rest).map (value :: ·)

end

instance : JsonCoded Value := ⟨toJson, ofJson⟩

end Value

namespace Operand

/-- The JSON value of an operand. -/
def toJson : Operand → Json
  | .value single => .object [("Value", encode single)]
  | .range start stop inclusion => .object [("Range", .object
      [("end", encode stop), ("inclusion", encode inclusion), ("start", encode start)])]
  | .set values => .object [("Set", encode values)]

/-- The operand that a JSON value is read as. The parts of a range are named. -/
def ofJson : Json → Decoded Operand
  | .object [("Value", json)] => (decode json).map .value
  | .object [("Range", .object fields)] => do
      let start ← Decoded.present (fields.lookup "start")
      let stop ← Decoded.present (fields.lookup "end")
      let inclusion ← Decoded.present (fields.lookup "inclusion")
      return .range (← decode start) (← decode stop) (← decode inclusion)
  | .object [("Set", json)] => (decode json).map .set
  | _ => .wrong

instance : JsonCoded Operand := ⟨toJson, ofJson⟩

end Operand

namespace FieldTest

/-- The JSON value of a field test. -/
def toJson (test : FieldTest) : Json :=
  .object [("field", encode test.field), ("kind", encode test.kind),
    ("operand", encode test.operand)]

/-- The field test that a JSON value is read as. -/
def ofJson (json : Json) : Decoded FieldTest :=
  match json.parts? ["field", "kind", "operand"] with
  | some [field, kind, operand] => do
      Decoded.checked (FieldTest.of? (← decode field) (← decode kind) (← decode operand))
  | _ => .wrong

instance : JsonCoded FieldTest := ⟨toJson, ofJson⟩

end FieldTest

namespace Predicate

mutual

/-- The JSON value of a predicate. -/
def toJson : Predicate → Json
  | .test leaf => .object [("Field", encode leaf)]
  | .group connective members => .object [("Combined", groupJson connective members)]

/-- The JSON value of a group. -/
def groupJson (connective : Connective) (members : List Predicate) : Json :=
  .object [("children", .array (toJsonMembers members)), ("kind", encode connective)]

/-- The JSON values of several predicates. -/
def toJsonMembers : List Predicate → List Json
  | [] => []
  | predicate :: rest => toJson predicate :: toJsonMembers rest

end

/-- The JSON value of a predicate without the name of its form. -/
def contentJson : Predicate → Json
  | .test leaf => encode leaf
  | .group connective members => groupJson connective members

/-- A group read from its parts; a fault among the members is met first. -/
def groupOf (connective : Json) (members : Decoded (List Predicate)) : Decoded Predicate := do
  let members ← members
  Decoded.checked (group? (← decode connective) members)

mutual

/-- The predicate that a JSON value is read as. -/
def ofJson : Json → Decoded Predicate
  | .object [("Field", json)] => (decode json).map .test
  | .object [("Combined", json)] => groupOfJson json
  | _ => .wrong

/-- The group that a JSON value is read as. -/
def groupOfJson : Json → Decoded Predicate
  | .object fields =>
      match membersOfFields fields, fields.lookup "kind" with
      | some members, some connective => groupOf connective members
      | some (.error failure), none => .error failure
      | _, _ => .wrong
  | .array (connective :: members :: rest) =>
      match (decode connective : Decoded Connective) with
      | .error failure => .error failure
      | .ok _ => groupOf connective (Decoded.ending rest (membersOfJson members))
  | _ => .wrong

/-- The members among the fields of a group. -/
def membersOfFields : List (String × Json) → Option (Decoded (List Predicate))
  | [] => none
  | (name, json) :: rest =>
      if name = "children" then some (membersOfJson json) else membersOfFields rest

/-- The members that a JSON array is read as. -/
def membersOfJson : Json → Decoded (List Predicate)
  | .array items => ofJsonMembers items
  | _ => .wrong

/-- The predicates that several JSON values are read as. -/
def ofJsonMembers : List Json → Decoded (List Predicate)
  | [] => .ok []
  | json :: rest =>
      match ofJson json with
      | .error failure => .error failure
      | .ok predicate => (ofJsonMembers rest).map (predicate :: ·)

end

instance : JsonCoded Predicate := ⟨toJson, ofJson⟩

end Predicate

namespace SortKey

/-- The JSON value of a sort key. -/
def toJson (key : SortKey) : Json :=
  .object [("direction", encode key.direction), ("field", encode key.field),
    ("nulls", encode key.nulls)]

/-- The sort key that a JSON value is read as. -/
def ofJson (json : Json) : Decoded SortKey :=
  match json.parts? ["field", "direction", "nulls"] with
  | some [field, direction, nulls] => do
      return ⟨← decode field, ← decode direction, ← decode nulls⟩
  | _ => .wrong

instance : JsonCoded SortKey := ⟨toJson, ofJson⟩

end SortKey

/-- A sort order is the list of its keys. -/
instance : JsonCoded SortOrder where
  encode order := encode order.keys
  decode json := do
    Decoded.checked (SortOrder.ofKeys? (← decode json))

end Pushdown
