import Pushdown.Binary64

/-! # JSON values

Numbers keep the form in which they are written: a whole number within 64 bits stays
whole, any other number is a binary64 number, and the zero with a minus sign keeps it.
Objects keep their fields as a list.
-/

namespace Pushdown

/-- A JSON value. -/
inductive Json where
  | null
  | bool (value : Bool)
  | whole (value : Int)
  | binary (value : Binary64)
  | negativeZero
  | text (value : String)
  | array (items : List Json)
  | object (fields : List (String × Json))
  deriving Inhabited

instance : Coe String Json := ⟨.text⟩

instance : Coe Bool Json := ⟨.bool⟩

instance : Coe Nat Json := ⟨fun number => .whole number⟩

namespace Json

/-- The whole numbers that stay whole: those of the signed and unsigned 64-bit types. -/
def isWhole (value : Int) : Bool :=
  decide (Int64.minValue.toInt ≤ value ∧ value < UInt64.size)

/-- The fields of an object; other values have none. -/
def fields : Json → List (String × Json)
  | .object fields => fields
  | _ => []

/-- The items of an array; other values have none. -/
def items : Json → List Json
  | .array items => items
  | _ => []

/-- A field of an object. -/
def get? (json : Json) (name : String) : Option Json :=
  json.fields.lookup name

/-- A list of fields with one more, in the order of names; a repeated name takes the later
value. -/
def insertField (name : String) (value : Json) : List (String × Json) → List (String × Json)
  | [] => [(name, value)]
  | field :: rest =>
      match compare name field.1 with
      | .lt => (name, value) :: field :: rest
      | .eq => (name, value) :: rest
      | .gt => field :: insertField name value rest

mutual

/-- How many containers the deepest part of a value stands in, itself included. -/
def depth : Json → Nat
  | .array items => itemsDepth items + 1
  | .object fields => fieldsDepth fields + 1
  | _ => 0

/-- The depth of the deepest of several values. -/
def itemsDepth : List Json → Nat
  | [] => 0
  | item :: rest => max (depth item) (itemsDepth rest)

/-- The depth of the deepest value of several fields. -/
def fieldsDepth : List (String × Json) → Nat
  | [] => 0
  | (_, value) :: rest => max (depth value) (fieldsDepth rest)

end

end Json

end Pushdown
