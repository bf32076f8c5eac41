import Pushdown.Failure
import Pushdown.Json

/-! # Coding in JSON

How the types of the library are written as JSON values and read back. A record is an
object with its fields, in which unknown fields are passed over, or an array of them in
order. A choice is its name, or an object whose one field is named for it and holds what
belongs to it. Reading makes the checks of the operations that build the types, so that
nothing is read that could not be built.
-/

namespace Pushdown

/-- Why a JSON value is refused. -/
inductive DecodeFailure where
  /-- The value has another shape than the type is written in. -/
  | shape
  /-- The parts are well shaped, and the type refuses them. -/
  | rejected (failure : Failure)
  deriving DecidableEq

/-- The result of reading a JSON value. -/
abbrev Decoded (α : Type) := Except DecodeFailure α

/-- Types that are written in JSON. -/
class JsonCoded (α : Type) where
  encode : α → Json
  decode : Json → Decoded α

export JsonCoded (encode decode)

namespace Decoded

variable {α : Type}

/-- A value of another shape. -/
def wrong : Decoded α :=
  .error .shape

/-- The parts of a value, checked by the operation that builds it. -/
def checked : Except Failure α → Decoded α
  | .ok value => .ok value
  | .error failure => .error (.rejected failure)

/-- What is read from the front of an array, refused if items are left over. -/
def ending (rest : List Json) (read : Decoded α) : Decoded α := do
  let value ← read
  if rest.isEmpty then return value else wrong

/-- A value that may be missing. -/
def present : Option α → Decoded α
  | some value => .ok value
  | none => wrong

end Decoded

namespace Json

/-- The text of a JSON string. -/
def text? : Json → Option String
  | .text value => some value
  | _ => none

/-- The name of a choice that holds nothing. -/
def choice? : Json → Option String
  | .text name => some name
  | .object [(name, .null)] => some name
  | _ => none

/-- The fields of a record, by their names or by their places. -/
def parts? (names : List String) : Json → Option (List Json)
  | .object fields => names.mapM fun name => fields.lookup name
  | .array items => if items.length = names.length then some items else none
  | _ => none

/-- The items of an array, each read. -/
def decodeItems {α : Type} [JsonCoded α] : Json → Decoded (List α)
  | .array items => items.mapM decode
  | _ => .wrong

end Json

namespace JsonCoded

/-- A type of named choices that hold nothing. -/
abbrev ofNames {α : Type} (all : List α) (name : α → String) : JsonCoded α where
  encode value := .text (name value)
  decode json :=
    Decoded.present (json.choice?.bind fun written => all.find? fun value => name value == written)

instance : JsonCoded String where
  encode := .text
  decode json := Decoded.present json.text?

instance : JsonCoded Bool where
  encode := .bool
  decode
    | .bool value => .ok value
    | _ => .wrong

instance : JsonCoded Int64 where
  encode value := .whole value.toInt
  decode
    | .whole value =>
        if Int64.minValue.toInt ≤ value ∧ value ≤ Int64.maxValue.toInt then
          .ok (Int64.ofInt value)
        else .wrong
    | _ => .wrong

instance : JsonCoded UInt64 where
  encode value := .whole value.toNat
  decode
    | .whole value =>
        if 0 ≤ value ∧ value < UInt64.size then .ok (UInt64.ofNat value.toNat) else .wrong
    | _ => .wrong

/-- A whole number is read as the nearest binary64 number, and zero loses its sign. -/
instance : JsonCoded Binary64 where
  encode := .binary
  decode
    | .binary value => .ok value
    | .negativeZero => .ok .zero
    | .whole value => Decoded.present (Binary64.ofInt? value)
    | _ => .wrong

instance {α : Type} [JsonCoded α] : JsonCoded (List α) where
  encode values := .array (values.map encode)
  decode := Json.decodeItems

instance {α : Type} [JsonCoded α] : JsonCoded (Option α) where
  encode
    | none => .null
    | some value => encode value
  decode
    | .null => .ok none
    | json => (decode json).map some

end JsonCoded

end Pushdown
