import Pushdown.Json.Coding
import Pushdown.Settings
import Pushdown.Window

/-! # Windows and settings in JSON -/

namespace Pushdown

namespace Window

/-- The JSON value of a window. -/
def toJson (window : Window) : Json :=
  .object [("limit", encode window.limit), ("offset", encode window.offset)]

/-- The window that a JSON value is read as. A missing limit is none. -/
def ofJson : Json → Decoded Window
  | .object fields => do
      let offset ← Decoded.present (fields.lookup "offset")
      return ⟨← decode offset, ← decode ((fields.lookup "limit").getD .null)⟩
  | .array [offset, limit] => do
      return ⟨← decode offset, ← decode limit⟩
  | _ => .wrong

instance : JsonCoded Window := ⟨toJson, ofJson⟩

end Window

instance : JsonCoded Simplification := .ofNames Simplification.all Simplification.label

instance : JsonCoded PushRule := .ofNames PushRule.all PushRule.label

namespace Settings

/-- The names of the settings. -/
def fieldNames : List String :=
  ["pre_optimizers", "merge_strategies", "count_fast_path"]

/-- The JSON value of settings. -/
def toJson (settings : Settings) : Json :=
  .object [("count_fast_path", encode settings.countShortcut),
    ("merge_strategies", encode settings.pushRules),
    ("pre_optimizers", encode settings.simplifications)]

/-- A setting, or its default where it is not given. -/
def setting {α : Type} [JsonCoded α] (fallback : α) : Option Json → Decoded α
  | none => .ok fallback
  | some json => decode json

/-- Settings read from what is given of them. -/
def ofGiven (simplifications pushRules countShortcut : Option Json) : Decoded Settings := do
  let standard : Settings := {}
  return ⟨← setting standard.simplifications simplifications,
    ← setting standard.pushRules pushRules, ← setting standard.countShortcut countShortcut⟩

/-- The settings that a JSON value is read as. Unknown names are refused. -/
def ofJson : Json → Decoded Settings
  | .object fields =>
      if fields.all fun (name, _) => fieldNames.contains name then
        ofGiven (fields.lookup "pre_optimizers") (fields.lookup "merge_strategies")
          (fields.lookup "count_fast_path")
      else .wrong
  | .array items =>
      if items.length ≤ fieldNames.length then ofGiven items[0]? items[1]? items[2]?
      else .wrong
  | _ => .wrong

instance : JsonCoded Settings := ⟨toJson, ofJson⟩

end Settings

end Pushdown
