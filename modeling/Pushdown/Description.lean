import Pushdown.Text.Quoted

/-! # Descriptions

The diagnostic form of plans and results: a tree of named records, tuples and lists,
written on one line. The library itself is told by its version.
-/

namespace Pushdown

/-- The version of the library. -/
def version : String :=
  "0.4.0"

/-- A diagnostic tree. -/
inductive Description where
  /-- A word or number, written as it is. -/
  | word (text : String)
  /-- Quoted text. -/
  | quoted (text : String)
  | list (items : List Description)
  | tuple (name : String) (items : List Description)
  | record (name : String) (fields : List (String × Description))
  /-- A record that leaves out some of its fields. -/
  | excerpt (name : String) (fields : List (String × Description))
  deriving Inhabited

namespace Description

/-- Fields between braces after a name. -/
def braced (name : String) (fields : List String) : String :=
  name ++ " \x7b " ++ ", ".intercalate fields ++ " \x7d"

mutual

/-- The one-line text of a description. -/
def toText : Description → String
  | .word text => text
  | .quoted text => Text.quote text
  | .list items => "[" ++ ", ".intercalate (itemTexts items) ++ "]"
  | .tuple name items => name ++ "(" ++ ", ".intercalate (itemTexts items) ++ ")"
  | .record name fields => braced name (fieldTexts fields)
  | .excerpt name fields => braced name (fieldTexts fields ++ [".."])

/-- The texts of several descriptions. -/
def itemTexts : List Description → List String
  | [] => []
  | item :: rest => toText item :: itemTexts rest

/-- The texts of the fields of a record. -/
def fieldTexts : List (String × Description) → List String
  | [] => []
  | (name, value) :: rest => (name ++ ": " ++ toText value) :: fieldTexts rest

end

end Description

/-- Types with a diagnostic form. -/
class Describe (α : Type) where
  describe : α → Description

export Describe (describe)

/-- The diagnostic text of a value. -/
def debugText {α : Type} [Describe α] (value : α) : String :=
  (describe value).toText

namespace Describe

instance : Describe Bool := ⟨fun value => .word (if value then "true" else "false")⟩

instance : Describe Nat := ⟨fun value => .word (toString value)⟩

instance : Describe UInt64 := ⟨fun value => .word (toString value.toNat)⟩

instance : Describe Int64 := ⟨fun value => .word (toString value.toInt)⟩

instance : Describe String := ⟨.quoted⟩

instance {α : Type} [Describe α] : Describe (List α) := ⟨fun items => .list (items.map describe)⟩

instance {α : Type} [Describe α] : Describe (Option α) :=
  ⟨fun value =>
    match value with
    | none => .word "None"
    | some value => .tuple "Some" [describe value]⟩

end Describe

end Pushdown
