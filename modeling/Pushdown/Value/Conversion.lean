import Pushdown.Value

/-! # Values of typed fields

The types that a field may have, and the value each of their elements stands for. A
number that is not finite has no value.
-/

namespace Pushdown

/-- Types whose elements are field values. -/
class ToValue (α : Type) where
  toValue : α → Value

export ToValue (toValue)

namespace ToValue

instance : ToValue Value := ⟨id⟩

instance : ToValue Bool := ⟨.bool⟩

instance : ToValue String := ⟨.text⟩

instance : ToValue Binary64 := ⟨.float⟩

instance : ToValue Int8 := ⟨fun value => .int value.toInt64⟩

instance : ToValue Int16 := ⟨fun value => .int value.toInt64⟩

instance : ToValue Int32 := ⟨fun value => .int value.toInt64⟩

instance : ToValue Int64 := ⟨.int⟩

instance : ToValue UInt8 := ⟨fun value => .uint value.toUInt64⟩

instance : ToValue UInt16 := ⟨fun value => .uint value.toUInt64⟩

instance : ToValue UInt32 := ⟨fun value => .uint value.toUInt64⟩

instance : ToValue UInt64 := ⟨.uint⟩

instance : ToValue Float :=
  ⟨fun value => ((Binary64.ofBits? value.toBits).map .float).getD .null⟩

instance : ToValue Float32 := ⟨fun value => toValue value.toFloat⟩

instance {α : Type} [ToValue α] : ToValue (Option α) :=
  ⟨fun value => (value.map toValue).getD .null⟩

instance {α : Type} [ToValue α] : ToValue (List α) :=
  ⟨fun values => .list (values.map toValue)⟩

end ToValue

end Pushdown
