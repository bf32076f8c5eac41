import Pushdown.Value

/-! # Comparing values

Two comparisons. `compare?` serves conditions: it is undecided when a null takes part
or the families differ, and lists are compared item by item until one pair decides or
is undecided. `sortCompare` serves sorting: it orders all values, families first, and
nulls are the lowest. Numbers compare by their exact values across their forms.
-/

namespace Pushdown

/-- A number of either form. A whole number is one of the signed or unsigned 64-bit types. -/
inductive Number where
  | whole (value : Int) (small : Int64.minValue.toInt ≤ value ∧ value < UInt64.size)
  | binary (value : Binary64)

namespace Number

/-- A signed number. -/
def ofInt64 (value : Int64) : Number :=
  .whole value.toInt ⟨value.minValue_le_toInt, Int.lt_trans value.toInt_lt (by decide)⟩

/-- An unsigned number. -/
def ofUInt64 (value : UInt64) : Number :=
  .whole value.toNat
    ⟨Int.le_trans (by decide) (Int.natCast_nonneg _), Int.ofNat_lt.mpr value.toNat_lt⟩

/-- The nearest of the integers of 128 bits. -/
def saturated (value : Int) : Int :=
  max (-(1 <<< 127)) (min value (1 <<< 127 - 1))

/-- The order of a whole number and a binary one. The whole part decides, cut to 128 bits, beyond
which no whole number lies; between equals the sign of what is behind the point decides. -/
def compareWhole (value : Int) (x : Binary64) : Ordering :=
  (Ord.compare value (saturated x.whole)).then (Ord.compare 0 x.behindPoint)

/-- The order of two numbers. Whole numbers are not rounded. -/
def compare : Number → Number → Ordering
  | .whole left _, .whole right _ => Ord.compare left right
  | .whole left _, .binary right => compareWhole left right
  | .binary left, .whole right _ => (compareWhole right left).swap
  | .binary left, .binary right => left.compare right

end Number

namespace Value

/-- The number that a value holds. -/
def number? : Value → Option Number
  | .int value => some (.ofInt64 value)
  | .uint value => some (.ofUInt64 value)
  | .float value => some (.binary value)
  | _ => none

mutual

/-- The order of two values in a condition, undecided for nulls and unlike families. -/
def compare? : Value → Value → Option Ordering
  | .bool left, .bool right => some (Ord.compare left right)
  | .text left, .text right => some (Ord.compare left right)
  | .list left, .list right => compareItems? left right
  | left, right =>
      match left.number?, right.number? with
      | some left, some right => some (left.compare right)
      | _, _ => none

/-- The first pair that is not equal decides; then the shorter list comes first. -/
def compareItems? : List Value → List Value → Option Ordering
  | [], [] => some .eq
  | [], _ :: _ => some .lt
  | _ :: _, [] => some .gt
  | left :: lefts, right :: rights =>
      match compare? left right with
      | some .eq => compareItems? lefts rights
      | decided => decided

end

/-- Whether two values are equal in a condition; a null equals nothing. -/
def equals (left right : Value) : Bool :=
  left.compare? right == some .eq

mutual

/-- The order of two values in a sort. -/
def sortCompare : Value → Value → Ordering
  | .list left, .list right => sortCompareItems left right
  | left, right =>
      (left.family.compare right.family).then ((left.compare? right).getD .eq)

/-- The first pair that is not equal decides; then the shorter list comes first. -/
def sortCompareItems : List Value → List Value → Ordering
  | [], [] => .eq
  | [], _ :: _ => .lt
  | _ :: _, [] => .gt
  | left :: lefts, right :: rights =>
      (sortCompare left right).then (sortCompareItems lefts rights)

end

/-- Values are ordered as they are sorted. -/
instance : Ord Value := ⟨sortCompare⟩

end Value

end Pushdown
