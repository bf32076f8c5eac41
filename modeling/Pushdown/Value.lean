import Pushdown.Binary64

/-! # Field values

A value is what a field of a row holds: nothing, a truth value, a number in one of
three forms, a text, or a list of values. Values of different families never compare
in a condition; sorting orders the families among themselves.
-/

namespace Pushdown

/-- A dynamically typed field value. -/
inductive Value where
  | null
  | bool (value : Bool)
  | int (value : Int64)
  | uint (value : UInt64)
  | float (value : Binary64)
  | text (value : String)
  | list (items : List Value)
  deriving Inhabited

namespace Value

mutual

/-- Whether two values have the same form and content. -/
def same : Value → Value → Bool
  | .null, .null => true
  | .bool left, .bool right => left == right
  | .int left, .int right => left == right
  | .uint left, .uint right => left == right
  | .float left, .float right => left == right
  | .text left, .text right => left == right
  | .list left, .list right => sameItems left right
  | _, _ => false

/-- Whether two lists have the same values in the same places. -/
def sameItems : List Value → List Value → Bool
  | [], [] => true
  | left :: lefts, right :: rights => same left right && sameItems lefts rights
  | _, _ => false

end

mutual

theorem same_iff : ∀ left right : Value, same left right = true ↔ left = right
  | .list lefts, .list rights => by
      simp only [same, sameItems_iff lefts rights, Value.list.injEq]
  | .null, right => by cases right <;> simp [same]
  | .bool _, right => by cases right <;> simp [same]
  | .int _, right => by cases right <;> simp [same]
  | .uint _, right => by cases right <;> simp [same]
  | .float _, right => by cases right <;> simp [same]
  | .text _, right => by cases right <;> simp [same]
  | .list _, .null => by simp [same]
  | .list _, .bool _ => by simp [same]
  | .list _, .int _ => by simp [same]
  | .list _, .uint _ => by simp [same]
  | .list _, .float _ => by simp [same]
  | .list _, .text _ => by simp [same]

theorem sameItems_iff : ∀ lefts rights : List Value,
    sameItems lefts rights = true ↔ lefts = rights
  | [], [] => by simp [sameItems]
  | [], _ :: _ => by simp [sameItems]
  | _ :: _, [] => by simp [sameItems]
  | left :: lefts, right :: rights => by
      simp only [sameItems, Bool.and_eq_true, same_iff left right, sameItems_iff lefts rights,
        List.cons.injEq]

end

instance : DecidableEq Value := fun left right =>
  decidable_of_iff _ (same_iff left right)

mutual

/-- The digest of a value. -/
def digest : Value → UInt64
  | .null => 0
  | .bool value => mixHash 1 (hash value)
  | .int value => mixHash 2 value.toUInt64
  | .uint value => mixHash 3 value
  | .float value => mixHash 4 value.bits
  | .text value => mixHash 5 (hash value)
  | .list items => mixHash 6 (digestItems items)

/-- The digest of a list of values. -/
def digestItems : List Value → UInt64
  | [] => 0
  | value :: rest => mixHash (digest value) (digestItems rest)

end

instance : Hashable Value := ⟨digest⟩

/-- Values compare within one family only. -/
inductive Family where
  | null
  | bool
  | numeric
  | textual
  | collection
  deriving DecidableEq, Inhabited

namespace Family

/-- The place of a family when values of different families are sorted. -/
def rank : Family → Nat
  | .null => 0
  | .bool => 1
  | .numeric => 2
  | .textual => 3
  | .collection => 4

/-- The order of families. -/
def compare (left right : Family) : Ordering :=
  Ord.compare left.rank right.rank

/-- The name of a family. -/
def name : Family → String
  | .null => "Null"
  | .bool => "Bool"
  | .numeric => "Numeric"
  | .textual => "Textual"
  | .collection => "Collection"

end Family

/-- The family of a value. -/
def family : Value → Family
  | .null => .null
  | .bool _ => .bool
  | .int _ | .uint _ | .float _ => .numeric
  | .text _ => .textual
  | .list _ => .collection

/-- Whether a value is absent. -/
def isNull : Value → Bool
  | .null => true
  | _ => false

end Value

end Pushdown
