import Pushdown.Predicate.Kind
import Pushdown.Truth
import Pushdown.Value.Order

/-! # Conditions on one value

The three questions that a condition may ask about a value. An answer is unknown when a
value that it depends on does not compare.
-/

namespace Pushdown

/-- Whether an order to the start is inside a range. -/
def Inclusion.afterStart (inclusion : Inclusion) (order : Ordering) : Bool :=
  inclusion.lower.holds order

/-- Whether an order to the end is inside a range. -/
def Inclusion.beforeEnd (inclusion : Inclusion) (order : Ordering) : Bool :=
  inclusion.upper.holds order

namespace Value

/-- Whether a value stands in a comparison to an operand. -/
def satisfies? (actual : Value) (comparison : Comparison) (operand : Value) : Truth :=
  (actual.compare? operand).map comparison.holds

/-- Whether a value lies in a range; both ends must compare. -/
def within? (actual start stop : Value) (inclusion : Inclusion) : Truth :=
  match actual.compare? start, actual.compare? stop with
  | some lower, some upper => some (inclusion.afterStart lower && inclusion.beforeEnd upper)
  | _, _ => none

/-- Whether a value equals one of several; the answer no needs all of them to compare. -/
def among? (actual : Value) (values : List Value) : Truth :=
  if actual.isNull then none
  else .seek true (fun candidate => (actual.compare? candidate).map (· == .eq)) false values

end Value

end Pushdown
