/-! # Kinds of conditions

The vocabulary of conditions on one field and of their combinations. Every kind of
field test has exactly one complement, and every kind fixes the shape of its operand.
-/

namespace Pushdown

/-- How a value is compared with an operand. -/
inductive Comparison where
  | equal
  | notEqual
  | greater
  | greaterOrEqual
  | less
  | lessOrEqual
  deriving DecidableEq, Inhabited

namespace Comparison

/-- All comparisons. -/
def all : List Comparison :=
  [.equal, .notEqual, .greater, .greaterOrEqual, .less, .lessOrEqual]

/-- Whether a comparison holds for an order of value and operand. -/
def holds : Comparison → Ordering → Bool
  | .equal, order => order.isEq
  | .notEqual, order => order.isNe
  | .greater, order => order.isGT
  | .greaterOrEqual, order => order.isGE
  | .less, order => order.isLT
  | .lessOrEqual, order => order.isLE

/-- The short name of a comparison. -/
def name : Comparison → String
  | .equal => "Eq"
  | .notEqual => "Ne"
  | .greater => "Gt"
  | .greaterOrEqual => "Ge"
  | .less => "Lt"
  | .lessOrEqual => "Le"

end Comparison

/-- Which ends belong to a range. -/
inductive Inclusion where
  | startOnly
  | both
  | endOnly
  | neither
  deriving DecidableEq

namespace Inclusion

/-- Ranges include their start alone unless told otherwise. -/
instance : Inhabited Inclusion := ⟨.startOnly⟩

/-- All inclusions. -/
def all : List Inclusion :=
  [.startOnly, .both, .endOnly, .neither]

/-- Whether the start belongs to the range. -/
def hasStart : Inclusion → Bool
  | .startOnly | .both => true
  | .endOnly | .neither => false

/-- Whether the end belongs to the range. -/
def hasEnd : Inclusion → Bool
  | .both | .endOnly => true
  | .startOnly | .neither => false

/-- The comparison that the start imposes. -/
def lower (inclusion : Inclusion) : Comparison :=
  if inclusion.hasStart then .greaterOrEqual else .greater

/-- The comparison that the end imposes. -/
def upper (inclusion : Inclusion) : Comparison :=
  if inclusion.hasEnd then .lessOrEqual else .less

/-- The name of an inclusion. -/
def name : Inclusion → String
  | .startOnly => "StartInclusiveEndExclusive"
  | .both => "StartInclusiveEndInclusive"
  | .endOnly => "StartExclusiveEndInclusive"
  | .neither => "StartExclusiveEndExclusive"

end Inclusion

/-- The shape of an operand. -/
inductive Operand.Shape where
  | value
  | range
  | set
  deriving DecidableEq, Inhabited

/-- The name of a shape. -/
def Operand.Shape.name : Operand.Shape → String
  | .value => "Value"
  | .range => "Range"
  | .set => "Set"

/-- The kinds of tests on one field. -/
inductive FieldTest.Kind where
  | equal
  | notEqual
  | greaterThan
  | greaterOrEqual
  | lessThan
  | lessOrEqual
  | between
  | notBetween
  | oneOf
  | noneOf
  deriving DecidableEq, Inhabited

namespace FieldTest.Kind

/-- All kinds of field tests. -/
def all : List FieldTest.Kind :=
  [.equal, .notEqual, .greaterThan, .greaterOrEqual, .lessThan, .lessOrEqual, .between,
    .notBetween, .oneOf, .noneOf]

/-- The complementary kind. -/
def negate : FieldTest.Kind → FieldTest.Kind
  | .equal => .notEqual
  | .notEqual => .equal
  | .greaterThan => .lessOrEqual
  | .lessOrEqual => .greaterThan
  | .greaterOrEqual => .lessThan
  | .lessThan => .greaterOrEqual
  | .between => .notBetween
  | .notBetween => .between
  | .oneOf => .noneOf
  | .noneOf => .oneOf

/-- The shape of the operand that a kind takes. -/
def shape : FieldTest.Kind → Operand.Shape
  | .equal | .notEqual | .greaterThan | .greaterOrEqual | .lessThan | .lessOrEqual => .value
  | .between | .notBetween => .range
  | .oneOf | .noneOf => .set

/-- The comparison behind a kind that takes one value. -/
def comparison? : FieldTest.Kind → Option Comparison
  | .equal => some .equal
  | .notEqual => some .notEqual
  | .greaterThan => some .greater
  | .greaterOrEqual => some .greaterOrEqual
  | .lessThan => some .less
  | .lessOrEqual => some .lessOrEqual
  | .between | .notBetween | .oneOf | .noneOf => none

/-- The kind that makes a comparison. -/
def ofComparison : Comparison → FieldTest.Kind
  | .equal => .equal
  | .notEqual => .notEqual
  | .greater => .greaterThan
  | .greaterOrEqual => .greaterOrEqual
  | .less => .lessThan
  | .lessOrEqual => .lessOrEqual

/-- The name of a kind. -/
def name : FieldTest.Kind → String
  | .equal => "Equal"
  | .notEqual => "NotEqual"
  | .greaterThan => "GreaterThan"
  | .greaterOrEqual => "GreaterOrEqual"
  | .lessThan => "LessThan"
  | .lessOrEqual => "LessOrEqual"
  | .between => "Between"
  | .notBetween => "NotBetween"
  | .oneOf => "In"
  | .noneOf => "NotIn"

/-- The label of a kind in messages. -/
def label : FieldTest.Kind → String
  | .equal => "EQUAL"
  | .notEqual => "NOT_EQUAL"
  | .greaterThan => "GREATER_THAN"
  | .greaterOrEqual => "GREATER_OR_EQUAL"
  | .lessThan => "LESS_THAN"
  | .lessOrEqual => "LESS_OR_EQUAL"
  | .between => "BETWEEN"
  | .notBetween => "NOT_BETWEEN"
  | .oneOf => "IN"
  | .noneOf => "NOT_IN"

end FieldTest.Kind

/-- How the members of a group are joined. -/
inductive Connective where
  | and
  | or
  deriving DecidableEq, Inhabited

namespace Connective

/-- Both connectives. -/
def all : List Connective :=
  [.and, .or]

/-- The other connective. -/
def negate : Connective → Connective
  | .and => .or
  | .or => .and

/-- The name of a connective. -/
def name : Connective → String
  | .and => "And"
  | .or => "Or"

/-- The label of a connective in messages. -/
def label : Connective → String
  | .and => "AND"
  | .or => "OR"

end Connective

/-- What the node at the head of a predicate is. -/
inductive Predicate.Form where
  | test (kind : FieldTest.Kind)
  | group (connective : Connective)
  deriving DecidableEq

/-- The label of a form in messages. -/
def Predicate.Form.label : Predicate.Form → String
  | .test kind => kind.label
  | .group connective => connective.label

end Pushdown
