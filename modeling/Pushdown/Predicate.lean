import Pushdown.Failure
import Pushdown.Value

/-! # Predicates

A predicate is a tree: tests on one field, joined into groups. The operations that build
predicates give every test an operand of the shape that its kind takes and every group a
member.
-/

namespace Pushdown

/-- What a field is tested against. -/
inductive Operand where
  | value (value : Value)
  | range (start stop : Value) (inclusion : Inclusion)
  | set (values : List Value)
  deriving DecidableEq

/-- The shape of an operand. -/
def Operand.shape : Operand → Operand.Shape
  | .value _ => .value
  | .range _ _ _ => .range
  | .set _ => .set

/-- A test on one field. -/
structure FieldTest where
  field : String
  kind : FieldTest.Kind
  operand : Operand
  deriving DecidableEq

namespace FieldTest

/-- The test with the given parts, refused when kind and operand disagree. -/
def of? (field : String) (kind : FieldTest.Kind) (operand : Operand) : Except Failure FieldTest :=
  if kind.shape = operand.shape then .ok ⟨field, kind, operand⟩
  else .error (.operandShape kind operand.shape)

/-- A comparison with one value. -/
def compare (field : String) (comparison : Comparison) (value : Value) : FieldTest :=
  ⟨field, .ofComparison comparison, .value value⟩

/-- A range test or its complement. -/
def range (field : String) (negated : Bool) (start stop : Value) (inclusion : Inclusion) :
    FieldTest :=
  ⟨field, if negated then .notBetween else .between, .range start stop inclusion⟩

/-- A membership test or its complement. -/
def set (field : String) (negated : Bool) (values : List Value) : FieldTest :=
  ⟨field, if negated then .noneOf else .oneOf, .set values⟩

/-- The complementary test. -/
def negate (test : FieldTest) : FieldTest :=
  { test with kind := test.kind.negate }

end FieldTest

/-- A condition on rows. -/
inductive Predicate where
  | test (test : FieldTest)
  | group (connective : Connective) (members : List Predicate)
  deriving Inhabited

namespace Predicate

mutual

/-- Whether two predicates are the same tree. -/
def same : Predicate → Predicate → Bool
  | .test left, .test right => left == right
  | .group connective members, .group connective' members' =>
      connective == connective' && sameMembers members members'
  | _, _ => false

/-- Whether two lists hold the same trees in the same places. -/
def sameMembers : List Predicate → List Predicate → Bool
  | [], [] => true
  | left :: lefts, right :: rights => same left right && sameMembers lefts rights
  | _, _ => false

end

mutual

theorem same_iff : ∀ left right : Predicate, same left right = true ↔ left = right
  | .test _, .test _ => by simp [same]
  | .test _, .group _ _ => by simp [same]
  | .group _ _, .test _ => by simp [same]
  | .group _ members, .group _ members' => by
      simp only [same, Bool.and_eq_true, beq_iff_eq, sameMembers_iff members members',
        Predicate.group.injEq]

theorem sameMembers_iff : ∀ lefts rights : List Predicate,
    sameMembers lefts rights = true ↔ lefts = rights
  | [], [] => by simp [sameMembers]
  | [], _ :: _ => by simp [sameMembers]
  | _ :: _, [] => by simp [sameMembers]
  | left :: lefts, right :: rights => by
      simp only [sameMembers, Bool.and_eq_true, same_iff left right,
        sameMembers_iff lefts rights, List.cons.injEq]

end

instance : DecidableEq Predicate := fun left right =>
  decidable_of_iff _ (same_iff left right)

/-- The form of the head of a predicate. -/
def form : Predicate → Form
  | .test leaf => .test leaf.kind
  | .group connective _ => .group connective

/-- The label of a predicate in messages. -/
def label (predicate : Predicate) : String :=
  predicate.form.label

/-- The group of the given members, refused when there are none. -/
def group? (connective : Connective) (members : List Predicate) : Except Failure Predicate :=
  if members.isEmpty then .error (.emptyGroup connective) else .ok (.group connective members)

/-- The conjunction of the given members. -/
def all (members : List Predicate) : Except Failure Predicate :=
  group? .and members

/-- The disjunction of the given members. -/
def any (members : List Predicate) : Except Failure Predicate :=
  group? .or members

mutual

/-- The complement: every test is complemented and every connective exchanged. -/
def negate : Predicate → Predicate
  | .test leaf => .test leaf.negate
  | .group connective members => .group connective.negate (negateAll members)

/-- The complements of several predicates. -/
def negateAll : List Predicate → List Predicate
  | [] => []
  | predicate :: rest => negate predicate :: negateAll rest

end

/-- Two predicates joined; a group of the same connective on the left is extended. -/
def join (connective : Connective) (left right : Predicate) : Predicate :=
  match left with
  | .group connective' members =>
      if connective' = connective then .group connective (members ++ [right])
      else .group connective [left, right]
  | .test _ => .group connective [left, right]

/-- The conjunction of two predicates. -/
def and (left right : Predicate) : Predicate :=
  join .and left right

/-- The disjunction of two predicates. -/
def or (left right : Predicate) : Predicate :=
  join .or left right

end Predicate

end Pushdown
