import Pushdown.Predicate

/-! # Lowering predicates

A backend expresses conditions in nodes of its own. Each constructor may refuse, and a
refused node anywhere refuses the whole predicate. Members are lowered from left to
right before their group.
-/

namespace Pushdown

/-- The constructors of a backend's condition nodes. -/
structure ConditionBuilder (ν : Type) where
  comparison : String → Comparison → Value → Option ν
  range : String → Value → Value → Inclusion → Bool → Option ν
  membership : String → List Value → Bool → Option ν
  combine : Connective → List ν → Option ν

namespace ConditionBuilder

variable {ν : Type}

/-- The constructors for the accepted kinds of field tests alone. -/
def restrict (builder : ConditionBuilder ν) (accepts : FieldTest.Kind → Bool) :
    ConditionBuilder ν where
  comparison field comparison value :=
    if accepts (.ofComparison comparison) then builder.comparison field comparison value
    else none
  range field start stop inclusion negated :=
    if accepts (if negated then .notBetween else .between) then
      builder.range field start stop inclusion negated
    else none
  membership field values negated :=
    if accepts (if negated then .noneOf else .oneOf) then
      builder.membership field values negated
    else none
  combine := builder.combine

/-- The node of a field test, if the backend has one and the operand fits. -/
def test? (builder : ConditionBuilder ν) (test : FieldTest) : Except Failure ν :=
  match test.kind.shape, test.operand with
  | .value, .value value =>
      supported test.kind (test.kind.comparison?.bind fun comparison =>
        builder.comparison test.field comparison value)
  | .range, .range start stop inclusion =>
      supported test.kind
        (builder.range test.field start stop inclusion (decide (test.kind = .notBetween)))
  | .set, .set values =>
      supported test.kind
        (builder.membership test.field values (decide (test.kind = .noneOf)))
  | _, operand => .error (.operandCarried test.kind operand.shape)
where
  /-- A refused node names the kind of its test. -/
  supported (kind : FieldTest.Kind) : Option ν → Except Failure ν
    | some node => .ok node
    | none => .error (.unsupportedPredicate (.test kind))

mutual

/-- The node of a predicate. -/
def lower (builder : ConditionBuilder ν) : Predicate → Except Failure ν
  | .test test => builder.test? test
  | .group connective members =>
      match builder.lowerAll members with
      | .error failure => .error failure
      | .ok nodes =>
          match builder.combine connective nodes with
          | some node => .ok node
          | none => .error (.unsupportedPredicate (.group connective))

/-- The nodes of several predicates; the first failure ends the work. -/
def lowerAll (builder : ConditionBuilder ν) : List Predicate → Except Failure (List ν)
  | [] => .ok []
  | predicate :: rest =>
      match builder.lower predicate with
      | .error failure => .error failure
      | .ok node =>
          match builder.lowerAll rest with
          | .error failure => .error failure
          | .ok nodes => .ok (node :: nodes)

end

end ConditionBuilder

end Pushdown
