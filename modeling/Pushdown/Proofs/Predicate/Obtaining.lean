import Pushdown.Field
import Pushdown.Proofs.Coding.Conditions

/-! # What can be obtained

Predicates come from fields, from the checked constructors of tests and groups, from other
predicates by complement and by joining, and from JSON. Only the constructors and the reader check
what they are given; the other operations are trusted to keep it. Whatever they make of one
another, in whatever order, is well formed.
-/

namespace Pushdown

/-- The predicates that a field builds. -/
inductive Field.Builds {α : Type} [ToValue α] (field : Field α) : Predicate → Prop where
  | equal (operand : α) : Builds field (field.equal operand)
  | notEqual (operand : α) : Builds field (field.notEqual operand)
  | greaterThan (operand : α) : Builds field (field.greaterThan operand)
  | greaterOrEqual (operand : α) : Builds field (field.greaterOrEqual operand)
  | lessThan (operand : α) : Builds field (field.lessThan operand)
  | lessOrEqual (operand : α) : Builds field (field.lessOrEqual operand)
  | between (start stop : α) : Builds field (field.between start stop)
  | betweenWith (start stop : α) (inclusion : Inclusion) :
      Builds field (field.betweenWith start stop inclusion)
  | notBetween (start stop : α) : Builds field (field.notBetween start stop)
  | notBetweenWith (start stop : α) (inclusion : Inclusion) :
      Builds field (field.notBetweenWith start stop inclusion)
  | oneOf (operands : List α) : Builds field (field.oneOf operands)
  | noneOf (operands : List α) : Builds field (field.noneOf operands)

/-- A test that some operations on tests lead to. -/
inductive FieldTest.Obtained : FieldTest → Prop where
  | of {field : String} {kind : FieldTest.Kind} {operand : Operand} {test : FieldTest}
      (accepted : of? field kind operand = .ok test) : Obtained test
  | negate {test : FieldTest} (obtained : Obtained test) : Obtained test.negate
  | read {json : Json} {test : FieldTest} (found : ofJson json = .ok test) : Obtained test

/-- A predicate that some operations on predicates lead to. -/
inductive Predicate.Obtained : Predicate → Prop where
  | field {α : Type} [ToValue α] (field : Field α) {predicate : Predicate}
      (built : field.Builds predicate) : Obtained predicate
  | test {leaf : FieldTest} (obtained : leaf.Obtained) : Obtained (.test leaf)
  | group {connective : Connective} {members : List Predicate} {predicate : Predicate}
      (accepted : group? connective members = .ok predicate)
      (each : ∀ member ∈ members, Obtained member) : Obtained predicate
  | all {members : List Predicate} {predicate : Predicate}
      (accepted : Predicate.all members = .ok predicate)
      (each : ∀ member ∈ members, Obtained member) : Obtained predicate
  | any {members : List Predicate} {predicate : Predicate}
      (accepted : Predicate.any members = .ok predicate)
      (each : ∀ member ∈ members, Obtained member) : Obtained predicate
  | negate {predicate : Predicate} (obtained : Obtained predicate) : Obtained predicate.negate
  | and {left right : Predicate} (obtained : Obtained left) (obtained' : Obtained right) :
      Obtained (left.and right)
  | or {left right : Predicate} (obtained : Obtained left) (obtained' : Obtained right) :
      Obtained (left.or right)
  | read {json : Json} {predicate : Predicate} (found : ofJson json = .ok predicate) :
      Obtained predicate
  | readGroup {json : Json} {predicate : Predicate} (found : groupOfJson json = .ok predicate) :
      Obtained predicate

/-! ## Tests -/

namespace FieldTest

/-- The tests that are obtained can be built. -/
theorem Obtained.built {test : FieldTest} (obtained : test.Obtained) : test.Built := by
  induction obtained with
  | of accepted => exact .of _ _ _ _ accepted
  | negate obtained built => exact .negate _ built
  | read found => exact built_of_ofJson found

end FieldTest

/-! ## Predicates -/

/-- A field gives its tests the operands that their kinds take. -/
theorem Field.Builds.wellFormed {α : Type} [ToValue α] {field : Field α} {predicate : Predicate}
    (built : field.Builds predicate) : predicate.WellFormed := by
  cases built <;> exact .test _ rfl

namespace Predicate

theorem wellFormed_of_groupOfJson {json : Json} {predicate : Predicate}
    (found : groupOfJson json = .ok predicate) : predicate.WellFormed := by
  obtain ⟨connective, members, rfl, nonempty, each⟩ := members_of_groupOfJson found
  exact .group connective members nonempty fun member present => (each member present).wellFormed

/-- Whatever is obtained is well formed. -/
theorem Obtained.wellFormed {predicate : Predicate} (obtained : predicate.Obtained) :
    predicate.WellFormed := by
  induction obtained with
  | field field built => exact built.wellFormed
  | test obtained => exact .test _ (FieldTest.built_iff.mp obtained.built)
  | group accepted each formed => exact .of_group? accepted formed
  | all accepted each formed => exact .of_group? accepted formed
  | any accepted each formed => exact .of_group? accepted formed
  | negate obtained formed => exact formed.negate
  | and obtained obtained' formed formed' => exact formed.join formed' .and
  | or obtained obtained' formed formed' => exact formed.join formed' .or
  | read found => exact IsRead.wellFormed ⟨_, found⟩
  | readGroup found => exact wellFormed_of_groupOfJson found

end Predicate

end Pushdown
