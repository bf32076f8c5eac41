import Pushdown.Entity
import Pushdown.Predicate
import Pushdown.Value.Condition

/-! # Evaluating predicates

The truth of a predicate on a row. A test depends on one field of the row, and a group
joins the results of its members.
-/

namespace Pushdown

/-- The joint result of the members of a group. -/
def Connective.combine : Connective → List Truth → Truth
  | .and => Truth.all
  | .or => Truth.any

/-- The result of a test on a field's value. -/
def FieldTest.check (test : FieldTest) (actual : Value) : Truth :=
  match test.operand with
  | .value operand => test.kind.comparison?.bind fun comparison =>
      actual.satisfies? comparison operand
  | .range start stop inclusion =>
      let inside := actual.within? start stop inclusion
      if test.kind = .notBetween then inside.not else inside
  | .set values =>
      let member := actual.among? values
      if test.kind = .noneOf then member.not else member

/-- The result of a test on a row. -/
def FieldTest.evaluate {ρ : Type} [Entity ρ] (test : FieldTest) (row : ρ) : Truth :=
  test.check (Entity.value row test.field)

namespace Predicate

variable {ρ : Type} [Entity ρ]

mutual

/-- The result of a predicate on a row. -/
def evaluate (row : ρ) : Predicate → Truth
  | .test leaf => leaf.evaluate row
  | .group connective members => connective.combine (evaluateAll row members)

/-- The results of several predicates on a row. -/
def evaluateAll (row : ρ) : List Predicate → List Truth
  | [] => []
  | predicate :: rest => evaluate row predicate :: evaluateAll row rest

end

/-- Whether a predicate definitely holds on a row. -/
def holds (predicate : Predicate) (row : ρ) : Bool :=
  (evaluate row predicate).holds

end Predicate

end Pushdown
