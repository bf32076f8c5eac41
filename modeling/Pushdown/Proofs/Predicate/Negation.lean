import Pushdown.Proofs.Predicate.WellFormed
import Pushdown.Proofs.Record
import Pushdown.Proofs.Truth.Kleene

/-! # Complements of predicates

The complement of a well-formed predicate has the complementary result on every row, with
unknown results kept. On a field test this is the pairing of the kinds; through the groups
it is De Morgan's law for three values.
-/

namespace Pushdown

/-- The comparison that holds exactly where another fails. -/
def Comparison.complement : Comparison → Comparison
  | .equal => .notEqual
  | .notEqual => .equal
  | .greater => .lessOrEqual
  | .greaterOrEqual => .less
  | .less => .greaterOrEqual
  | .lessOrEqual => .greater

theorem Comparison.holds_complement (comparison : Comparison) (order : Ordering) :
    comparison.complement.holds order = !comparison.holds order := by
  cases comparison <;> cases order <;> rfl

theorem Value.satisfies?_complement (actual operand : Value) (comparison : Comparison) :
    actual.satisfies? comparison.complement operand =
      (actual.satisfies? comparison operand).not := by
  simp only [Value.satisfies?, Truth.not, Option.map_map]
  congr 1
  funext order
  exact comparison.holds_complement order

namespace FieldTest

/-- The paired kind makes the complementary comparison. -/
theorem Kind.comparison?_negate (kind : FieldTest.Kind) :
    kind.negate.comparison? = kind.comparison?.map Comparison.complement := by
  cases kind <;> rfl

/-- The complementary test has the complementary result on every value. -/
theorem check_negate (test : FieldTest) (fits : test.kind.shape = test.operand.shape)
    (actual : Value) : test.negate.check actual = (test.check actual).not := by
  obtain ⟨field, kind, operand⟩ := test
  cases operand with
  | value operand =>
      simp only [negate, check, Kind.comparison?_negate]
      cases kind.comparison? with
      | none => rfl
      | some comparison => exact actual.satisfies?_complement operand comparison
  | range start stop inclusion =>
      rcases Kind.shape_eq_range fits with rfl | rfl
      · simp [negate, check, Kind.negate]
      · simp [negate, check, Kind.negate, Truth.not_not]
  | set values =>
      rcases Kind.shape_eq_set fits with rfl | rfl
      · simp [negate, check, Kind.negate]
      · simp [negate, check, Kind.negate, Truth.not_not]

end FieldTest

/-- Complement exchanges what the two connectives do with a list of results. -/
theorem Connective.combine_negate (connective : Connective) (results : List Truth) :
    connective.negate.combine (results.map Truth.not) = (connective.combine results).not := by
  cases connective with
  | and => exact (Truth.not_all results).symm
  | or => exact (Truth.not_any results).symm

namespace Predicate

variable {ρ : Type} [Entity ρ]

/-- The complementary predicate has the complementary result. -/
theorem evaluate_negate {predicate : Predicate} (formed : predicate.WellFormed) (row : ρ) :
    evaluate row predicate.negate = (evaluate row predicate).not := by
  induction formed with
  | test leaf fits => exact leaf.check_negate fits (Entity.value row leaf.field)
  | group connective members nonempty each hyp =>
      have memberwise : members.map (evaluate row ∘ negate) =
          members.map (Truth.not ∘ evaluate row) :=
        List.map_congr_left fun member present => hyp member present
      rw [negate_group, evaluate_group, evaluate_group, List.map_map, memberwise,
        ← List.map_map, connective.combine_negate]

/-- **Negation is the exact complement.** The complement of a predicate has the
complementary result on every row. So the two never hold together, and neither holds
exactly where the predicate is unknown. -/
theorem negation_exact {predicate : Predicate} (formed : predicate.WellFormed) (row : ρ) :
    evaluate row predicate.negate = (evaluate row predicate).not ∧
      ¬(predicate.holds row = true ∧ predicate.negate.holds row = true) ∧
      (predicate.holds row = false ∧ predicate.negate.holds row = false ↔
        evaluate row predicate = none) := by
  have complement := evaluate_negate formed row
  refine ⟨complement, ?_⟩
  unfold holds
  rw [complement]
  exact Truth.holds_not (evaluate row predicate)

/-- An inverted range, an empty set, a null operand and nested lists under both
connectives: the first disjunct fails, the others are unknown, and so is the complement. -/
theorem negation_exact_mixed :
    let row : Record := ⟨[("a", .uint 3), ("c", .list [.int 1, .float .zero])]⟩
    let predicate : Predicate := .group .or
      [.test ⟨"a", .between, .range (.int 5) (.int 1) .both⟩,
        .group .and [.test ⟨"b", .oneOf, .set []⟩, .test ⟨"a", .equal, .value .null⟩],
        .test ⟨"c", .noneOf, .set [.list [.uint 1, .null], .text "x"]⟩]
    predicate.WellFormed ∧ evaluate row predicate = none ∧
      predicate.holds row = false ∧ predicate.negate.holds row = false := by
  intro row predicate
  have formed : predicate.WellFormed := by decide
  have unknown : evaluate row predicate = none := by decide
  exact ⟨formed, unknown, (negation_exact formed row).2.2.mpr unknown⟩

end Predicate

end Pushdown
