import Pushdown.Predicate.Evaluation

/-! # Well-formed predicates

The checked constructors build trees whose tests have operands of the right shape and
whose groups have members. Proofs about trees go by induction with a hypothesis for every
member of a group; to that end the functions on lists of predicates are read as the
functions on one predicate, taken through the list.
-/

namespace Pushdown

/-! ## Kinds of tests -/

namespace FieldTest.Kind

theorem comparison?_ofComparison (comparison : Comparison) :
    (ofComparison comparison).comparison? = some comparison := by
  cases comparison <;> rfl

/-- A kind that takes one value compares. -/
theorem shape_eq_value {kind : FieldTest.Kind} (single : kind.shape = .value) :
    ∃ comparison, kind = ofComparison comparison := by
  have compares : ∃ comparison, kind.comparison? = some comparison := by
    cases kind <;> first | exact ⟨_, rfl⟩ | cases single
  obtain ⟨comparison, compared⟩ := compares
  exact ⟨comparison, by cases kind <;> cases compared <;> rfl⟩

theorem shape_eq_range {kind : FieldTest.Kind} (ranged : kind.shape = .range) :
    kind = .between ∨ kind = .notBetween := by
  cases kind <;> simp [Kind.shape] at ranged ⊢

theorem shape_eq_set {kind : FieldTest.Kind} (listed : kind.shape = .set) :
    kind = .oneOf ∨ kind = .noneOf := by
  cases kind <;> simp [Kind.shape] at listed ⊢

end FieldTest.Kind

/-! ## Trees -/

namespace Predicate

/-- What holds of tests and passes from all members to their group holds of every tree. -/
@[elab_as_elim, induction_eliminator]
theorem memberwise {motive : Predicate → Prop} (test : ∀ leaf, motive (.test leaf))
    (group : ∀ connective members, (∀ member ∈ members, motive member) →
      motive (.group connective members)) : ∀ predicate, motive predicate
  | .test leaf => test leaf
  | .group connective members =>
      group connective members fun member _ => memberwise test group member

/-- Every test has an operand of the shape that its kind takes, and every group has a
member. -/
inductive WellFormed : Predicate → Prop where
  | test (leaf : FieldTest) (fits : leaf.kind.shape = leaf.operand.shape) :
      WellFormed (.test leaf)
  | group (connective : Connective) (members : List Predicate) (nonempty : members ≠ [])
      (each : ∀ member ∈ members, WellFormed member) : WellFormed (.group connective members)

/-- A predicate stands somewhere in a tree. -/
inductive Contains : Predicate → Predicate → Prop where
  | here {predicate : Predicate} : Contains predicate predicate
  | member {connective : Connective} {members : List Predicate} {member predicate : Predicate}
      (present : member ∈ members) (within : Contains member predicate) :
      Contains (.group connective members) predicate

mutual

/-- Whether a tree is well formed. -/
def isWellFormed : Predicate → Bool
  | .test leaf => leaf.kind.shape == leaf.operand.shape
  | .group _ members => !members.isEmpty && areWellFormed members

/-- Whether several trees are well formed. -/
def areWellFormed : List Predicate → Bool
  | [] => true
  | predicate :: rest => isWellFormed predicate && areWellFormed rest

end

theorem areWellFormed_eq_all (members : List Predicate) :
    areWellFormed members = members.all isWellFormed := by
  induction members with
  | nil => rfl
  | cons member rest hyp => rw [areWellFormed, hyp, List.all_cons]

theorem isWellFormed_iff (predicate : Predicate) :
    predicate.isWellFormed = true ↔ predicate.WellFormed := by
  induction predicate with
  | test leaf =>
      rw [isWellFormed, beq_iff_eq]
      exact ⟨fun fits => .test leaf fits, fun | .test _ fits => fits⟩
  | group connective members hyp =>
      simp only [isWellFormed, areWellFormed_eq_all, Bool.and_eq_true, Bool.not_eq_true',
        List.isEmpty_eq_false_iff, List.all_eq_true]
      constructor
      · rintro ⟨nonempty, each⟩
        exact .group _ _ nonempty fun member present => (hyp member present).mp (each member present)
      · intro formed
        cases formed with
        | group _ _ nonempty each =>
            exact ⟨nonempty, fun member present => (hyp member present).mpr (each member present)⟩

instance (predicate : Predicate) : Decidable predicate.WellFormed :=
  decidable_of_iff _ predicate.isWellFormed_iff

theorem negateAll_eq_map (members : List Predicate) : negateAll members = members.map negate := by
  induction members with
  | nil => rfl
  | cons member rest hyp => rw [negateAll, hyp, List.map_cons]

@[simp]
theorem negate_group (connective : Connective) (members : List Predicate) :
    negate (.group connective members) = .group connective.negate (members.map negate) := by
  rw [negate, negateAll_eq_map]

variable {ρ : Type} [Entity ρ]

theorem evaluateAll_eq_map (row : ρ) (members : List Predicate) :
    evaluateAll row members = members.map (evaluate row) := by
  induction members with
  | nil => rfl
  | cons member rest hyp => rw [evaluateAll, hyp, List.map_cons]

@[simp]
theorem evaluate_group (row : ρ) (connective : Connective) (members : List Predicate) :
    evaluate row (.group connective members) =
      connective.combine (members.map (evaluate row)) := by
  rw [evaluate, evaluateAll_eq_map]

end Predicate

end Pushdown
