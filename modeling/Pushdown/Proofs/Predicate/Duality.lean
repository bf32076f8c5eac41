import Pushdown.Proofs.Predicate.Building

/-! # Complements as trees

The complement of a predicate stands on the same tree. It asks about the same fields with the same
operands, in groups of the same size, and differs at every node: kinds of tests are exchanged in
pairs, and the two connectives with each other. So De Morgan's laws are equations of trees. They
hold of joined predicates too, since complement makes of a group that is extended by a further
member one that is extended by it as well.
-/

namespace Pushdown

/-! ## Nodes -/

namespace FieldTest

theorem Kind.negate_negate (kind : FieldTest.Kind) : kind.negate.negate = kind := by
  cases kind <;> rfl

theorem Kind.negate_ne (kind : FieldTest.Kind) : kind.negate ≠ kind := by
  cases kind <;> decide

theorem negate_negate (test : FieldTest) : test.negate.negate = test := by
  obtain ⟨field, kind, operand⟩ := test
  simp only [negate, Kind.negate_negate]

end FieldTest

namespace Connective

theorem negate_negate (connective : Connective) : connective.negate.negate = connective := by
  cases connective <;> rfl

theorem negate_ne (connective : Connective) : connective.negate ≠ connective := by
  cases connective <;> decide

/-- Complement keeps apart what it exchanges. -/
theorem negate_inj {connective connective' : Connective} :
    connective.negate = connective'.negate ↔ connective = connective' := by
  cases connective <;> cases connective' <;> decide

end Connective

namespace Predicate

/-! ## Complements -/

theorem negate_negate (predicate : Predicate) : predicate.negate.negate = predicate := by
  induction predicate with
  | test leaf => exact congrArg Predicate.test leaf.negate_negate
  | group connective members hyp =>
      have same : members.map (negate ∘ negate) = members.map id := List.map_congr_left hyp
      rw [negate_group, negate_group, connective.negate_negate, List.map_map, same, List.map_id]

/-- No tree is its own complement: the two differ at the head. -/
theorem negate_ne (predicate : Predicate) : predicate.negate ≠ predicate := by
  cases predicate with
  | test leaf =>
      intro same
      exact leaf.kind.negate_ne (congrArg FieldTest.kind (Predicate.test.inj same))
  | group connective members =>
      rw [negate_group]
      intro same
      exact connective.negate_ne (Predicate.group.inj same).1

/-- De Morgan's law for two predicates. The complements are joined by the other connective, and
the one on the left is a group of it just where the original is a group of the first. -/
theorem negate_join (connective : Connective) (left right : Predicate) :
    (join connective left right).negate = join connective.negate left.negate right.negate := by
  cases left with
  | test leaf => exact negate_group connective [.test leaf, right]
  | group connective' members =>
      rw [negate_group]
      unfold join
      dsimp only
      by_cases same : connective' = connective
      · rw [if_pos same, if_pos (Connective.negate_inj.mpr same), negate_group, List.map_append]
        rfl
      · rw [if_neg same, if_neg (mt Connective.negate_inj.mp same), negate_group, List.map_cons,
          negate_group]
        rfl

/-- De Morgan's law for several predicates. -/
theorem group?_map_negate {connective : Connective} {members : List Predicate}
    {predicate : Predicate} (accepted : group? connective members = .ok predicate) :
    group? connective.negate (members.map negate) = .ok predicate.negate := by
  obtain ⟨nonempty, rfl⟩ := group?_eq_ok_iff.mp accepted
  rw [group?_eq_ok_iff, negate_group]
  exact ⟨fun empty => nonempty (List.map_eq_nil_iff.mp empty), rfl⟩

/-! ## Outlines -/

/-- A tree of tests and groups, without the kinds of the tests and the connectives. -/
inductive Outline where
  | test (field : String) (operand : Operand)
  | group (members : List Outline)

mutual

/-- The outline of a predicate. -/
def outline : Predicate → Outline
  | .test leaf => .test leaf.field leaf.operand
  | .group _ members => .group (outlineAll members)

/-- The outlines of several predicates. -/
def outlineAll : List Predicate → List Outline
  | [] => []
  | predicate :: rest => outline predicate :: outlineAll rest

end

theorem outlineAll_eq_map (members : List Predicate) :
    outlineAll members = members.map outline := by
  induction members with
  | nil => rfl
  | cons member rest hyp => rw [outlineAll, hyp, List.map_cons]

theorem outline_group (connective : Connective) (members : List Predicate) :
    outline (.group connective members) = .group (members.map outline) := by
  rw [outline, outlineAll_eq_map]

theorem outline_negate (predicate : Predicate) : predicate.negate.outline = predicate.outline := by
  induction predicate with
  | test leaf => rfl
  | group connective members hyp =>
      have same : members.map (outline ∘ negate) = members.map outline := List.map_congr_left hyp
      rw [negate_group, outline_group, outline_group, List.map_map, same]

/-- **Complement is a duality of trees.** Taken twice it changes nothing, taken once it changes
every tree, though neither its fields and operands nor how its groups are built. It exchanges
conjunctions and disjunctions of predicates and complements their members in place, whether two
are joined or several grouped. -/
theorem negation_dualizes (left right : Predicate) :
    left.negate.negate = left ∧ left.negate ≠ left ∧ left.negate.outline = left.outline ∧
      (left.and right).negate = left.negate.or right.negate ∧
      (left.or right).negate = left.negate.and right.negate ∧
      ∀ members : List Predicate, members ≠ [] → ∃ conjunction disjunction,
        all members = .ok conjunction ∧ any members = .ok disjunction ∧
          any (members.map negate) = .ok conjunction.negate ∧
          all (members.map negate) = .ok disjunction.negate := by
  refine ⟨left.negate_negate, left.negate_ne, left.outline_negate, negate_join .and left right,
    negate_join .or left right, fun members nonempty => ?_⟩
  have accepted (connective : Connective) :
      group? connective members = .ok (.group connective members) :=
    group?_eq_ok_iff.mpr ⟨nonempty, rfl⟩
  refine ⟨_, _, accepted .and, accepted .or, ?_, ?_⟩
  · exact group?_map_negate (accepted .and)
  · exact group?_map_negate (accepted .or)

/-- A conjunction that is extended by a disjunction: its complement is a disjunction that is
extended by a conjunction. -/
theorem negation_dualizes_extended :
    let first : Predicate := .test ⟨"a", .between, .range (.int 5) (.int 1) .both⟩
    let second : Predicate := .test ⟨"b", .noneOf, .set [.null, .text "x"]⟩
    let left : Predicate := .group .and [first, second]
    let right : Predicate := .group .or [second]
    [left, right] ≠ [] ∧ left.and right = .group .and [first, second, right] ∧
      (left.and right).negate = .group .or [first.negate, second.negate, right.negate] ∧
      left.negate.negate = left ∧ left.negate.outline = left.outline ∧
      ∃ conjunction, all [left, right] = .ok conjunction ∧
        any [left.negate, right.negate] = .ok conjunction.negate := by
  intro first second left right
  have nonempty : [left, right] ≠ [] := List.cons_ne_nil _ _
  obtain ⟨twice, -, kept, conjoined, -, grouped⟩ := negation_dualizes left right
  obtain ⟨conjunction, -, accepted, -, dual, -⟩ := grouped _ nonempty
  exact ⟨nonempty, rfl, conjoined.trans rfl, twice, kept, conjunction, accepted, dual⟩

end Predicate

end Pushdown
