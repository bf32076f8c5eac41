import Pushdown.Proofs.Predicate.WellFormed

/-! # What the constructors build

The tests and predicates that the checked constructors and the operations on predicates can build
are the well-formed ones, no more and no fewer.
-/

namespace Pushdown

namespace FieldTest

theorem of?_eq_ok_iff {field : String} {kind : FieldTest.Kind} {operand : Operand}
    {test : FieldTest} :
    of? field kind operand = .ok test ↔ kind.shape = operand.shape ∧ test = ⟨field, kind, operand⟩ := by
  unfold of?
  by_cases fits : kind.shape = operand.shape
  · rw [if_pos fits, Except.ok.injEq]
    exact ⟨fun same => ⟨fits, same.symm⟩, fun ⟨_, same⟩ => same.symm⟩
  · rw [if_neg fits]
    exact iff_of_false nofun fun ⟨fits', _⟩ => fits fits'

/-- A test that can be built. -/
inductive Built : FieldTest → Prop where
  | of (field : String) (kind : FieldTest.Kind) (operand : Operand) (test : FieldTest)
      (accepted : of? field kind operand = .ok test) : Built test
  | compare (field : String) (comparison : Comparison) (value : Value) :
      Built (compare field comparison value)
  | range (field : String) (negated : Bool) (start stop : Value) (inclusion : Inclusion) :
      Built (range field negated start stop inclusion)
  | set (field : String) (negated : Bool) (values : List Value) : Built (set field negated values)
  | negate (test : FieldTest) (built : Built test) : Built test.negate

theorem Kind.shape_negate (kind : FieldTest.Kind) : kind.negate.shape = kind.shape := by
  cases kind <;> rfl

/-- The tests that can be built are those whose kind and operand agree. -/
theorem built_iff {test : FieldTest} : test.Built ↔ test.kind.shape = test.operand.shape := by
  constructor
  · intro built
    induction built with
    | of field kind operand test accepted =>
        obtain ⟨fits, rfl⟩ := of?_eq_ok_iff.mp accepted
        exact fits
    | compare field comparison value => cases comparison <;> rfl
    | range field negated start stop inclusion => cases negated <;> rfl
    | set field negated values => cases negated <;> rfl
    | negate test built fits => exact (Kind.shape_negate test.kind).trans fits
  · intro fits
    exact .of test.field test.kind test.operand test (of?_eq_ok_iff.mpr ⟨fits, rfl⟩)

end FieldTest

namespace Predicate

theorem group?_eq_ok_iff {connective : Connective} {members : List Predicate}
    {predicate : Predicate} :
    group? connective members = .ok predicate ↔
      members ≠ [] ∧ predicate = .group connective members := by
  unfold group?
  cases members with
  | nil => exact iff_of_false nofun fun ⟨nonempty, _⟩ => nonempty rfl
  | cons member rest =>
      change Except.ok _ = Except.ok _ ↔ _
      rw [Except.ok.injEq]
      exact ⟨fun same => ⟨List.cons_ne_nil _ _, same.symm⟩, fun ⟨_, same⟩ => same.symm⟩

theorem WellFormed.of_group? {connective : Connective} {members : List Predicate}
    {predicate : Predicate} (accepted : group? connective members = .ok predicate)
    (each : ∀ member ∈ members, member.WellFormed) : predicate.WellFormed := by
  obtain ⟨nonempty, rfl⟩ := group?_eq_ok_iff.mp accepted
  exact .group connective members nonempty each

/-- A predicate that can be built. -/
inductive Built : Predicate → Prop where
  | test (leaf : FieldTest) (built : leaf.Built) : Built (.test leaf)
  | group (connective : Connective) (members : List Predicate) (predicate : Predicate)
      (accepted : group? connective members = .ok predicate)
      (each : ∀ member ∈ members, Built member) : Built predicate
  | negate (predicate : Predicate) (built : Built predicate) : Built predicate.negate
  | and (left right : Predicate) (built : Built left) (built' : Built right) :
      Built (left.and right)
  | or (left right : Predicate) (built : Built left) (built' : Built right) :
      Built (left.or right)

theorem WellFormed.negate {predicate : Predicate} (formed : predicate.WellFormed) :
    predicate.negate.WellFormed := by
  induction formed with
  | test leaf fits => exact .test leaf.negate ((FieldTest.Kind.shape_negate leaf.kind).trans fits)
  | group connective members nonempty each hyp =>
      rw [negate_group]
      refine .group _ _ (fun empty => nonempty (List.map_eq_nil_iff.mp empty)) ?_
      intro member present
      obtain ⟨original, present', rfl⟩ := List.mem_map.mp present
      exact hyp original present'

theorem WellFormed.join {left right : Predicate} (formed : left.WellFormed)
    (formed' : right.WellFormed) (connective : Connective) :
    (join connective left right).WellFormed := by
  have pair : (Predicate.group connective [left, right]).WellFormed := by
    refine .group _ _ (List.cons_ne_nil _ _) ?_
    rw [List.forall_mem_cons, List.forall_mem_singleton]
    exact ⟨formed, formed'⟩
  cases formed with
  | test leaf fits => exact pair
  | group connective' members nonempty each =>
      unfold Predicate.join
      dsimp only
      split
      · refine .group _ _ (List.append_ne_nil_of_left_ne_nil nonempty _) ?_
        intro member present
        rcases List.mem_append.mp present with earlier | last
        · exact each member earlier
        · exact List.mem_singleton.mp last ▸ formed'
      · exact pair

/-- The predicates that can be built are the well-formed ones. -/
theorem built_iff {predicate : Predicate} : predicate.Built ↔ predicate.WellFormed := by
  constructor
  · intro built
    induction built with
    | test leaf built => exact .test leaf (FieldTest.built_iff.mp built)
    | group connective members predicate accepted each hyp => exact .of_group? accepted hyp
    | negate predicate built hyp => exact hyp.negate
    | and left right built built' hyp hyp' => exact hyp.join hyp' .and
    | or left right built built' hyp hyp' => exact hyp.join hyp' .or
  · intro formed
    induction formed with
    | test leaf fits => exact .test leaf (FieldTest.built_iff.mpr fits)
    | group connective members nonempty each hyp =>
        exact .group connective members _ (group?_eq_ok_iff.mpr ⟨nonempty, rfl⟩) hyp

end Predicate

end Pushdown
