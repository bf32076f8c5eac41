import Pushdown.Proofs.Predicate.Lowering
import Pushdown.Proofs.Record
import Pushdown.Table

/-! # The first refused node

Many backends have a node or not by its form alone, whatever field and operand stand in it. Such a
backend lowers a well-formed predicate unless some node of the tree has a form that it refuses, and
the failure names the first of these nodes when members are read from left to right and before
their group. Both the lowering and the search for that node are sequences of steps in which the
first failure ends the work, and they are compared step by step.
-/

namespace Pushdown

/-! ## Nodes in the order of lowering -/

namespace Predicate

mutual

/-- The nodes of a tree, from left to right and members before their group. -/
def postorder : Predicate → List Predicate
  | .test leaf => [.test leaf]
  | .group connective members => postorderAll members ++ [.group connective members]

/-- The nodes of several trees, one tree after the other. -/
def postorderAll : List Predicate → List Predicate
  | [] => []
  | predicate :: rest => postorder predicate ++ postorderAll rest

end

theorem postorderAll_eq_flatMap (members : List Predicate) :
    postorderAll members = members.flatMap postorder := by
  induction members with
  | nil => rfl
  | cons member rest hyp => rw [postorderAll, hyp, List.flatMap_cons]

/-- The order leaves no node out and brings none in. -/
theorem mem_postorder_iff {predicate node : Predicate} :
    node ∈ predicate.postorder ↔ predicate.Contains node := by
  constructor
  · intro listed
    induction predicate with
    | test leaf =>
        rw [postorder, List.mem_singleton] at listed
        exact listed ▸ .here
    | group connective members hyp =>
        rw [postorder, postorderAll_eq_flatMap, List.mem_append, List.mem_singleton] at listed
        rcases listed with inside | rfl
        · obtain ⟨member, present, inside⟩ := List.mem_flatMap.mp inside
          exact .member present (hyp member present inside)
        · exact .here
  · intro within
    induction within with
    | @here predicate =>
        cases predicate with
        | test leaf => exact List.mem_singleton_self _
        | group connective members => exact List.mem_append_right _ (List.mem_singleton_self _)
    | member present within hyp =>
        rw [postorder, postorderAll_eq_flatMap]
        exact List.mem_append_left _ (List.mem_flatMap.mpr ⟨_, present, hyp⟩)

/-- The failure that names the first of some nodes whose form is not accepted. -/
def refusal (accepts : Form → Bool) (nodes : List Predicate) : Option Failure :=
  (nodes.find? fun node => !accepts node.form).map fun node => .unsupportedPredicate node.form

variable {accepts : Form → Bool}

theorem refusal_append (former latter : List Predicate) :
    refusal accepts (former ++ latter) = (refusal accepts former).or (refusal accepts latter) := by
  unfold refusal
  rw [List.find?_append, Option.map_or]

theorem refusal_singleton (node : Predicate) :
    refusal accepts [node] =
      if accepts node.form then none else some (.unsupportedPredicate node.form) := by
  unfold refusal
  rw [List.find?_singleton]
  cases accepts node.form <;> rfl

end Predicate

/-- The failure of a computation, if it fails. -/
def Failure.of? {β : Type} : Except Failure β → Option Failure
  | .ok _ => none
  | .error failure => some failure

theorem Failure.of?_eq_some_iff {β : Type} {result : Except Failure β} {failure : Failure} :
    of? result = some failure ↔ result = .error failure := by
  cases result <;> simp [of?]

/-! ## Backends that decide by form -/

namespace ConditionBuilder

variable {ν : Type}

/-- The constructors of a backend have a node just when its form is accepted. -/
structure DecidesByForm (builder : ConditionBuilder ν) (accepts : Predicate.Form → Bool) :
    Prop where
  comparison (field : String) (comparison : Comparison) (value : Value) :
    (builder.comparison field comparison value).isSome = accepts (.test (.ofComparison comparison))
  range (field : String) (start stop : Value) (inclusion : Inclusion) (negated : Bool) :
    (builder.range field start stop inclusion negated).isSome =
      accepts (.test (if negated then .notBetween else .between))
  membership (field : String) (values : List Value) (negated : Bool) :
    (builder.membership field values negated).isSome =
      accepts (.test (if negated then .noneOf else .oneOf))
  combine (connective : Connective) (nodes : List ν) :
    (builder.combine connective nodes).isSome = accepts (.group connective)

end ConditionBuilder

namespace Table

variable {ρ : Type} (table : Table ρ) (kinds : FieldTest.Kind → Bool)

/-- Whether a table has nodes of a form, when it is restricted to some kinds of tests. -/
def accepts : Predicate.Form → Bool
  | .test kind => kinds kind
  | .group .and => table.hasAnd
  | .group .or => table.hasOr

theorem isSome_guarded (accepted : Bool) (condition : TableCondition) :
    (if accepted then some condition else none).isSome = accepted := by
  cases accepted <;> rfl

/-- Tables decide by form, whatever abilities they lack. -/
theorem restrict_decidesByForm :
    (table.conditions.restrict kinds).DecidesByForm (table.accepts kinds) where
  comparison field comparison value := isSome_guarded (kinds (.ofComparison comparison)) _
  range field start stop inclusion negated :=
    isSome_guarded (kinds (if negated then .notBetween else .between)) _
  membership field values negated :=
    isSome_guarded (kinds (if negated then .noneOf else .oneOf)) _
  combine connective nodes := by
    cases connective with
    | and => exact isSome_guarded table.hasAnd (.group .and nodes)
    | or => exact isSome_guarded table.hasOr (.group .or nodes)

end Table

/-! ## Lowering and the search -/

namespace ConditionBuilder

variable {ν : Type} {builder : ConditionBuilder ν} {accepts : Predicate.Form → Bool}

theorem of?_supported {kind : FieldTest.Kind} {constructed : Option ν}
    (decided : constructed.isSome = accepts (.test kind)) :
    Failure.of? (test?.supported kind constructed) =
      if accepts (.test kind) then none else some (.unsupportedPredicate (.test kind)) := by
  rw [← decided]
  cases constructed <;> rfl

theorem DecidesByForm.of?_test (uniform : builder.DecidesByForm accepts) {test : FieldTest}
    (fits : test.kind.shape = test.operand.shape) :
    Failure.of? (builder.test? test) =
      if accepts (.test test.kind) then none
      else some (.unsupportedPredicate (.test test.kind)) := by
  obtain ⟨field, kind, operand⟩ := test
  unfold test?
  simp only [fits]
  cases operand with
  | value value =>
      obtain ⟨comparison, rfl⟩ := FieldTest.Kind.shape_eq_value fits
      simp only [FieldTest.Kind.comparison?_ofComparison, Option.bind_some]
      exact of?_supported (uniform.comparison field comparison value)
  | range start stop inclusion =>
      rcases FieldTest.Kind.shape_eq_range fits with rfl | rfl
      · exact of?_supported (uniform.range field start stop inclusion false)
      · exact of?_supported (uniform.range field start stop inclusion true)
  | set values =>
      rcases FieldTest.Kind.shape_eq_set fits with rfl | rfl
      · exact of?_supported (uniform.membership field values false)
      · exact of?_supported (uniform.membership field values true)

/-- A list fails where its first member fails, and otherwise where the others do. -/
theorem of?_lowerAll_cons (member : Predicate) (rest : List Predicate) :
    Failure.of? (builder.lowerAll (member :: rest)) =
      (Failure.of? (builder.lower member)).or (Failure.of? (builder.lowerAll rest)) := by
  rw [lowerAll]
  cases builder.lower member with
  | error failure => rfl
  | ok node => cases builder.lowerAll rest <;> rfl

/-- A group fails where its members fail, and otherwise by its own form. -/
theorem DecidesByForm.of?_group (uniform : builder.DecidesByForm accepts) (connective : Connective)
    (members : List Predicate) :
    Failure.of? (builder.lower (.group connective members)) =
      (Failure.of? (builder.lowerAll members)).or
        (if accepts (.group connective) then none
        else some (.unsupportedPredicate (.group connective))) := by
  rw [lower]
  cases builder.lowerAll members with
  | error failure => rfl
  | ok nodes =>
      rw [← uniform.combine connective nodes]
      cases combined : builder.combine connective nodes <;> simp [combined, Failure.of?]

theorem of?_lowerAll {members : List Predicate}
    (each : ∀ member ∈ members,
      Failure.of? (builder.lower member) = Predicate.refusal accepts member.postorder) :
    Failure.of? (builder.lowerAll members) =
      Predicate.refusal accepts (Predicate.postorderAll members) := by
  induction members with
  | nil => rfl
  | cons member rest hyp =>
      have first := each member List.mem_cons_self
      have others := hyp fun other present => each other (List.mem_cons_of_mem _ present)
      rw [of?_lowerAll_cons, first, others, Predicate.postorderAll, Predicate.refusal_append]

/-- Lowering fails as the search for the first refused node does. -/
theorem DecidesByForm.of?_lower (uniform : builder.DecidesByForm accepts) {predicate : Predicate}
    (formed : predicate.WellFormed) :
    Failure.of? (builder.lower predicate) = Predicate.refusal accepts predicate.postorder := by
  induction formed with
  | test leaf fits =>
      rw [lower, Predicate.postorder, Predicate.refusal_singleton]
      exact uniform.of?_test fits
  | group connective members nonempty each hyp =>
      rw [uniform.of?_group, of?_lowerAll hyp, Predicate.postorder, Predicate.refusal_append,
        Predicate.refusal_singleton]
      rfl

/-- **The first refused form is named.** A backend that has nodes by their form alone refuses a
well-formed predicate exactly when some node of the tree has a form that it refuses. The failure is
then the one of the first such node, with members before their group and from left to right, and
its report gives the label of that node. -/
theorem first_refused_form_named (uniform : builder.DecidesByForm accepts) {predicate : Predicate}
    (formed : predicate.WellFormed) :
    ((∃ failure, builder.lower predicate = .error failure) ↔
      ∃ node, predicate.Contains node ∧ accepts node.form = false) ∧
    ∀ failure, builder.lower predicate = .error failure →
      ∃ before node after, predicate.postorder = before ++ node :: after ∧
        (∀ earlier ∈ before, accepts earlier.form = true) ∧ accepts node.form = false ∧
        failure = .unsupportedPredicate node.form ∧
        failure.report.predicateLabel? = some node.label := by
  have same := uniform.of?_lower formed
  constructor
  · simp only [← Failure.of?_eq_some_iff, same, ← Option.isSome_iff_exists, Predicate.refusal,
      Option.isSome_map, List.find?_isSome, Bool.not_eq_true',
      Predicate.mem_postorder_iff]
  · intro failure refused
    rw [← Failure.of?_eq_some_iff, same] at refused
    obtain ⟨node, first, rfl⟩ := Option.map_eq_some_iff.mp refused
    obtain ⟨missing, before, after, whole, earlier⟩ := List.find?_eq_some_iff_append.mp first
    refine ⟨before, node, after, whole, fun other present => ?_, ?_, rfl, rfl⟩
    · simpa using earlier other present
    · simpa using missing

/-- The test inside a disjunction is named before the disjunction, and both before the range that
follows them. A disjunction is named even if it has one member. -/
theorem first_refused_form_named_in_disjunction :
    let table : Table Record := { rows := [], hasOr := false }
    let kinds : FieldTest.Kind → Bool := fun kind => kind ≠ .noneOf && kind ≠ .notBetween
    let builder := table.conditions.restrict kinds
    let equal : Predicate := .test ⟨"a", .equal, .value .null⟩
    let excluded : Predicate := .test ⟨"a", .noneOf, .set []⟩
    let outside : Predicate := .test ⟨"b", .notBetween, .range (.int 2) (.int 1) .both⟩
    let inner : Predicate := .group .and [equal, .group .or [equal, excluded], outside]
    let alone : Predicate := .group .and [.group .or [equal], outside]
    (∃ before node after, inner.postorder = before ++ node :: after ∧
      (∀ earlier ∈ before, table.accepts kinds earlier.form = true) ∧
      table.accepts kinds node.form = false ∧
      builder.lower inner = .error (.unsupportedPredicate node.form) ∧ node.label = "NOT_IN") ∧
    ∃ before node after, alone.postorder = before ++ node :: after ∧
      (∀ earlier ∈ before, table.accepts kinds earlier.form = true) ∧
      table.accepts kinds node.form = false ∧
      builder.lower alone = .error (.unsupportedPredicate node.form) ∧ node.label = "OR" := by
  intro table kinds builder equal excluded outside inner alone
  have uniform := table.restrict_decidesByForm kinds
  have inside := (first_refused_form_named uniform (by decide : inner.WellFormed)).2
    (.unsupportedPredicate (.test .noneOf)) rfl
  have single := (first_refused_form_named uniform (by decide : alone.WellFormed)).2
    (.unsupportedPredicate (.group .or)) rfl
  obtain ⟨before, node, after, whole, earlier, missing, named, label⟩ := inside
  obtain ⟨before', node', after', whole', earlier', missing', named', label'⟩ := single
  refine ⟨⟨before, node, after, whole, earlier, missing, ?_, ?_⟩,
    ⟨before', node', after', whole', earlier', missing', ?_, ?_⟩⟩
  · exact congrArg Except.error named
  · exact (Option.some.inj label).symm
  · exact congrArg Except.error named'
  · exact (Option.some.inj label').symm

end ConditionBuilder

end Pushdown
