import Mathlib.Data.List.Forall2
import Pushdown.Predicate.Lowering
import Pushdown.Proofs.Predicate.WellFormed

/-! # Which predicates have nodes

Lowering a list succeeds exactly when every member does, member by member. A well-formed
predicate is refused only for a node that the backend does not have.
-/

namespace Pushdown

namespace ConditionBuilder

variable {ν : Type} (builder : ConditionBuilder ν)

/-! ## Lists of predicates -/

theorem lowerAll_cons_ok_iff {member : Predicate} {rest : List Predicate} {nodes : List ν} :
    builder.lowerAll (member :: rest) = .ok nodes ↔
      ∃ node others, builder.lower member = .ok node ∧ builder.lowerAll rest = .ok others ∧
        nodes = node :: others := by
  rw [lowerAll]
  cases builder.lower member with
  | error failure => simp
  | ok node => cases builder.lowerAll rest <;> simp [eq_comm]

/-- The first member that is refused ends the work. -/
theorem lowerAll_cons_error_iff {member : Predicate} {rest : List Predicate} {failure : Failure} :
    builder.lowerAll (member :: rest) = .error failure ↔
      builder.lower member = .error failure ∨
        ∃ node, builder.lower member = .ok node ∧ builder.lowerAll rest = .error failure := by
  rw [lowerAll]
  cases builder.lower member with
  | error cause => simp
  | ok node => cases builder.lowerAll rest <;> simp

/-- A list has nodes exactly when its members have them, in their places. -/
theorem lowerAll_ok_iff (members : List Predicate) (nodes : List ν) :
    builder.lowerAll members = .ok nodes ↔
      List.Forall₂ (fun member node => builder.lower member = .ok node) members nodes := by
  induction members generalizing nodes with
  | nil => rw [lowerAll, Except.ok.injEq, List.forall₂_nil_left_iff, eq_comm]
  | cons member rest hyp =>
      rw [lowerAll_cons_ok_iff, List.forall₂_cons_left_iff]
      simp only [hyp, ← and_assoc]

/-- A failure on a list is the failure on one of its members. -/
theorem lowerAll_error {members : List Predicate} {failure : Failure}
    (refused : builder.lowerAll members = .error failure) :
    ∃ member ∈ members, builder.lower member = .error failure := by
  induction members with
  | nil => cases refused
  | cons member rest hyp =>
      rcases builder.lowerAll_cons_error_iff.mp refused with here | ⟨node, -, later⟩
      · exact ⟨member, List.mem_cons_self, here⟩
      · obtain ⟨other, present, found⟩ := hyp later
        exact ⟨other, List.mem_cons_of_mem _ present, found⟩

theorem lower_group_ok_iff {connective : Connective} {members : List Predicate} {node : ν} :
    builder.lower (.group connective members) = .ok node ↔
      ∃ nodes, builder.lowerAll members = .ok nodes ∧
        builder.combine connective nodes = some node := by
  rw [lower]
  cases builder.lowerAll members with
  | error failure => simp
  | ok nodes => cases combined : builder.combine connective nodes <;> simp [combined]

theorem lower_group_error_iff {connective : Connective} {members : List Predicate}
    {failure : Failure} :
    builder.lower (.group connective members) = .error failure ↔
      builder.lowerAll members = .error failure ∨
        ∃ nodes, builder.lowerAll members = .ok nodes ∧
          builder.combine connective nodes = none ∧
          failure = .unsupportedPredicate (.group connective) := by
  rw [lower]
  cases builder.lowerAll members with
  | error failure => simp
  | ok nodes => cases combined : builder.combine connective nodes <;> simp [combined, eq_comm]

/-! ## Tests -/

/-- Only a test whose operand fits its kind has a node. -/
theorem test?_fits {test : FieldTest} {node : ν} (lowered : builder.test? test = .ok node) :
    test.kind.shape = test.operand.shape := by
  obtain ⟨field, kind, operand⟩ := test
  unfold test? at lowered
  cases shape : kind.shape <;> cases operand <;> simp only [shape, reduceCtorEq] at lowered <;>
    rfl

theorem supported_ok {kind : FieldTest.Kind} {constructed : Option ν} {node : ν}
    (accepted : test?.supported kind constructed = .ok node) : constructed = some node := by
  cases constructed with
  | none => cases accepted
  | some found =>
      cases accepted
      rfl

/-! ## Refusals -/

theorem supported_error_iff {kind : FieldTest.Kind} {constructed : Option ν} {failure : Failure} :
    test?.supported kind constructed = .error failure ↔
      constructed = none ∧ failure = .unsupportedPredicate (.test kind) := by
  cases constructed with
  | none => simp [test?.supported, eq_comm]
  | some node => simp [test?.supported]

/-- The constructor for the head of a predicate gives no node. -/
inductive Refuses : Predicate → Prop where
  | compare (field : String) (comparison : Comparison) (value : Value)
      (refused : builder.comparison field comparison value = none) :
      Refuses (.test (.compare field comparison value))
  | range (field : String) (negated : Bool) (start stop : Value) (inclusion : Inclusion)
      (refused : builder.range field start stop inclusion negated = none) :
      Refuses (.test (.range field negated start stop inclusion))
  | set (field : String) (negated : Bool) (values : List Value)
      (refused : builder.membership field values negated = none) :
      Refuses (.test (.set field negated values))
  | group (connective : Connective) (members : List Predicate) (nodes : List ν)
      (lowered : builder.lowerAll members = .ok nodes)
      (refused : builder.combine connective nodes = none) : Refuses (.group connective members)

/-- A test whose operand fits its kind is refused only for a missing constructor. -/
theorem test?_error {test : FieldTest} (fits : test.kind.shape = test.operand.shape)
    {failure : Failure} (refused : builder.test? test = .error failure) :
    builder.Refuses (.test test) ∧ failure = .unsupportedPredicate (.test test.kind) := by
  obtain ⟨field, kind, operand⟩ := test
  unfold test? at refused
  simp only [fits] at refused
  cases operand with
  | value value =>
      obtain ⟨missing, rfl⟩ := supported_error_iff.mp refused
      obtain ⟨comparison, rfl⟩ := FieldTest.Kind.shape_eq_value fits
      rw [FieldTest.Kind.comparison?_ofComparison, Option.bind_some] at missing
      exact ⟨.compare field comparison value missing, rfl⟩
  | range start stop inclusion =>
      obtain ⟨missing, rfl⟩ := supported_error_iff.mp refused
      rcases FieldTest.Kind.shape_eq_range fits with rfl | rfl
      · exact ⟨.range field false start stop inclusion missing, rfl⟩
      · exact ⟨.range field true start stop inclusion missing, rfl⟩
  | set values =>
      obtain ⟨missing, rfl⟩ := supported_error_iff.mp refused
      rcases FieldTest.Kind.shape_eq_set fits with rfl | rfl
      · exact ⟨.set field false values missing, rfl⟩
      · exact ⟨.set field true values missing, rfl⟩

/-- A well-formed predicate is refused only for a node in it that the backend does not have, and
the failure names the form of that node. -/
theorem lower_error {predicate : Predicate} (formed : predicate.WellFormed) {failure : Failure}
    (refused : builder.lower predicate = .error failure) :
    ∃ node, predicate.Contains node ∧ builder.Refuses node ∧
      failure = .unsupportedPredicate node.form := by
  induction formed generalizing failure with
  | test leaf fits =>
      obtain ⟨missing, named⟩ := builder.test?_error fits refused
      exact ⟨.test leaf, .here, missing, named⟩
  | group connective members nonempty each hyp =>
      rcases builder.lower_group_error_iff.mp refused with deeper | ⟨nodes, lowered, missing, named⟩
      · obtain ⟨member, present, cause⟩ := builder.lowerAll_error deeper
        obtain ⟨node, within, missing, named⟩ := hyp member present cause
        exact ⟨node, .member present within, missing, named⟩
      · exact ⟨.group connective members, .here, .group connective members nodes lowered missing,
          named⟩

end ConditionBuilder

end Pushdown
