import Pushdown.Proofs.Predicate.Connectives
import Pushdown.Proofs.Predicate.Filling
import Pushdown.Proofs.Predicate.Negation

/-! # Membership and ranges as comparisons

A test for membership in a set has the result of the equalities with its values, joined by
disjunction, and its complement that of the inequalities, joined by conjunction. The empty set is
apart: there is no group of no members, and null is unknown to be in it. A range test agrees with
the conjunction of the comparisons with both ends wherever it is known, but it needs both ends to
compare, while a conjunction fails as soon as one of its members does.
-/

namespace Pushdown

/-- The comparisons with the start and with the end that a range makes. -/
def Inclusion.bounds : Inclusion → Comparison × Comparison
  | .startOnly => (.greaterOrEqual, .less)
  | .both => (.greaterOrEqual, .lessOrEqual)
  | .endOnly => (.greater, .lessOrEqual)
  | .neither => (.greater, .less)

theorem Inclusion.bounds_eq (inclusion : Inclusion) :
    inclusion.bounds = (inclusion.lower, inclusion.upper) := by
  cases inclusion <;> rfl

namespace Truth

theorem some_and_some (left right : Bool) :
    Truth.and (some left) (some right) = some (left && right) := by
  cases left <;> cases right <;> rfl

theorem and_eq_true_iff {left right : Truth} :
    left.and right = some true ↔ left = some true ∧ right = some true := by
  rcases left with _ | _ | _ <;> rcases right with _ | _ | _ <;> decide

end Truth

/-! ## Values -/

namespace Value

variable (actual : Value) (values : List Value)

theorem satisfies?_of_isNull {actual : Value} (missing : actual.isNull = true)
    (comparison : Comparison) (operand : Value) :
    actual.satisfies? comparison operand = none := by
  cases actual with
  | null => rw [satisfies?, compare?_null, Option.map_none]
  | _ => cases missing

theorem among?_of_isNull {actual : Value} (missing : actual.isNull = true) :
    actual.among? values = none := by
  unfold among?
  rw [if_pos missing]

theorem among?_nil : actual.among? [] = if actual.isNull then none else some false := rfl

/-- On null both sides are unknown, though only where there is a value to compare with. -/
theorem among?_eq_any_satisfies {values : List Value} (nonempty : values ≠ []) :
    actual.among? values = Truth.any (values.map (actual.satisfies? .equal)) := by
  cases missing : actual.isNull with
  | false =>
      have level : (fun order : Ordering => order == .eq) = Comparison.equal.holds := by
        funext order
        cases order <;> rfl
      rw [among?_eq_any missing, level]
      rfl
  | true =>
      obtain ⟨value, rest, rfl⟩ := List.exists_cons_of_ne_nil nonempty
      have unknown : (value :: rest).map (actual.satisfies? .equal) =
          (value :: rest).map fun _ => none :=
        List.map_congr_left fun operand _ => satisfies?_of_isNull missing .equal operand
      rw [among?_of_isNull _ missing, unknown, Truth.any_eq]
      simp

theorem not_among?_eq_all_satisfies {values : List Value} (nonempty : values ≠ []) :
    (actual.among? values).not = Truth.all (values.map (actual.satisfies? .notEqual)) := by
  have complement : Truth.not ∘ actual.satisfies? .equal = actual.satisfies? .notEqual := by
    funext operand
    exact (actual.satisfies?_complement operand .equal).symm
  rw [actual.among?_eq_any_satisfies nonempty, Truth.not_any, List.map_map, complement]

variable (start stop : Value) (inclusion : Inclusion)

/-- Both ends compare where a range is known. -/
theorem within?_eq_some_iff {answer : Bool} :
    actual.within? start stop inclusion = some answer ↔
      ∃ order order', actual.compare? start = some order ∧ actual.compare? stop = some order' ∧
        (inclusion.lower.holds order && inclusion.upper.holds order') = answer := by
  unfold within?
  cases actual.compare? start <;> cases actual.compare? stop <;>
    simp [Inclusion.afterStart, Inclusion.beforeEnd]

theorem within?_eq_none_iff :
    actual.within? start stop inclusion = none ↔
      actual.compare? start = none ∨ actual.compare? stop = none := by
  unfold within?
  cases actual.compare? start <;> cases actual.compare? stop <;> simp

/-- The conjunction of the comparisons with both ends. -/
def betweenEnds? : Truth :=
  (actual.satisfies? inclusion.bounds.1 start).and (actual.satisfies? inclusion.bounds.2 stop)

theorem betweenEnds?_of_within? {answer : Bool}
    (known : actual.within? start stop inclusion = some answer) :
    actual.betweenEnds? start stop inclusion = some answer := by
  obtain ⟨order, order', lower, upper, rfl⟩ := (within?_eq_some_iff _ _ _ _).mp known
  unfold betweenEnds? satisfies?
  rw [lower, upper, inclusion.bounds_eq, Option.map_some, Option.map_some, Truth.some_and_some]

/-- A conjunction holds when both comparisons do, and then both ends compare. -/
theorem within?_of_betweenEnds? (inside : actual.betweenEnds? start stop inclusion = some true) :
    actual.within? start stop inclusion = some true := by
  obtain ⟨above, below⟩ := Truth.and_eq_true_iff.mp inside
  rw [inclusion.bounds_eq] at above below
  obtain ⟨order, lower, reached⟩ := Option.map_eq_some_iff.mp above
  obtain ⟨order', upper, reached'⟩ := Option.map_eq_some_iff.mp below
  rw [within?_eq_some_iff]
  exact ⟨order, order', lower, upper, by rw [reached, reached', Bool.and_self]⟩

end Value

/-! ## Tests -/

namespace FieldTest

variable (field : String) (actual : Value)

theorem check_compare (comparison : Comparison) (value : Value) :
    (compare field comparison value).check actual = actual.satisfies? comparison value := by
  unfold check compare
  rw [Kind.comparison?_ofComparison]
  rfl

theorem check_set (negated : Bool) (values : List Value) :
    (set field negated values).check actual =
      if negated then (actual.among? values).not else actual.among? values := by
  cases negated <;> rfl

theorem check_range (start stop : Value) (inclusion : Inclusion) :
    (range field false start stop inclusion).check actual =
      actual.within? start stop inclusion := rfl

end FieldTest

namespace Predicate

/-- A field compared with each of several values. -/
def comparisons (field : String) (comparison : Comparison) (values : List Value) :
    List Predicate :=
  values.map fun value => .test (.compare field comparison value)

variable {ρ : Type} [Entity ρ] (row : ρ) (field : String)

theorem evaluate_compare (comparison : Comparison) (value : Value) :
    evaluate row (.test (.compare field comparison value)) =
      (Entity.value row field).satisfies? comparison value :=
  FieldTest.check_compare field (Entity.value row field) comparison value

theorem evaluate_comparisons (connective : Connective) (comparison : Comparison)
    (values : List Value) :
    evaluate row (.group connective (comparisons field comparison values)) =
      connective.combine (values.map ((Entity.value row field).satisfies? comparison)) := by
  have each : evaluate row ∘ (fun value => .test (.compare field comparison value)) =
      (Entity.value row field).satisfies? comparison :=
    funext fun value => evaluate_compare row field comparison value
  rw [evaluate_group, comparisons, List.map_map, each]

/-- **Membership and ranges expand into comparisons.** On every row, and so for every value of the
field, membership in a set that is not empty is the disjunction of the equalities with its members,
and its complement the conjunction of the inequalities. Nothing but null is unknown to be in the
empty set. A range and the conjunction of the comparisons with its ends hold alike; where the range
is known they are the same, and it is unknown just where an end does not compare. -/
theorem sets_and_ranges_expand :
    (∀ values : List Value, values ≠ [] → ∃ disjunction conjunction,
      any (comparisons field .equal values) = .ok disjunction ∧
      all (comparisons field .notEqual values) = .ok conjunction ∧
      evaluate row (.test (.set field false values)) = evaluate row disjunction ∧
      evaluate row (.test (.set field true values)) = evaluate row conjunction) ∧
    (∀ negated : Bool, evaluate row (.test (.set field negated [])) =
      if (Entity.value row field).isNull then none else some negated) ∧
    ∀ (start stop : Value) (inclusion : Inclusion),
      let between := evaluate row (.test (.range field false start stop inclusion))
      let ends := evaluate row (.and (.test (.compare field inclusion.bounds.1 start))
        (.test (.compare field inclusion.bounds.2 stop)))
      (between = some true ↔ ends = some true) ∧
        (∀ answer, between = some answer → ends = some answer) ∧
        (between = none ↔ (Entity.value row field).compare? start = none ∨
          (Entity.value row field).compare? stop = none) := by
  let actual := Entity.value row field
  refine ⟨fun values nonempty => ?_, fun negated => ?_, fun start stop inclusion => ?_⟩
  · have accepted (connective : Connective) (comparison : Comparison) :
        group? connective (comparisons field comparison values) =
          .ok (.group connective (comparisons field comparison values)) :=
      group?_eq_ok_iff.mpr ⟨fun empty => nonempty (List.map_eq_nil_iff.mp empty), rfl⟩
    refine ⟨_, _, accepted .or .equal, accepted .and .notEqual, ?_, ?_⟩
    · rw [evaluate_comparisons]
      exact actual.among?_eq_any_satisfies nonempty
    · rw [evaluate_comparisons]
      exact actual.not_among?_eq_all_satisfies nonempty
  · have checked : evaluate row (.test (.set field negated [])) =
        (FieldTest.set field negated []).check actual := by
      cases negated <;> rfl
    rw [checked, FieldTest.check_set, actual.among?_nil]
    cases negated <;> cases actual.isNull <;> rfl
  · intro between ends
    have ranged : between = actual.within? start stop inclusion :=
      FieldTest.check_range field actual start stop inclusion
    have expanded : ends = actual.betweenEnds? start stop inclusion := by
      refine (evaluate_join row .and _ _).trans ?_
      rw [evaluate_compare, evaluate_compare]
      rfl
    have kept (answer : Bool) (known : actual.within? start stop inclusion = some answer) :=
      actual.betweenEnds?_of_within? start stop inclusion known
    rw [ranged, expanded]
    exact ⟨⟨kept true, actual.within?_of_betweenEnds? start stop inclusion⟩, kept,
      actual.within?_eq_none_iff start stop inclusion⟩

/-- A list against a set in which one member does not compare, and null against the same set; a
range whose start does not compare is unknown where the comparison with its end already fails. -/
theorem sets_and_ranges_expand_mixed :
    let row : Record := ⟨[("a", .list [.int 1, .null]), ("n", .null), ("b", .uint 7)]⟩
    let values : List Value := [.list [.int 1, .int 2], .text "x", .list [.float .zero]]
    values ≠ [] ∧
      (∃ disjunction, any (comparisons "a" .equal values) = .ok disjunction ∧
        evaluate row (.test (.set "a" false values)) = evaluate row disjunction ∧
        evaluate row disjunction = none) ∧
      evaluate row (.test (.set "n" true [])) = none ∧
      evaluate row (.test (.set "b" true [])) = some true ∧
      evaluate row (.test (.range "b" false (.text "a") (.int 5) .both)) = none ∧
      evaluate row (.and (.test (.compare "b" .greaterOrEqual (.text "a")))
        (.test (.compare "b" .lessOrEqual (.int 5)))) = some false := by
  intro row values
  have nonempty : values ≠ [] := List.cons_ne_nil _ _
  obtain ⟨sets, -, -⟩ := sets_and_ranges_expand row "a"
  obtain ⟨disjunction, -, accepted, -, same, -⟩ := sets values nonempty
  obtain ⟨-, -, ranges⟩ := sets_and_ranges_expand row "b"
  obtain ⟨-, -, unknown⟩ := ranges (.text "a") (.int 5) .both
  have member : evaluate row (.test (.set "a" false values)) = none := by decide
  exact ⟨nonempty, ⟨disjunction, accepted, same, same.symm.trans member⟩, by decide, by decide,
    unknown.mpr (.inl rfl), by decide⟩

end Predicate

end Pushdown
