import Mathlib.Data.List.Forall2
import Pushdown.Proofs.Predicate.WellFormed
import Pushdown.Proofs.Record
import Pushdown.Proofs.Truth.Kleene
import Pushdown.Proofs.Value.Comparison

/-! # Filling in what is unknown

A row is filled in when values take the place of nulls, in lists too. An answer on the row before
may be unknown, but one that is definite was reached without the nulls, and it stays. This holds of
the comparison of two values and passes through everything that is made of comparisons, since no
connective turns an unknown result into a definite one unless another result decides.
-/

namespace Pushdown

/-! ## Answers that stay -/

/-- A later answer keeps a former one: it is the same unless the former was unknown. -/
def Kept {α : Type} (former latter : Option α) : Prop :=
  former = none ∨ latter = former

namespace Kept

variable {α β : Type} {former latter : Option α}

theorem unknown : Kept none latter :=
  .inl rfl

theorem refl (answer : Option α) : Kept answer answer :=
  .inr rfl

theorem iff : Kept former latter ↔ ∀ answer, former = some answer → latter = some answer := by
  constructor
  · rintro (rfl | rfl) answer known
    · cases known
    · exact known
  · intro stays
    cases former with
    | none => exact unknown
    | some answer => exact .inr (stays answer rfl)

theorem map (kept : Kept former latter) (image : α → β) :
    Kept (former.map image) (latter.map image) := by
  rcases kept with none | same
  · rw [none]
    exact unknown
  · rw [same]
    exact refl _

variable {left left' right right' : Truth}

theorem not (kept : Kept left left') : Kept left.not left'.not :=
  kept.map _

/-- Where one result is unknown, a conjunction is definite only if the other result fails. -/
theorem and (kept : Kept left left') (kept' : Kept right right') :
    Kept (left.and right) (left'.and right') := by
  rcases kept with none | same
  · rcases kept' with none' | same'
    · rw [none, none']
      exact unknown
    · rw [none, same']
      rcases right with _ | _ | _
      · exact unknown
      · rcases left' with _ | _ | _ <;> exact refl _
      · exact unknown
  · rcases kept' with none' | same'
    · rw [none', same]
      rcases left with _ | _ | _
      · exact unknown
      · exact refl _
      · exact unknown
    · rw [same, same']
      exact refl _

theorem or (kept : Kept left left') (kept' : Kept right right') :
    Kept (left.or right) (left'.or right') := by
  have deMorgan (left right : Truth) : (left.not.and right.not).not = left.or right := by
    rw [Truth.not_and, Truth.not_not, Truth.not_not]
  rw [← deMorgan, ← deMorgan]
  exact (kept.not.and kept'.not).not

variable {results results' : List Truth}

theorem all (kept : List.Forall₂ Kept results results') :
    Kept (Truth.all results) (Truth.all results') := by
  induction kept with
  | nil => exact refl _
  | cons first rest hyp =>
      rw [Truth.all_cons, Truth.all_cons]
      exact first.and hyp

theorem any (kept : List.Forall₂ Kept results results') :
    Kept (Truth.any results) (Truth.any results') := by
  induction kept with
  | nil => exact refl _
  | cons first rest hyp =>
      rw [Truth.any_cons, Truth.any_cons]
      exact first.or hyp

theorem combine (kept : List.Forall₂ Kept results results') (connective : Connective) :
    Kept (connective.combine results) (connective.combine results') := by
  cases connective with
  | and => exact all kept
  | or => exact any kept

end Kept

/-! ## Values -/

namespace Value

/-- A value filled in by another: nulls may have become values, in lists item by item. -/
inductive FilledBy : Value → Value → Prop where
  | null (value : Value) : FilledBy .null value
  | refl (value : Value) : FilledBy value value
  | list (items items' : List Value) (each : List.Forall₂ FilledBy items items') :
      FilledBy (.list items) (.list items')

/-- A null may stand in front of the pair that decides, and then nothing was decided; behind it,
or past the shorter list, it has not been looked at. -/
theorem compareItems?_kept {items items' : List Value}
    (each : List.Forall₂ FilledBy items items')
    (kept : ∀ item ∈ items, ∀ item' other, FilledBy item item' →
      Kept (item.compare? other) (item'.compare? other)) (others : List Value) :
    Kept (compareItems? items others) (compareItems? items' others) := by
  induction each generalizing others with
  | nil => exact .refl _
  | @cons item item' rest rest' filled tails hyp =>
      cases others with
      | nil => exact .refl _
      | cons other others =>
          have later := hyp (fun item member => kept item (List.mem_cons_of_mem _ member)) others
          rw [compareItems?, compareItems?]
          rcases kept item List.mem_cons_self item' other filled with none | same
          · rw [none]
            exact .unknown
          · rw [same]
            rcases item.compare? other with _ | _ | _ | _
            · exact .unknown
            · exact .refl _
            · exact later
            · exact .refl _

/-- A comparison that is decided stays so. -/
theorem compare?_kept {value value' : Value} (filled : FilledBy value value') (other : Value) :
    Kept (value.compare? other) (value'.compare? other) := by
  induction value using itemwise generalizing value' other with
  | atom value plain =>
      cases filled with
      | null =>
          rw [compare?_null]
          exact .unknown
      | refl => exact .refl _
      | list items items' each => exact (plain items rfl).elim
  | list items hyp =>
      cases filled with
      | refl => exact .refl _
      | list items items' each =>
          cases other with
          | list others =>
              exact compareItems?_kept each
                (fun item member item' other filled => hyp item member filled other) others
          | _ => exact .refl _

theorem isNull_of_filledBy {value value' : Value} (filled : FilledBy value value')
    (present : value.isNull = false) : value'.isNull = false := by
  cases filled with
  | null => cases present
  | refl => exact present
  | list => rfl

/-- Membership is the disjunction of the equalities with the candidates. -/
theorem among?_eq_any {actual : Value} (present : actual.isNull = false) (values : List Value) :
    actual.among? values =
      Truth.any (values.map fun candidate => (actual.compare? candidate).map (· == .eq)) := by
  rw [among?, present, if_neg Bool.false_ne_true, Truth.any, Truth.seek_map]

variable {actual actual' : Value}

theorem satisfies?_kept (filled : FilledBy actual actual') (comparison : Comparison)
    (operand : Value) :
    Kept (actual.satisfies? comparison operand) (actual'.satisfies? comparison operand) :=
  (compare?_kept filled operand).map _

theorem within?_kept (filled : FilledBy actual actual') (start stop : Value)
    (inclusion : Inclusion) :
    Kept (actual.within? start stop inclusion) (actual'.within? start stop inclusion) := by
  unfold within?
  rcases compare?_kept filled start with none | same
  · rw [none]
    exact .unknown
  · rcases compare?_kept filled stop with none' | same'
    · rw [none']
      cases actual.compare? start <;> exact .unknown
    · rw [same, same']
      exact .refl _

theorem among?_kept (filled : FilledBy actual actual') (values : List Value) :
    Kept (actual.among? values) (actual'.among? values) := by
  cases missing : actual.isNull with
  | true =>
      unfold among?
      rw [missing, if_pos rfl]
      exact .unknown
  | false =>
      rw [among?_eq_any missing, among?_eq_any (isNull_of_filledBy filled missing)]
      apply Kept.any
      rw [List.forall₂_map_left_iff, List.forall₂_map_right_iff, List.forall₂_same]
      exact fun candidate _ => (compare?_kept filled candidate).map _

end Value

/-! ## Predicates -/

/-- A row filled in by another, perhaps of a different entity: every field is. -/
def Entity.FilledBy {ρ ρ' : Type} [Entity ρ] [Entity ρ'] (row : ρ) (row' : ρ') : Prop :=
  ∀ field, (Entity.value row field).FilledBy (Entity.value row' field)

theorem FieldTest.check_kept {actual actual' : Value} (filled : actual.FilledBy actual')
    (test : FieldTest) : Kept (test.check actual) (test.check actual') := by
  obtain ⟨field, kind, operand⟩ := test
  cases operand with
  | value operand =>
      unfold check
      cases kind.comparison? with
      | none => exact .unknown
      | some comparison => exact Value.satisfies?_kept filled comparison operand
  | range start stop inclusion =>
      have kept := Value.within?_kept filled start stop inclusion
      by_cases negated : kind = .notBetween
      · simp only [check, if_pos negated]
        exact kept.not
      · simp only [check, if_neg negated]
        exact kept
  | set values =>
      have kept := Value.among?_kept filled values
      by_cases negated : kind = .noneOf
      · simp only [check, if_pos negated]
        exact kept.not
      · simp only [check, if_neg negated]
        exact kept

namespace Predicate

variable {ρ ρ' : Type} [Entity ρ] [Entity ρ'] {row : ρ} {row' : ρ'}

theorem evaluate_kept (filled : Entity.FilledBy row row') (predicate : Predicate) :
    Kept (evaluate row predicate) (evaluate row' predicate) := by
  induction predicate with
  | test leaf => exact leaf.check_kept (filled leaf.field)
  | group connective members hyp =>
      rw [evaluate_group, evaluate_group]
      apply Kept.combine
      rw [List.forall₂_map_left_iff, List.forall₂_map_right_iff, List.forall₂_same]
      exact hyp

/-- **Definite answers stay.** Filling in a row changes no definite answer of a predicate. So
neither the predicate nor its complement stops holding or stops failing where it did. -/
theorem definite_answers_stay (filled : Entity.FilledBy row row') (predicate : Predicate) :
    (∀ answer, evaluate row predicate = some answer → evaluate row' predicate = some answer) ∧
      ∀ posed ∈ [predicate, predicate.negate],
        (posed.holds row = true → posed.holds row' = true) ∧
          (evaluate row posed = some false → evaluate row' posed = some false) := by
  refine ⟨Kept.iff.mp (evaluate_kept filled predicate), fun posed _ => ?_⟩
  have stays := Kept.iff.mp (evaluate_kept filled posed)
  refine ⟨fun holding => ?_, stays false⟩
  unfold holds Truth.holds at holding ⊢
  rw [beq_iff_eq] at holding ⊢
  exact stays true holding

/-- A missing field, and a null behind the item that decides a list: what holds on the row holds
when both are filled in, and its complement still fails. -/
theorem definite_answers_stay_nested :
    let row : Record := ⟨[("a", .list [.int 1, .int 5, .null])]⟩
    let row' : Record := ⟨[("a", .list [.int 1, .int 5, .text "z"]), ("b", .bool true)]⟩
    let predicate : Predicate := .group .or
      [.test ⟨"b", .equal, .value (.bool false)⟩,
        .test ⟨"a", .greaterThan, .value (.list [.uint 1, .int 4, .bool false])⟩]
    Entity.FilledBy row row' ∧ evaluate row predicate = some true ∧
      evaluate row' predicate = some true ∧
      evaluate row predicate.negate = some false ∧ evaluate row' predicate.negate = some false := by
  intro row row' predicate
  have filled : Entity.FilledBy row row' := by
    intro field
    by_cases first : field = "a"
    · subst first
      exact .list _ _ (.cons (.refl _) (.cons (.refl _) (.cons (.null _) .nil)))
    · have missing : Entity.value row field = .null := by
        simp [row, Entity.value, Entity.field?, List.lookup_cons, beq_false_of_ne first]
      rw [missing]
      exact .null _
  have answered : evaluate row predicate = some true := by decide
  have denied : evaluate row predicate.negate = some false := by decide
  obtain ⟨stays, complement⟩ := definite_answers_stay filled predicate
  refine ⟨filled, answered, stays true answered, denied, ?_⟩
  exact (complement predicate.negate (by simp)).2 denied

end Predicate

end Pushdown
