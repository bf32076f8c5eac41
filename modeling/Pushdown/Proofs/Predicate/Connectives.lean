import Pushdown.Proofs.Flow.Lists
import Pushdown.Proofs.Pipeline.StageTraces
import Pushdown.Proofs.Predicate.Building
import Pushdown.Proofs.Record
import Pushdown.Proofs.Truth.Kleene

/-! # What groups make of their members

A connective takes its members' results together two at a time, in any order. What comes out
depends on which results there are, not on where or how often, so members may be exchanged,
repeated, and put into groups of their own. A conjunction holds where all its members do, and
as a filter it does what filters by its members do one after another.
-/

namespace Pushdown

/-! ## Results -/

namespace Connective

/-- The joint result of two members. -/
def both : Connective → Truth → Truth → Truth
  | .and => Truth.and
  | .or => Truth.or

/-- The result that decides nothing. -/
def neutral : Connective → Truth
  | .and => some true
  | .or => some false

theorem both_neutral (connective : Connective) (result : Truth) :
    connective.both result connective.neutral = result := by
  cases connective <;> rcases result with _ | _ | _ <;> rfl

theorem neutral_both (connective : Connective) (result : Truth) :
    connective.both connective.neutral result = result := by
  cases connective <;> rcases result with _ | _ | _ <;> rfl

theorem both_assoc (connective : Connective) (first second third : Truth) :
    connective.both (connective.both first second) third =
      connective.both first (connective.both second third) := by
  cases connective <;> rcases first with _ | _ | _ <;> rcases second with _ | _ | _ <;>
    rcases third with _ | _ | _ <;> rfl

theorem combine_nil (connective : Connective) : connective.combine [] = connective.neutral := by
  cases connective <;> rfl

theorem combine_cons (connective : Connective) (result : Truth) (rest : List Truth) :
    connective.combine (result :: rest) = connective.both result (connective.combine rest) := by
  cases connective with
  | and => exact Truth.all_cons result rest
  | or => exact Truth.any_cons result rest

theorem combine_singleton (connective : Connective) (result : Truth) :
    connective.combine [result] = result := by
  rw [combine_cons, combine_nil, both_neutral]

theorem combine_eq_foldr (connective : Connective) (results : List Truth) :
    connective.combine results = results.foldr connective.both connective.neutral := by
  induction results with
  | nil => exact connective.combine_nil
  | cons result rest hyp => rw [combine_cons, hyp, List.foldr_cons]

theorem combine_append (connective : Connective) (results results' : List Truth) :
    connective.combine (results ++ results') =
      connective.both (connective.combine results) (connective.combine results') := by
  induction results with
  | nil => rw [List.nil_append, combine_nil, neutral_both]
  | cons result rest hyp => rw [List.cons_append, combine_cons, combine_cons, hyp, both_assoc]

/-- The joint result depends on which results there are alone. -/
theorem combine_congr (connective : Connective) {results results' : List Truth}
    (same : ∀ result, result ∈ results ↔ result ∈ results') :
    connective.combine results = connective.combine results' := by
  cases connective <;>
    simp only [combine, Truth.all_eq, Truth.any_eq, same]

end Connective

/-! ## Members -/

namespace Predicate

/-- Members that differ in their order, in how often they stand there and in being put into
groups of their own. -/
inductive Rearranged (connective : Connective) : List Predicate → List Predicate → Prop where
  | permuted {members members' : List Predicate} (perm : members.Perm members') :
      Rearranged connective members members'
  | repeated {member : Predicate} {members : List Predicate} (present : member ∈ members) :
      Rearranged connective members (member :: members)
  | grouped {inner rest : List Predicate} {group : Predicate}
      (accepted : group? connective inner = .ok group) :
      Rearranged connective (inner ++ rest) (group :: rest)
  | symm {members members' : List Predicate} (rearranged : Rearranged connective members members') :
      Rearranged connective members' members
  | trans {members members' members'' : List Predicate}
      (first : Rearranged connective members members')
      (second : Rearranged connective members' members'') :
      Rearranged connective members members''

theorem Rearranged.eq_nil_iff {connective : Connective} {members members' : List Predicate}
    (rearranged : Rearranged connective members members') : members = [] ↔ members' = [] := by
  induction rearranged with
  | permuted perm => rw [← List.length_eq_zero_iff, perm.length_eq, List.length_eq_zero_iff]
  | repeated present =>
      exact iff_of_false (List.ne_nil_of_mem present) (List.cons_ne_nil _ _)
  | grouped accepted =>
      obtain ⟨nonempty, rfl⟩ := group?_eq_ok_iff.mp accepted
      exact iff_of_false (List.append_ne_nil_of_left_ne_nil nonempty _) (List.cons_ne_nil _ _)
  | symm rearranged hyp => exact hyp.symm
  | trans first second hyp hyp' => exact hyp.trans hyp'

variable {ρ : Type} [Entity ρ]

theorem Rearranged.combine_eq {connective : Connective} {members members' : List Predicate}
    (rearranged : Rearranged connective members members') (row : ρ) :
    connective.combine (members.map (evaluate row)) =
      connective.combine (members'.map (evaluate row)) := by
  induction rearranged with
  | permuted perm => exact connective.combine_congr fun result => (perm.map _).mem_iff
  | repeated present =>
      refine connective.combine_congr fun result => ?_
      have met := List.mem_map_of_mem (f := evaluate row) present
      rw [List.map_cons, List.mem_cons]
      exact ⟨.inr, fun either => either.elim (fun same => same ▸ met) id⟩
  | grouped accepted =>
      obtain ⟨-, rfl⟩ := group?_eq_ok_iff.mp accepted
      rw [List.map_append, connective.combine_append, List.map_cons, connective.combine_cons,
        evaluate_group]
  | symm rearranged hyp => exact hyp.symm
  | trans first second hyp hyp' => exact hyp.trans hyp'

/-- Joining two predicates joins their results, whether or not a group is extended by it. -/
theorem evaluate_join (row : ρ) (connective : Connective) (left right : Predicate) :
    evaluate row (join connective left right) =
      connective.both (evaluate row left) (evaluate row right) := by
  have pair : evaluate row (.group connective [left, right]) =
      connective.both (evaluate row left) (evaluate row right) := by
    rw [evaluate_group, List.map_cons, connective.combine_cons, List.map_singleton,
      connective.combine_singleton]
  cases left with
  | test leaf => exact pair
  | group connective' members =>
      unfold join
      by_cases same : connective' = connective
      · subst same
        dsimp only
        rw [if_pos rfl, evaluate_group, evaluate_group, List.map_append,
          connective'.combine_append, List.map_singleton, connective'.combine_singleton]
      · dsimp only
        rw [if_neg same]
        exact pair

theorem holds_group_and (members : List Predicate) (row : ρ) :
    (Predicate.group .and members).holds row = members.all fun member => member.holds row := by
  rw [holds, evaluate_group, Connective.combine, Truth.holds_all, List.all_map]
  rfl

/-- What the group of some members makes of a row. -/
structure Combines (row : ρ) (connective : Connective) (members : List Predicate)
    (whole : Predicate) : Prop where
  folded : evaluate row whole =
    (members.map (evaluate row)).foldr connective.both connective.neutral
  rearranged : ∀ members', Rearranged connective members members' →
    ∃ whole', group? connective members' = .ok whole' ∧ evaluate row whole' = evaluate row whole
  alone : ∀ member, members = [member] → evaluate row whole = evaluate row member

theorem combines_group (row : ρ) (connective : Connective) {members : List Predicate}
    (nonempty : members ≠ []) : Combines row connective members (.group connective members) where
  folded := by rw [evaluate_group, connective.combine_eq_foldr]
  rearranged := by
    intro members' rearranged
    have nonempty' : members' ≠ [] := fun empty => nonempty (rearranged.eq_nil_iff.mpr empty)
    refine ⟨_, group?_eq_ok_iff.mpr ⟨nonempty', rfl⟩, ?_⟩
    rw [evaluate_group, evaluate_group, rearranged.combine_eq row]
  alone := by
    rintro member rfl
    rw [evaluate_group, List.map_singleton, connective.combine_singleton]

end Predicate

/-! ## Filters -/

namespace Stage

variable {Note ρ μ : Type} [Entity ρ]

theorem runAll_filters (members : List Predicate) (flow : Flow Note (Element ρ μ)) :
    runAll (members.map .filter) flow =
      flow.filter fun element => members.all fun member => element.row?.any member.holds := by
  induction members generalizing flow with
  | nil => exact flow.filter_true.symm
  | cons member rest hyp =>
      rw [List.map_cons, runAll_cons, hyp, run, Flow.filter_filter]
      rfl

/-- A filter by a conjunction does what the filters by its members do one after another. -/
theorem runAll_filters_eq {members : List Predicate} (nonempty : members ≠ [])
    (flow : Flow Note (Element ρ μ)) :
    runAll (members.map .filter) flow = run flow (.filter (.group .and members)) := by
  rw [runAll_filters, run]
  congr 1
  funext element
  cases element.row? with
  | none =>
      -- What is no row passes no filter, and there is one.
      obtain ⟨member, rest, rfl⟩ := List.exists_cons_of_ne_nil nonempty
      rfl
  | some row => exact (Predicate.holds_group_and members row).symm

end Stage

namespace Predicate

variable {Note ρ μ : Type} [Entity ρ]

/-- **Groups combine results.** Joining two predicates joins their results. The group of several
folds their results, whatever their order, repetition and grouping, and a group of one is as that
one. A conjunction holds where all its members do, and to filter by it is to filter by them one
after another. -/
theorem groups_combine {members : List Predicate} (nonempty : members ≠ []) :
    (∀ (left right : Predicate) (row : ρ),
      evaluate row (left.and right) = (evaluate row left).and (evaluate row right) ∧
        evaluate row (left.or right) = (evaluate row left).or (evaluate row right)) ∧
    ∃ conjunction disjunction, all members = .ok conjunction ∧ any members = .ok disjunction ∧
      (∀ row : ρ, Combines row .and members conjunction ∧ Combines row .or members disjunction ∧
        (conjunction.holds row = true ↔ ∀ member ∈ members, member.holds row = true)) ∧
      ∀ flow : Flow Note (Element ρ μ),
        Stage.runAll (members.map .filter) flow = Stage.run flow (.filter conjunction) := by
  have accepted (connective : Connective) :
      group? connective members = .ok (.group connective members) :=
    group?_eq_ok_iff.mpr ⟨nonempty, rfl⟩
  refine ⟨fun left right row => ?_, _, _, accepted .and, accepted .or, fun row => ?_,
    Stage.runAll_filters_eq nonempty⟩
  · exact ⟨evaluate_join row .and left right, evaluate_join row .or left right⟩
  · refine ⟨combines_group row .and nonempty, combines_group row .or nonempty, ?_⟩
    rw [holds_group_and, List.all_eq_true]

/-- A member that holds beside one that is unknown: the conjunction is unknown, the disjunction
holds, and so it stays when they are exchanged and one of them is repeated in an inner group. -/
theorem groups_combine_unknown :
    let row : Record := ⟨[("a", .uint 3)]⟩
    let known : Predicate := .test ⟨"a", .between, .range (.int 1) (.int 5) .both⟩
    let unknown : Predicate := .test ⟨"b", .oneOf, .set []⟩
    [known, unknown] ≠ [] ∧ ∃ conjunction disjunction,
      all [known, unknown] = .ok conjunction ∧ any [known, unknown] = .ok disjunction ∧
      evaluate row conjunction = none ∧ evaluate row disjunction = some true ∧
      ∃ conjunction', all [unknown, .group .and [unknown, known]] = .ok conjunction' ∧
        evaluate row conjunction' = none := by
  intro row known unknown
  have nonempty : [known, unknown] ≠ [] := List.cons_ne_nil _ _
  have doubled : Rearranged .and [known, unknown] [unknown, known, unknown] :=
    .repeated (List.mem_cons_of_mem _ List.mem_cons_self)
  have nested : Rearranged .and ([unknown, known] ++ [unknown])
      [.group .and [unknown, known], unknown] := .grouped rfl
  have rearranged : Rearranged .and [known, unknown] [unknown, .group .and [unknown, known]] :=
    doubled.trans (nested.trans (.permuted (.swap _ _ _)))
  obtain ⟨-, conjunction, disjunction, conjoined, disjoined, each, -⟩ :=
    @groups_combine Empty Record Unit _ _ nonempty
  obtain ⟨together, apart, -⟩ := each row
  have unknown' : evaluate row conjunction = none := together.folded.trans (by decide)
  obtain ⟨conjunction', conjoined', same⟩ := together.rearranged _ rearranged
  exact ⟨nonempty, conjunction, disjunction, conjoined, disjoined, unknown',
    apart.folded.trans (by decide), conjunction', conjoined', same.trans unknown'⟩

end Predicate

end Pushdown
