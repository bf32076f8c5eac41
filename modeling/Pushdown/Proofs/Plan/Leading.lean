import Pushdown.Proofs.Predicate.Building
import Pushdown.PushRule

/-! # Leading stages

A rule takes stages from the head of a pipeline up to the first one that is not of its sort. A
sort of stages is told by a part that its stages have: the predicate of a filter, the amount of a
skip or a limit. What a rule takes is then the leading run of parts, whatever stands behind it.
-/

namespace Pushdown

variable {Note α : Type}

namespace Stage

/-! ## Runs -/

section Runs

variable {β : Type} (part? : Stage Note α → Option β)

/-- The parts of the stages before the first one without a part. -/
def leading (stages : List (Stage Note α)) : List β :=
  (stages.takeWhile fun stage => (part? stage).isSome).filterMap part?

/-- The stages from the first one without a part on. -/
def behind (stages : List (Stage Note α)) : List (Stage Note α) :=
  stages.dropWhile fun stage => (part? stage).isSome

variable {part?} {stage : Stage Note α}

theorem leading_cons_some {part : β} (found : part? stage = some part)
    (rest : List (Stage Note α)) :
    leading part? (stage :: rest) = part :: leading part? rest := by
  simp [leading, found]

theorem behind_cons_some {part : β} (found : part? stage = some part)
    (rest : List (Stage Note α)) : behind part? (stage :: rest) = behind part? rest := by
  simp [behind, found]

theorem leading_cons_none (absent : part? stage = none) (rest : List (Stage Note α)) :
    leading part? (stage :: rest) = [] := by
  simp [leading, absent]

theorem behind_cons_none (absent : part? stage = none) (rest : List (Stage Note α)) :
    behind part? (stage :: rest) = stage :: rest := by
  simp [behind, absent]

theorem leading_cons_eq_nil_iff {rest : List (Stage Note α)} :
    leading part? (stage :: rest) = [] ↔ part? stage = none := by
  cases found : part? stage with
  | none => exact iff_of_true (leading_cons_none found rest) rfl
  | some part =>
      rw [leading_cons_some found]
      exact iff_of_false nofun nofun

/-- Where nothing leads, everything is behind. -/
theorem behind_of_leading_eq_nil {stages : List (Stage Note α)}
    (nothing : leading part? stages = []) : behind part? stages = stages := by
  cases stages with
  | nil => rfl
  | cons stage rest => exact behind_cons_none (leading_cons_eq_nil_iff.mp nothing) rest

theorem behind_suffix (stages : List (Stage Note α)) : behind part? stages <:+ stages :=
  List.dropWhile_suffix _

/-- A leading run and what is behind it are all there is. -/
theorem leading_append_behind {embed : β → Stage Note α}
    (whole : ∀ stage part, part? stage = some part → stage = embed part)
    (stages : List (Stage Note α)) :
    stages = (leading part? stages).map embed ++ behind part? stages := by
  induction stages with
  | nil => rfl
  | cons stage rest hyp =>
      cases found : part? stage with
      | none => rw [leading_cons_none found, behind_cons_none found, List.map_nil, List.nil_append]
      | some part =>
          rw [leading_cons_some found, behind_cons_some found, List.map_cons, List.cons_append,
            ← hyp, whole stage part found]

/-- A stage without a part ends no run earlier, -/
theorem leading_concat (absent : part? stage = none) (stages : List (Stage Note α)) :
    leading part? (stages ++ [stage]) = leading part? stages := by
  induction stages with
  | nil => exact leading_cons_none absent []
  | cons first rest hyp =>
      cases found : part? first with
      | none => rw [List.cons_append, leading_cons_none found, leading_cons_none found]
      | some part => rw [List.cons_append, leading_cons_some found, leading_cons_some found, hyp]

/-- and stays behind all others. -/
theorem behind_concat (absent : part? stage = none) (stages : List (Stage Note α)) :
    behind part? (stages ++ [stage]) = behind part? stages ++ [stage] := by
  induction stages with
  | nil => exact behind_cons_none absent []
  | cons first rest hyp =>
      cases found : part? first with
      | none =>
          rw [List.cons_append, behind_cons_none found, behind_cons_none found, List.cons_append]
      | some part => rw [List.cons_append, behind_cons_some found, behind_cons_some found, hyp]

/-- What is behind a run does not depend on the run. -/
theorem behind_map_append {embed : β → Stage Note α}
    (found : ∀ part, part? (embed part) = some part) (parts : List β)
    (rest : List (Stage Note α)) :
    behind part? (parts.map embed ++ rest) = behind part? rest := by
  induction parts with
  | nil => rfl
  | cons part others hyp =>
      rw [List.map_cons, List.cons_append, behind_cons_some (found part), hyp]

end Runs

theorem eq_filter_of_predicate? (stage : Stage Note α) (predicate : Predicate)
    (found : stage.predicate? = some predicate) : stage = .filter predicate := by
  cases stage with
  | filter predicate' =>
      cases found
      rfl
  | _ => cases found

theorem predicate?_filter (predicate : Predicate) :
    (.filter predicate : Stage Note α).predicate? = some predicate := rfl

/-- The predicates of leading filters are those of filters. -/
theorem filter_mem_of_leading {stages : List (Stage Note α)} {predicate : Predicate}
    (present : predicate ∈ leading predicate? stages) : .filter predicate ∈ stages := by
  rw [leading_append_behind eq_filter_of_predicate? stages]
  exact List.mem_append_left _ (List.mem_map_of_mem present)

end Stage

/-! ## Slices -/

/-- A skip or a limit. -/
inductive Slice where
  | skip (amount : Count)
  | limit (amount : Count)

namespace Slice

/-- The stage that cuts out a slice. -/
def stage : Slice → Stage Note α
  | skip amount => .skip amount
  | limit amount => .limit amount

/-- A window, then a slice. -/
def after (window : Window) : Slice → Window
  | skip amount => window.thenSkip amount
  | limit amount => window.thenLimit amount

end Slice

/-- The slice that a stage cuts out. -/
def Stage.slice? : Stage Note α → Option Slice
  | .skip amount => some (.skip amount)
  | .limit amount => some (.limit amount)
  | _ => none

namespace Stage

theorem eq_stage_of_slice? (stage : Stage Note α) (slice : Slice)
    (found : stage.slice? = some slice) : stage = slice.stage := by
  cases stage with
  | skip amount | limit amount =>
      cases found
      rfl
  | _ => cases found

theorem slice?_stage (slice : Slice) : (slice.stage : Stage Note α).slice? = some slice := by
  cases slice <;> rfl

end Stage

namespace PushRule

open Stage

theorem leadingWindow_eq (window : Window) (stages : List (Stage Note α)) :
    leadingWindow window stages =
      ((leading slice? stages).foldl Slice.after window, behind slice? stages) := by
  induction stages generalizing window with
  | nil => rfl
  | cons stage rest hyp =>
      cases stage with
      | skip amount => exact hyp (window.thenSkip amount)
      | limit amount => exact hyp (window.thenLimit amount)
      | _ => rfl

/-! ## Filters -/

theorem leadingPredicates_eq (stages : List (Stage Note α)) :
    leadingPredicates stages = (leading predicate? stages, behind predicate? stages) := by
  induction stages with
  | nil => rfl
  | cons stage rest hyp =>
      cases stage with
      | filter predicate =>
          rw [leadingPredicates, hyp]
          rfl
      | _ => rfl

/-- One predicate for several: the only one, or the conjunction of all in their order. -/
inductive Conjoins : List Predicate → Predicate → Prop where
  | lone (predicate : Predicate) : Conjoins [predicate] predicate
  | several {first second : Predicate} {rest : List Predicate} {predicate : Predicate}
      (joined : Predicate.all (first :: second :: rest) = .ok predicate) :
      Conjoins (first :: second :: rest) predicate

theorem conjunction?_eq_some_iff {predicates : List Predicate} {predicate : Predicate} :
    conjunction? predicates = some predicate ↔ Conjoins predicates predicate := by
  rcases predicates with _ | ⟨first, _ | ⟨second, rest⟩⟩
  · exact iff_of_false nofun nofun
  · constructor
    · rintro ⟨⟩
      exact .lone predicate
    · rintro ⟨⟩
      rfl
  · constructor
    · rintro ⟨⟩
      exact .several rfl
    · rintro (_ | ⟨⟨⟩⟩)
      rfl

theorem conjunction?_eq_none_iff {predicates : List Predicate} :
    conjunction? predicates = none ↔ predicates = [] := by
  unfold conjunction?
  split <;> simp_all

/-- One predicate for well-formed ones is well formed. -/
theorem Conjoins.wellFormed {predicates : List Predicate} {predicate : Predicate}
    (joined : Conjoins predicates predicate)
    (formed : ∀ member ∈ predicates, member.WellFormed) : predicate.WellFormed := by
  cases joined with
  | lone => exact formed predicate List.mem_cons_self
  | several joined => exact .of_group? joined formed

end PushRule

end Pushdown
