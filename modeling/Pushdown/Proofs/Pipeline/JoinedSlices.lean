import Pushdown.Proofs.Count
import Pushdown.Simplification

/-! # Joining slices from the right

Slices are joined from left to right, each with what those before it have been joined to. As least
counts and sums are associative, joining them from right to left makes the same of them; and in
that order what is made of a list of stages is told by its first stage and what is made of the
others.
-/

namespace Pushdown

namespace Simplification

variable {Note α : Type}

/-- A stage in front of others, joined with the first of them where both are limits or
both are skips. -/
def joinSlice : Stage Note α → List (Stage Note α) → List (Stage Note α)
  | .limit count, .limit next :: rest => .limit (min count next) :: rest
  | .skip count, .skip next :: rest => .skip (count.plus next) :: rest
  | stage, rest => stage :: rest

theorem joinSlice_nil (stage : Stage Note α) : joinSlice stage [] = [stage] := by
  cases stage <;> rfl

theorem joinSlice_limits (first second : Count) (rest : List (Stage Note α)) :
    joinSlice (.limit first) (joinSlice (.limit second) rest) =
      joinSlice (.limit (min first second)) rest := by
  cases rest with
  | nil => rfl
  | cons next others =>
      cases next with
      | limit count =>
          change Stage.limit _ :: others = Stage.limit _ :: others
          rw [Count.min_assoc]
      | _ => rfl

theorem joinSlice_skips (first second : Count) (rest : List (Stage Note α)) :
    joinSlice (.skip first) (joinSlice (.skip second) rest) =
      joinSlice (.skip (first.plus second)) rest := by
  cases rest with
  | nil => rfl
  | cons next others =>
      cases next with
      | skip count =>
          change Stage.skip _ :: others = Stage.skip _ :: others
          rw [Count.plus_assoc]
      | _ => rfl

/-- A stage is joined with the last one before it, and then it is no matter from which side, or it
is put behind it, and then the two are kept apart from the other side as well. -/
theorem joinNext_cases (last stage : Stage Note α) :
    (∃ joined, (∀ before, joinNext (last :: before) stage = joined :: before) ∧
        ∀ rest, joinSlice last (joinSlice stage rest) = joinSlice joined rest) ∨
      (∀ before, joinNext (last :: before) stage = stage :: last :: before) ∧
        ∀ rest, joinSlice last (joinSlice stage rest) = last :: joinSlice stage rest := by
  cases last with
  | limit first =>
      cases stage with
      | limit second => exact .inl ⟨_, fun _ => rfl, joinSlice_limits first second⟩
      | skip count =>
          refine .inr ⟨fun _ => rfl, fun rest => ?_⟩
          cases rest with
          | nil => rfl
          | cons next others => cases next <;> rfl
      | _ => exact .inr ⟨fun _ => rfl, fun _ => rfl⟩
  | skip first =>
      cases stage with
      | skip second => exact .inl ⟨_, fun _ => rfl, joinSlice_skips first second⟩
      | limit count =>
          refine .inr ⟨fun _ => rfl, fun rest => ?_⟩
          cases rest with
          | nil => rfl
          | cons next others => cases next <;> rfl
      | _ => exact .inr ⟨fun _ => rfl, fun _ => rfl⟩
  | _ => exact .inr ⟨fun _ => rfl, fun _ => rfl⟩

/-- Of the stages before, only the last one is ever joined. -/
theorem foldl_joinNext_cons (last : Stage Note α) (before stages : List (Stage Note α)) :
    stages.foldl joinNext (last :: before) = stages.foldl joinNext [last] ++ before := by
  induction stages generalizing last before with
  | nil => rfl
  | cons stage rest hyp =>
      rw [List.foldl_cons, List.foldl_cons]
      rcases joinNext_cases last stage with ⟨joined, taken, -⟩ | ⟨put, -⟩
      · rw [taken, taken, hyp]
      · rw [put, put, hyp, hyp stage [last], List.append_assoc]
        rfl

theorem reverse_foldl_joinNext (last : Stage Note α) (stages : List (Stage Note α)) :
    (stages.foldl joinNext [last]).reverse = joinSlice last (stages.foldr joinSlice []) := by
  induction stages generalizing last with
  | nil => exact (joinSlice_nil last).symm
  | cons stage rest hyp =>
      rw [List.foldl_cons, List.foldr_cons]
      rcases joinNext_cases last stage with ⟨joined, taken, same⟩ | ⟨put, apart⟩
      · rw [taken, same, hyp]
      · rw [put, apart, foldl_joinNext_cons, List.reverse_append, hyp]
        rfl

/-- Slices are joined to the same stages from left to right and from right to left. -/
theorem joinSlices_eq_foldr (stages : List (Stage Note α)) :
    joinSlices stages = stages.foldr joinSlice [] := by
  cases stages with
  | nil => rfl
  | cons stage rest =>
      have first : joinNext [] stage = [stage] := by
        cases stage <;> rfl
      rw [joinSlices, List.foldl_cons, first, reverse_foldl_joinNext, List.foldr_cons]

theorem joinSlices_cons (stage : Stage Note α) (rest : List (Stage Note α)) :
    joinSlices (stage :: rest) = joinSlice stage (joinSlices rest) := by
  rw [joinSlices_eq_foldr, joinSlices_eq_foldr, List.foldr_cons]

end Simplification

end Pushdown
