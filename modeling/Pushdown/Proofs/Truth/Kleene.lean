import Pushdown.Truth

/-! # Kleene logic

A search through a list stops early, and yet it tells no more than which answers there are. So
the conjunction and the disjunction of a list are folds of the binary ones. Complement
exchanges the two, and what definitely holds is joined as truth values are.
-/

namespace Pushdown

namespace Truth

/-! ## Searches -/

/-- A search finds what there is, wherever it stands. -/
theorem seek_eq {α : Type} (sought : Bool) (answer : α → Truth) (unknown : Bool)
    (elements : List α) :
    seek sought answer unknown elements =
      if some sought ∈ elements.map answer then some sought
      else if unknown = true ∨ none ∈ elements.map answer then none
      else some !sought := by
  induction elements generalizing unknown with
  | nil => simp [seek]
  | cons element rest hyp =>
      rw [seek]
      cases answered : answer element with
      | none => simp [hyp, answered]
      | some found =>
          by_cases decides : found = sought
          · simp [answered, decides]
          · simp [hyp, answered, decides, Ne.symm decides]

/-- A search among elements is a search among their answers. -/
theorem seek_map {α : Type} (sought : Bool) (answer : α → Truth) (unknown : Bool)
    (elements : List α) :
    seek sought id unknown (elements.map answer) = seek sought answer unknown elements := by
  rw [seek_eq, seek_eq, List.map_id]

/-! ## Lists of results -/

theorem all_eq (results : List Truth) :
    all results =
      if some false ∈ results then some false
      else if none ∈ results then none
      else some true := by
  rw [all, seek_eq, List.map_id]
  simp only [Bool.false_eq_true, false_or, Bool.not_false]

theorem any_eq (results : List Truth) :
    any results =
      if some true ∈ results then some true
      else if none ∈ results then none
      else some false := by
  rw [any, seek_eq, List.map_id]
  simp only [Bool.false_eq_true, false_or, Bool.not_true]

@[simp]
theorem all_nil : all [] = some true := rfl

/-- A failing member decides a conjunction wherever it stands, so members may be taken in
one at a time. -/
theorem all_cons (result : Truth) (rest : List Truth) :
    all (result :: rest) = result.and (all rest) := by
  by_cases failed : some false ∈ rest <;> by_cases unknown : none ∈ rest <;>
    rcases result with _ | _ | _ <;> simp [all_eq, Truth.and, failed, unknown]

/-- A holding member decides a disjunction wherever it stands. -/
theorem any_cons (result : Truth) (rest : List Truth) :
    any (result :: rest) = result.or (any rest) := by
  by_cases held : some true ∈ rest <;> by_cases unknown : none ∈ rest <;>
    rcases result with _ | _ | _ <;> simp [any_eq, Truth.or, held, unknown]

/-! ## Complement -/

@[simp]
theorem not_not (result : Truth) : result.not.not = result := by
  rcases result with _ | _ | _ <;> rfl

theorem not_and (left right : Truth) : (left.and right).not = left.not.or right.not := by
  rcases left with _ | _ | _ <;> rcases right with _ | _ | _ <;> rfl

theorem not_or (left right : Truth) : (left.or right).not = left.not.and right.not := by
  rcases left with _ | _ | _ <;> rcases right with _ | _ | _ <;> rfl

theorem not_all (results : List Truth) : (all results).not = any (results.map not) := by
  induction results with
  | nil => rfl
  | cons result rest hyp => rw [all_cons, not_and, hyp, List.map_cons, any_cons]

theorem not_any (results : List Truth) : (any results).not = all (results.map not) := by
  induction results with
  | nil => rfl
  | cons result rest hyp => rw [any_cons, not_or, hyp, List.map_cons, all_cons]

/-! ## What definitely holds -/

theorem holds_and (left right : Truth) :
    (left.and right).holds = (left.holds && right.holds) := by
  rcases left with _ | _ | _ <;> rcases right with _ | _ | _ <;> rfl

/-- A conjunction definitely holds exactly when all its members do. -/
theorem holds_all (results : List Truth) : (all results).holds = results.all holds := by
  induction results with
  | nil => rfl
  | cons result rest hyp => rw [all_cons, holds_and, hyp, List.all_cons]

/-- A result and its complement never hold together, and neither holds exactly when the
result is unknown. -/
theorem holds_not (result : Truth) :
    ¬(result.holds = true ∧ result.not.holds = true) ∧
      (result.holds = false ∧ result.not.holds = false ↔ result = none) := by
  rcases result with _ | _ | _ <;> decide

end Truth

end Pushdown
