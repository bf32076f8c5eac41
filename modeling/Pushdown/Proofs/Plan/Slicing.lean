import Pushdown.Proofs.Pipeline.JoinedSlices
import Pushdown.Proofs.Plan.Rules
import Pushdown.Proofs.Window

/-! # Slices in one window

A query has one window for all the skips and limits that it takes over. On a list that can be
counted, this window keeps what the slices keep one after the other, also where its offset has been
cut off at the largest count or nothing is left of its limit. And the window does not tell whether
neighbouring slices had been joined before: it does not matter when a sum is cut off.
-/

namespace Pushdown

/-! ## Cutting step by step -/

namespace Slice

variable {α : Type}

/-- What a slice keeps of a list. -/
def cut (rows : List α) : Slice → List α
  | skip amount => rows.drop amount.toNat
  | limit amount => rows.take amount.toNat

theorem apply_after {rows : List α} (bounded : rows.length ≤ Count.largest) (window : Window)
    (slice : Slice) : (slice.after window).apply rows = slice.cut (window.apply rows) := by
  cases slice with
  | skip amount => exact window.apply_thenSkip amount bounded
  | limit amount => exact window.apply_thenLimit amount rows

end Slice

/-- **One window for many slices.** Whatever window comes first and whatever skips and limits
follow it, the window that they compose to keeps of a list that can be counted what they keep one
after the other. -/
theorem Window.apply_slices {α : Type} (window : Window) (slices : List Slice) {rows : List α}
    (bounded : rows.length ≤ Count.largest) :
    (slices.foldl Slice.after window).apply rows =
      slices.foldl Slice.cut (window.apply rows) := by
  induction slices generalizing window with
  | nil => rfl
  | cons slice rest hyp =>
      rw [List.foldl_cons, List.foldl_cons, hyp, Slice.apply_after bounded]

/-- A skip within the limit keeps a row; skips past the limit leave nothing for a later limit, and
the offset stops at the largest count. -/
theorem Window.apply_slices_past_the_limit :
    let window : Window := ⟨2, some 6⟩
    let within : List Slice := [.limit 9, .skip 4, .limit 1]
    let beyond : List Slice := within ++ [.skip 18446744073709551612, .skip 5, .limit 3]
    let rows : List Nat := [0, 1, 2, 3, 4, 5, 6, 7, 8, 9]
    rows.length ≤ Count.largest ∧
      (within.foldl Slice.after window).apply rows = within.foldl Slice.cut (window.apply rows) ∧
      within.foldl Slice.cut (window.apply rows) = [6] ∧
      beyond.foldl Slice.after window = ⟨18446744073709551615, some 0⟩ ∧
      (beyond.foldl Slice.after window).apply rows =
        beyond.foldl Slice.cut (window.apply rows) := by
  intro window within beyond rows
  have bounded : rows.length ≤ Count.largest := by decide
  exact ⟨bounded, window.apply_slices within bounded, by decide, by decide,
    window.apply_slices beyond bounded⟩

/-! ## Joined slices -/

namespace PushRule

open Simplification Stage

variable {Note α : Type}

/-- A stage that has been joined with its neighbour leads to the same window as both. -/
theorem leadingWindow_joinSlice (window : Window) (stage : Stage Note α)
    (rest : List (Stage Note α)) :
    leadingWindow window (joinSlice stage rest) = leadingWindow window (stage :: rest) := by
  unfold joinSlice
  split
  · rename_i count next others
    have same := window.thenLimit_thenLimit count next
    exact congrArg (fun composed => leadingWindow composed others) same.symm
  · rename_i count next others
    have same := window.thenSkip_thenSkip count next
    exact congrArg (fun composed => leadingWindow composed others) same.symm
  · rfl

/-- Joined slices lead to the same window, and the stages behind them are joined as well. -/
theorem leadingWindow_joinSlices (window : Window) (stages : List (Stage Note α)) :
    leadingWindow window (joinSlices stages) =
      ((leadingWindow window stages).1, joinSlices (leadingWindow window stages).2) := by
  induction stages generalizing window with
  | nil => rfl
  | cons stage rest hyp =>
      have first := joinSlices_cons stage rest
      rw [first, leadingWindow_joinSlice]
      cases stage with
      | skip amount => exact hyp (window.thenSkip amount)
      | limit amount => exact hyp (window.thenLimit amount)
      | _ => exact congrArg (Prod.mk window) first.symm

theorem foldl_leading_joinSlices (window : Window) (stages : List (Stage Note α)) :
    (leading slice? (joinSlices stages)).foldl Slice.after window =
      (leading slice? stages).foldl Slice.after window := by
  have same := leadingWindow_joinSlices window stages
  rw [leadingWindow_eq, leadingWindow_eq] at same
  exact congrArg Prod.fst same

theorem behind_joinSlices (stages : List (Stage Note α)) :
    behind slice? (joinSlices stages) = joinSlices (behind slice? stages) := by
  have same := leadingWindow_joinSlices .everything stages
  rw [leadingWindow_eq, leadingWindow_eq] at same
  exact congrArg Prod.snd same

/-- A stage that is joined with its neighbour is a slice, as both are. -/
theorem joinSlice_eq_cons (stage : Stage Note α) (rest : List (Stage Note α)) :
    ∃ joined others, joinSlice stage rest = joined :: others ∧
      (joined.slice? = none ↔ stage.slice? = none) := by
  unfold joinSlice
  split
  · exact ⟨_, _, rfl, iff_of_false nofun nofun⟩
  · exact ⟨_, _, rfl, iff_of_false nofun nofun⟩
  · exact ⟨_, _, rfl, Iff.rfl⟩

theorem leading_joinSlices_eq_nil_iff (stages : List (Stage Note α)) :
    leading slice? (joinSlices stages) = [] ↔ leading slice? stages = [] := by
  cases stages with
  | nil => exact Iff.rfl
  | cons stage rest =>
      obtain ⟨joined, others, first, alike⟩ := joinSlice_eq_cons stage (joinSlices rest)
      rw [joinSlices_cons, first, leading_cons_eq_nil_iff, leading_cons_eq_nil_iff, alike]

variable {κ ν : Type} [BackendQuery κ ν]

theorem pushSlice_joined (plan : Plan κ Note α) :
    pushSlice ⟨Simplification.apply plan.pipeline .collapseSlices, plan.query⟩ =
      ⟨Simplification.apply (pushSlice plan).pipeline .collapseSlices, (pushSlice plan).query⟩ := by
  let joined : Plan κ Note α := ⟨Simplification.apply plan.pipeline .collapseSlices, plan.query⟩
  change pushSlice joined = _
  have leads : leading slice? joined.pipeline.stages = [] ↔
      leading slice? plan.pipeline.stages = [] :=
    leading_joinSlices_eq_nil_iff plan.pipeline.stages
  cases counts : BackendQuery.isCount plan.query with
  | true =>
      have kept : pushSlice joined = joined := pushSlice_of_isCount counts
      rw [kept, pushSlice_of_isCount counts]
  | false =>
      by_cases nothing : leading slice? plan.pipeline.stages = []
      · rw [pushSlice_of_nil (leads.mpr nothing), pushSlice_of_nil nothing]
      · have taken : pushSlice joined = leaving joined (behind slice? (joinSlices _))
            (BackendQuery.setWindow plan.query
              ((leading slice? (joinSlices _)).foldl Slice.after _)) :=
          pushSlice_of_ne_nil counts (mt leads.mp nothing)
        rw [taken, behind_joinSlices, foldl_leading_joinSlices, pushSlice_of_ne_nil counts nothing]
        rfl

/-- **Joining slices is not seen by the rule that takes them.** Whatever the query already demands,
the rule makes the same query of a pipeline and of the pipeline with its neighbouring slices joined,
and what it leaves of the latter is what it leaves of the former, joined. A query that does not
count takes over all slices that lead. -/
theorem joined_slices_push_alike (builder : ConditionBuilder ν) (plan : Plan κ Note α) :
    ∃ pushed : Plan κ Note α, apply builder plan .slice = .ok pushed ∧
      apply builder ⟨Simplification.apply plan.pipeline .collapseSlices, plan.query⟩ .slice =
        .ok ⟨Simplification.apply pushed.pipeline .collapseSlices, pushed.query⟩ ∧
      (BackendQuery.isCount plan.query = false → leading slice? plan.pipeline.stages ≠ [] →
        pushed = leaving plan (behind slice? plan.pipeline.stages)
          (BackendQuery.setWindow plan.query
            ((leading slice? plan.pipeline.stages).foldl Slice.after
              (BackendQuery.window plan.query)))) := by
  refine ⟨pushSlice plan, rfl, ?_, fun uncounted something => ?_⟩
  · exact congrArg Except.ok (pushSlice_joined plan)
  · exact pushSlice_of_ne_nil uncounted something

end PushRule

end Pushdown
