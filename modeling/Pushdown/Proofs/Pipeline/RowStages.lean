import Pushdown.Proofs.Pipeline.StageTraces
import Pushdown.Proofs.Sorting.StableSort

/-! # Stages over rows

A flow that hands out a list of rows and makes no notes stays one under the stages that a
query can take over: they do to the list what a query does to it.
-/

namespace Pushdown

/-- The flow that hands out the rows of an answer. -/
def Flow.ofRows {Note ρ μ : Type} (rows : List ρ) : Flow Note (Element ρ μ) :=
  .later fun _ => .ofList (rows.map .row)

namespace Stage

variable {Note ρ μ : Type} {keep : Note → Bool}

theorem elements_ofRows (rows : List ρ) :
    (Flow.ofRows rows : Flow Note (Element ρ μ)).elements = rows.map .row :=
  Flow.elements_ofList _

theorem notes_ofRows (rows : List ρ) :
    (Flow.ofRows rows : Flow Note (Element ρ μ)).notes = [] :=
  Flow.notes_ofList _

theorem trace_ofRows (rows : List ρ) :
    (Flow.ofRows rows : Flow Note (Element ρ μ)).trace keep =
      (Flow.ofList (rows.map .row)).trace keep := rfl

theorem trace_filter_ofRows (test : Element ρ μ → Bool) (rows : List ρ) :
    ((Flow.ofRows rows : Flow Note (Element ρ μ)).filter test).trace keep =
      (Flow.ofRows (rows.filter fun row => test (.row row))).trace keep := by
  rw [Flow.trace_filter, trace_ofRows, trace_ofRows, Flow.trace_ofList, Flow.trace_ofList,
    List.filter_map, List.filter_map]
  rfl

variable [Entity ρ]

/-- Rows are sorted as elements the way they are sorted by themselves. -/
theorem map_row_sortedBy (order : SortOrder) (rows : List ρ) :
    (Pushdown.sortedBy order.compare rows).map Element.row =
      Pushdown.sortedBy (Element.compareRows (μ := μ) order.compare) (rows.map .row) := by
  apply map_sortedBy
  intro first second
  rfl

theorem trace_sortedByField_ofRows (order : SortOrder) (rows : List ρ) :
    ((Stage.sortedByField order : Stage Note (Element ρ μ)).run (.ofRows rows)).trace keep =
      (Flow.ofRows (Pushdown.sortedBy order.compare rows)).trace keep := by
  rw [run, Flow.trace_sorted, notes_ofRows, elements_ofRows, trace_ofRows, Flow.trace_ofList,
    map_row_sortedBy]
  rfl

theorem trace_limit_ofRows (count : Count) (rows : List ρ) :
    ((Stage.limit count : Stage Note (Element ρ μ)).run (.ofRows rows)).trace keep =
      (Flow.ofRows (rows.take count.toNat)).trace keep := by
  rw [run, Flow.trace_take, trace_ofRows, ← Flow.trace_take, Flow.trace_take_ofList, trace_ofRows,
    List.map_take]

theorem trace_skip_ofRows (count : Count) (rows : List ρ) :
    ((Stage.skip count : Stage Note (Element ρ μ)).run (.ofRows rows)).trace keep =
      (Flow.ofRows (rows.drop count.toNat)).trace keep := by
  rw [run, Flow.trace_drop, trace_ofRows, ← Flow.trace_drop, Flow.trace_drop_ofList, trace_ofRows,
    List.map_drop]

end Stage

end Pushdown
