import Pushdown.Pipeline.Terminal
import Pushdown.Proofs.Flow.Lists

/-! # Traces of terminals

Flows with one trace give a terminal the same output and the same notes, as far as they are
kept. An output that is itself a flow is the same when its trace is: then whatever asks for
its elements meets the same elements and notes.
-/

namespace Pushdown

variable {Note α : Type} {keep : Note → Bool}

/-- Outputs that cannot be told apart: equal ones, and sequences with one trace. -/
inductive Output.Alike (keep : Note → Bool) : Output Note α → Output Note α → Prop where
  | same (output : Output Note α) : Alike keep output output
  | sequence {flow flow' : Flow Note α} (same : flow.trace keep = flow'.trace keep) :
      Alike keep (.sequence flow) (.sequence flow')

/-- Outputs that cannot be told apart, reached with the same notes. -/
structure Noted.Alike (keep : Note → Bool) (former latter : Noted Note (Output Note α)) :
    Prop where
  notes : former.notes.filter keep = latter.notes.filter keep
  value : former.value.Alike keep latter.value

/-- Where all notes are kept, only a collection is like itself. -/
theorem Noted.Alike.eq_collection {result : Noted Note (Output Note α)} {notes : List Note}
    {elements : List α}
    (alike : result.Alike (fun _ => true) ⟨notes, .collection elements⟩) :
    result = ⟨notes, .collection elements⟩ := by
  obtain ⟨notes', output⟩ := result
  have all (entries : List Note) : entries.filter (fun _ => true) = entries :=
    List.filter_eq_self.mpr fun _ _ => rfl
  obtain rfl : notes' = notes := (all notes').symm.trans (alike.notes.trans (all notes))
  cases alike.value
  rfl

namespace Flow

variable {flow flow' : Flow Note α} {β : Type}

/-- What is made of the drained elements of flows with one trace. -/
theorem drain_congr (same : flow.trace keep = flow'.trace keep) (image : List α → Output Note α) :
    (flow.drain.map image).Alike keep (flow'.drain.map image) := by
  rw [drain_eq, drain_eq, elements_congr same]
  exact ⟨notes_congr same, .same _⟩

/-- What is made of the next elements of flows with one trace. -/
theorem pull_congr (same : flow.trace keep = flow'.trace keep) (image : Option α → Output Note α) :
    (flow.pull.1.map image).Alike keep (flow'.pull.1.map image) := by
  constructor
  · change flow.pull.1.notes.filter keep = flow'.pull.1.notes.filter keep
    rw [notes_pull, notes_pull, same]
  · change (image flow.pull.1.value).Alike keep (image flow'.pull.1.value)
    rw [value_pull, value_pull, elements_congr same]
    exact .same _

/-- What is made of the gathered elements of flows with one trace. -/
theorem gather_congr (same : flow.trace keep = flow'.trace keep) (asks : List α → Bool)
    (image : List α → Output Note α) :
    ((flow.gather asks).map image).Alike keep ((flow'.gather asks).map image) := by
  rw [gather_eq, gather_eq, pullMany_eq, pullMany_eq, elements_congr same]
  refine ⟨?_, .same _⟩
  change (flow.take _).notes.filter keep = (flow'.take _).notes.filter keep
  rw [← notes_trace, ← notes_trace, trace_take, trace_take, same]

end Flow

namespace Terminal

variable {flow flow' : Flow Note α}

theorem forEach_congr (same : flow.trace keep = flow'.trace keep) (note : α → Note) :
    ((forEach note).consume flow).Alike keep ((forEach note).consume flow') := by
  unfold consume
  apply Flow.drain_congr
  rw [Flow.trace_peek, Flow.trace_peek, same]

theorem search_congr (same : flow.trace keep = flow'.trace keep) (test : α → Bool)
    (image : Option α → Output Note α) :
    ((search test flow).map image).Alike keep ((search test flow').map image) := by
  apply Flow.pull_congr
  rw [Flow.trace_filter, Flow.trace_filter, same]

/-- A terminal makes the same of flows with one trace. -/
theorem consume_congr (same : flow.trace keep = flow'.trace keep) (terminal : Terminal Note α) :
    (terminal.consume flow).Alike keep (terminal.consume flow') := by
  unfold consume
  cases terminal with
  | forEach note => exact forEach_congr same note
  | forEachOrdered note => exact forEach_congr same note
  | toArray => exact Flow.drain_congr same _
  | reduce accumulate => exact Flow.drain_congr same _
  | reduceFrom identity accumulate => exact Flow.drain_congr same _
  | collect asks => exact Flow.gather_congr same asks _
  | min compare => exact Flow.drain_congr same _
  | max compare => exact Flow.drain_congr same _
  | count => exact Flow.drain_congr same _
  | anyMatch test => exact search_congr same test _
  | allMatch test => exact search_congr same _ _
  | noneMatch test => exact search_congr same test _
  | findFirst => exact Flow.pull_congr same _
  | findAny => exact Flow.pull_congr same _
  | iterate => exact ⟨rfl, .sequence same⟩
  | split => exact ⟨rfl, .sequence same⟩

end Terminal

end Pushdown
