import Pushdown.Pipeline

/-! # Cursors

A cursor stands in the result of a pipeline and hands out what is left of it. It keeps
the pipeline, whose handlers run when the cursor is closed or given up. A batch cursor
also hands out prefixes, each longer than the one before up to a bound.
-/

namespace Pushdown

/-- A place in the result of a pipeline. -/
structure Cursor (Note α : Type) where
  remaining : Flow Note α
  pipeline : Pipeline Note α

namespace Cursor

variable {Note α : Type}

/-- The next element, and the cursor after it. -/
def next (cursor : Cursor Note α) : Noted Note (Option α) × Cursor Note α :=
  let (element, rest) := cursor.remaining.pull
  (element, { cursor with remaining := rest })

/-- The next elements, at most as many as asked for, and the cursor after them. -/
def nextMany (cursor : Cursor Note α) (count : Nat) : Noted Note (List α) × Cursor Note α :=
  let (elements, rest) := cursor.remaining.pullMany count
  (elements, { cursor with remaining := rest })

/-- All remaining elements, and the cursor at the end. -/
def drain (cursor : Cursor Note α) : Noted Note (List α) × Cursor Note α :=
  (cursor.remaining.drain, { cursor with remaining := .done })

/-- What giving the cursor up does: the pipeline is closed, and nobody hears of failures. -/
def release (cursor : Cursor Note α) : List Note :=
  cursor.pipeline.close.notes

/-- What closing the cursor does. A closed cursor is given up, with nothing left to close. -/
def close (cursor : Cursor Note α) : Noted Note (Except Failure Unit) :=
  let closing := cursor.pipeline.close
  { notes := closing.notes ++ release { cursor with pipeline := cursor.pipeline.closed }
    value := closing.value }

end Cursor

/-- A cursor that also hands out batches. -/
structure BatchCursor (Note α : Type) where
  cursor : Cursor Note α
  /-- The size of the last batch that was asked for. -/
  batch : Nat := 0
  /-- Whether the end has been met; nothing is handed out after it. -/
  exhausted : Bool := false

namespace BatchCursor

variable {Note α : Type}

/-- How much a batch grows over the one before. -/
def step : Nat :=
  1024

/-- The largest batch. -/
def largest : Nat :=
  32768 * step

/-- The next element, and the cursor after it. -/
def advance (cursor : BatchCursor Note α) : Noted Note (Option α) × BatchCursor Note α :=
  if cursor.exhausted then (⟨[], none⟩, cursor)
  else
    let (element, rest) := cursor.cursor.next
    (element, { cursor with cursor := rest, exhausted := element.value.isNone })

/-- All remaining elements, and the exhausted cursor. -/
def drain (cursor : BatchCursor Note α) : Noted Note (List α) × BatchCursor Note α :=
  if cursor.exhausted then (⟨[], []⟩, cursor)
  else
    let (elements, rest) := cursor.cursor.drain
    (elements, { cursor with cursor := rest, exhausted := true })

/-- The next batch, unless nothing is left. A batch that falls short ends the cursor. -/
def split (cursor : BatchCursor Note α) :
    Noted Note (Option (List α)) × BatchCursor Note α :=
  if cursor.exhausted then (⟨[], none⟩, cursor)
  else
    let size := min (cursor.batch + step) largest
    let (elements, rest) := cursor.cursor.nextMany size
    (elements.map fun batch => if batch.isEmpty then none else some batch,
      { cursor := rest, batch := size, exhausted := decide (elements.value.length < size) })

/-- What giving the cursor up does. -/
def release (cursor : BatchCursor Note α) : List Note :=
  cursor.cursor.release

/-- What closing the cursor does. -/
def close (cursor : BatchCursor Note α) : Noted Note (Except Failure Unit) :=
  cursor.cursor.close

end BatchCursor

end Pushdown
