import Pushdown.Cursor

/-! # Cursors in use

Whatever is asked of a cursor, in whatever order, it keeps its pipeline until it is closed or
given up. Over another pipeline the same happens.
-/

namespace Pushdown

variable {Note α : Type}

/-! ## Steps and their notes -/

/-- The state after an answer, with the notes made for it. -/
def Noted.after {β σ : Type} (answer : Noted Note β × σ) : Noted Note σ :=
  ⟨answer.1.notes, answer.2⟩

/-- The state after several steps, with the notes of all of them. -/
def Noted.steps {σ υ : Type} (step : σ → υ → Noted Note σ) (state : σ) : List υ → Noted Note σ
  | [] => ⟨[], state⟩
  | first :: rest =>
      let next := step state first
      let later := steps step next.value rest
      ⟨next.notes ++ later.notes, later.value⟩

/-- What every step leaves alone, all steps leave alone. -/
theorem Noted.steps_map {σ υ : Type} {step : σ → υ → Noted Note σ} {change : σ → σ}
    (apart : ∀ state use, step (change state) use = (step state use).map change)
    (state : σ) (uses : List υ) :
    steps step (change state) uses = (steps step state uses).map change := by
  induction uses generalizing state with
  | nil => rfl
  | cons first rest hyp =>
      have later := hyp (step state first).value
      rw [steps, steps, apart]
      dsimp only [Noted.map] at later ⊢
      rw [later]

/-! ## Cursors -/

/-- A kind of cursor: how it is used and how it ends, over whatever pipeline. -/
structure CursorKind (Note α σ υ : Type) where
  use : σ → υ → Noted Note σ
  close : σ → Noted Note (Except Failure Unit)
  release : σ → List Note
  /-- The cursor with another pipeline. -/
  withPipeline : Pipeline Note α → σ → σ
  use_withPipeline : ∀ pipeline cursor asked,
    use (withPipeline pipeline cursor) asked = (use cursor asked).map (withPipeline pipeline)
  close_withPipeline : ∀ pipeline cursor, close (withPipeline pipeline cursor) = pipeline.close
  release_withPipeline : ∀ pipeline cursor,
    release (withPipeline pipeline cursor) = pipeline.close.notes

/-- The cursor after several uses. -/
def CursorKind.useAll {σ υ : Type} (kind : CursorKind Note α σ υ) (cursor : σ) (uses : List υ) :
    Noted Note σ :=
  Noted.steps kind.use cursor uses

theorem CursorKind.useAll_withPipeline {σ υ : Type} (kind : CursorKind Note α σ υ)
    (pipeline : Pipeline Note α) (cursor : σ) (uses : List υ) :
    kind.useAll (kind.withPipeline pipeline cursor) uses =
      (kind.useAll cursor uses).map (kind.withPipeline pipeline) :=
  Noted.steps_map (kind.use_withPipeline pipeline) cursor uses

namespace Cursor

/-- What may be asked of a cursor. -/
inductive Use where
  | next
  | nextMany (count : Nat)
  | drain

/-- The cursor after a use. -/
def use (cursor : Cursor Note α) : Use → Noted Note (Cursor Note α)
  | .next => .after cursor.next
  | .nextMany count => .after (cursor.nextMany count)
  | .drain => .after cursor.drain

/-- The cursor with another pipeline. -/
def withPipeline (pipeline : Pipeline Note α) (cursor : Cursor Note α) : Cursor Note α :=
  { cursor with pipeline := pipeline }

theorem use_withPipeline (pipeline : Pipeline Note α) (cursor : Cursor Note α) (asked : Use) :
    (cursor.withPipeline pipeline).use asked = (cursor.use asked).map (withPipeline pipeline) := by
  cases asked <;> rfl

theorem close_withPipeline (pipeline : Pipeline Note α) (cursor : Cursor Note α) :
    (cursor.withPipeline pipeline).close = pipeline.close :=
  congrArg (Noted.mk · _) (List.append_nil _)

/-- Cursors that hand out single elements. -/
def kind : CursorKind Note α (Cursor Note α) Use where
  use := use
  close := close
  release := release
  withPipeline := withPipeline
  use_withPipeline := use_withPipeline
  close_withPipeline := close_withPipeline
  release_withPipeline _ _ := rfl

end Cursor

namespace BatchCursor

/-- What may be asked of a cursor that hands out batches. -/
inductive Use where
  | advance
  | drain
  | split

/-- The cursor after a use. -/
def use (cursor : BatchCursor Note α) : Use → Noted Note (BatchCursor Note α)
  | .advance => .after cursor.advance
  | .drain => .after cursor.drain
  | .split => .after cursor.split

/-- The cursor with another pipeline. -/
def withPipeline (pipeline : Pipeline Note α) (cursor : BatchCursor Note α) :
    BatchCursor Note α :=
  { cursor with cursor := cursor.cursor.withPipeline pipeline }

theorem use_withPipeline (pipeline : Pipeline Note α) (cursor : BatchCursor Note α)
    (asked : Use) :
    (cursor.withPipeline pipeline).use asked = (cursor.use asked).map (withPipeline pipeline) := by
  cases ended : cursor.exhausted with
  | true => cases asked <;> simp [use, advance, drain, split, withPipeline, ended, Noted.after,
      Noted.map]
  | false =>
      cases asked with
      | advance => simp [use, advance, withPipeline, ended, Noted.after, Noted.map, Cursor.next,
          Cursor.withPipeline]
      | drain => simp [use, drain, withPipeline, ended, Noted.after, Noted.map, Cursor.drain,
          Cursor.withPipeline]
      | split =>
          simp only [use, split, withPipeline, ended]
          -- The size of the batch is not to be worked out.
          generalize min (cursor.batch + step) largest = size
          rfl

/-- Cursors that also hand out batches. -/
def kind : CursorKind Note α (BatchCursor Note α) Use where
  use := use
  close := close
  release := release
  withPipeline := withPipeline
  use_withPipeline := use_withPipeline
  close_withPipeline pipeline cursor := cursor.cursor.close_withPipeline pipeline
  release_withPipeline _ _ := rfl

end BatchCursor

end Pushdown
