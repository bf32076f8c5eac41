import Pushdown.Cursor
import Pushdown.Runner

/-! # Streams of rows

A stream records stages on a pipeline of its own and ends in exactly one way: in a
terminal, in a cursor, closed, or given up. Every way closes the pipeline once; a cursor
takes that duty over. A value terminal closes after the terminal has consumed its
elements, and a failure of the run wins over a failure of the close handlers.
-/

namespace Pushdown

/-- A stream over rows `ρ` and mapped values `μ`. -/
structure RowStream (ρ κ ν μ Note : Type) where
  runner : Runner ρ κ ν
  source : StreamSource := {}
  pipeline : Pipeline Note (Element ρ μ) := {}
  /-- The first stage or handler that was refused; it is reported by the terminal. -/
  failure : Option Failure := none

/-- What is made of the elements of a stream that a collector asks for. -/
structure Collector (α β : Type) where
  /-- What is made of the elements that were met. -/
  collection : List α → β
  /-- Whether another element is asked for after those met, the latest first. -/
  asks : List α → Bool := fun _ => true

/-- The end of a stream: what was seen of the run, all notes, and the result. -/
structure Conclusion (κ Note β : Type) where
  events : List RunEvent := []
  executed : List κ := []
  notes : List Note
  result : Except Failure β

/-- The same end with a result of another type. -/
def Conclusion.andThen {κ Note β γ : Type} (conclusion : Conclusion κ Note β)
    (next : β → Except Failure γ) : Conclusion κ Note γ :=
  { conclusion with result := conclusion.result >>= next }

namespace RowStream

variable {ρ κ ν μ Note β : Type}

/-- A change of the pipeline, unless an earlier change was refused. -/
def change (stream : RowStream ρ κ ν μ Note)
    (action : Pipeline Note (Element ρ μ) → Except Failure (Pipeline Note (Element ρ μ))) :
    RowStream ρ κ ν μ Note :=
  match stream.failure with
  | some _ => stream
  | none =>
      match action stream.pipeline with
      | .ok pipeline => { stream with pipeline := pipeline }
      | .error failure => { stream with failure := some failure }

/-- What giving the stream up does: the pipeline is closed, and nobody hears of failures. -/
def release (stream : RowStream ρ κ ν μ Note) : List Note :=
  stream.pipeline.close.notes

/-- The stream as one over elements of another type. It takes the pipeline over, and the emptied
stream is given up. -/
def retype (stream : RowStream ρ κ ν μ Note) : Noted Note (RowStream ρ κ ν μ Note) :=
  let emptied : RowStream ρ κ ν μ Note := { stream with pipeline := {}, failure := none }
  ⟨emptied.release, stream⟩

/-- The stream with one more stage. -/
def push (stream : RowStream ρ κ ν μ Note) (stage : Stage Note (Element ρ μ)) :
    RowStream ρ κ ν μ Note :=
  stream.change (·.append stage)

/-- Keeps the rows on which a predicate holds. -/
def filter (stream : RowStream ρ κ ν μ Note) (predicate : Predicate) :
    RowStream ρ κ ν μ Note :=
  stream.push (.filter predicate)

/-- Sorts the rows by their fields. -/
def sortedByField (stream : RowStream ρ κ ν μ Note) (order : SortOrder) :
    RowStream ρ κ ν μ Note :=
  stream.push (.sortedByField order)

/-- Keeps the elements that pass a test. -/
def filterBy (stream : RowStream ρ κ ν μ Note) (test : Element ρ μ → Bool) :
    RowStream ρ κ ν μ Note :=
  stream.push (.filterBy test)

/-- Replaces every element by its image. -/
def map (stream : RowStream ρ κ ν μ Note) (image : Element ρ μ → Element ρ μ) :
    RowStream ρ κ ν μ Note :=
  (stream.push (.map image)).retype.value

/-- Replaces every element by its images. -/
def flatMap (stream : RowStream ρ κ ν μ Note) (images : Element ρ μ → Series (Element ρ μ)) :
    RowStream ρ κ ν μ Note :=
  (stream.push (.flatMap images)).retype.value

/-- Keeps the first occurrence of every element. -/
def distinct [DecidableEq ρ] [Hashable ρ] [DecidableEq μ] [Hashable μ]
    (stream : RowStream ρ κ ν μ Note) : RowStream ρ κ ν μ Note :=
  stream.push (.distinct (.ofKey id))

/-- Sorts by the natural order of the elements. -/
def sorted [Ord ρ] [Ord μ] (stream : RowStream ρ κ ν μ Note) : RowStream ρ κ ν μ Note :=
  stream.push (.sorted Element.natural)

/-- Sorts by a comparison. -/
def sortedBy (stream : RowStream ρ κ ν μ Note)
    (compare : Element ρ μ → Element ρ μ → Ordering) : RowStream ρ κ ν μ Note :=
  stream.push (.sortedBy compare)

/-- Notes every element that passes. -/
def peek (stream : RowStream ρ κ ν μ Note) (note : Element ρ μ → Note) :
    RowStream ρ κ ν μ Note :=
  stream.push (.peek note)

/-- Keeps at most the given number of elements. -/
def limit (stream : RowStream ρ κ ν μ Note) (count : Count) : RowStream ρ κ ν μ Note :=
  stream.push (.limit count)

/-- Leaves out the given number of elements. -/
def skip (stream : RowStream ρ κ ν μ Note) (count : Count) : RowStream ρ κ ν μ Note :=
  stream.push (.skip count)

/-- Gives up the order of the elements. -/
def unordered (stream : RowStream ρ κ ν μ Note) : RowStream ρ κ ν μ Note :=
  stream.push .unordered

/-- Marks the stream as parallel or not. -/
def setParallel (stream : RowStream ρ κ ν μ Note) (parallel : Bool) :
    RowStream ρ κ ν μ Note :=
  { stream with pipeline := { stream.pipeline with parallel := parallel } }

/-- Registers a handler that runs when the stream is closed. -/
def onClose (stream : RowStream ρ κ ν μ Note) (handler : CloseHandler Note) :
    RowStream ρ κ ν μ Note :=
  stream.change (·.onClose handler)

/-- Closes the stream without running it. A closed stream is given up, with nothing left to
close. -/
def close (stream : RowStream ρ κ ν μ Note) : Noted Note (Except Failure Unit) :=
  let closing := stream.pipeline.close
  { notes := closing.notes ++ release { stream with pipeline := stream.pipeline.closed }
    value := closing.value }

/-- The end of a stream that is given up because of a failure. -/
def abandon (stream : RowStream ρ κ ν μ Note) (failure : Failure) : Conclusion κ Note β where
  notes := stream.release
  result := .error failure

/-- Links a numeric specialization. It is recorded, but there are no streams of numbers. -/
def specialize (stream : RowStream ρ κ ν μ Note) (target : NumericTarget) :
    Conclusion κ Note Empty :=
  match stream.failure with
  | some failure => stream.abandon failure
  | none =>
      match stream.pipeline.link (.mapToNumeric target) with
      | .error failure => stream.abandon failure
      | .ok pipeline => abandon { stream with pipeline := pipeline } (.unsupportedOperation target)

/-- The pipeline with its terminal, unless a change was refused. -/
def finished (stream : RowStream ρ κ ν μ Note) (terminal : Terminal Note (Element ρ μ)) :
    Except Failure (Pipeline Note (Element ρ μ)) :=
  match stream.failure with
  | some failure => .error failure
  | none => stream.pipeline.setTerminal terminal

/-- The result of a value terminal: a failure of the run wins over one of the handlers. -/
def settle (output : Except Failure β) (closing : Except Failure Unit) : Except Failure β :=
  match output, closing with
  | .error failure, _ => .error failure
  | .ok _, .error failure => .error failure
  | .ok value, .ok () => .ok value

/-- The output of a run and its notes; a failed run makes none. -/
def outcome (run : Run κ Note (Element ρ μ)) :
    Noted Note (Except Failure (Output Note (Element ρ μ))) :=
  match run.outcome with
  | .error failure => ⟨[], .error failure⟩
  | .ok delivery => delivery.finish

variable [Entity ρ] [BackendQuery κ ν]

/-- Runs the stream into a terminal and closes it. -/
def terminate (stream : RowStream ρ κ ν μ Note) (terminal : Terminal Note (Element ρ μ)) :
    Conclusion κ Note (Output Note (Element ρ μ)) :=
  match stream.finished terminal with
  | .error failure => { notes := stream.close.notes, result := .error failure }
  | .ok pipeline =>
      let run := stream.runner.run pipeline stream.source
      let output := outcome run
      let closing := close { stream with pipeline := pipeline }
      { events := run.events
        executed := run.executed
        notes := output.notes ++ closing.notes
        result := settle output.value closing.value }

/-- The number of elements. -/
def count (stream : RowStream ρ κ ν μ Note) : Conclusion κ Note Count :=
  (stream.terminate .count).andThen fun
    | .count count => .ok count
    | output => .error (.unexpectedOutput output.arity .count)

/-- All elements. -/
def toList (stream : RowStream ρ κ ν μ Note) : Conclusion κ Note (List (Element ρ μ)) :=
  (stream.terminate .toArray).andThen fun
    | .collection elements => .ok elements
    | output => .error (.unexpectedOutput output.arity .collection)

/-- The collection of the elements that its collector asks for. -/
def collect (stream : RowStream ρ κ ν μ Note) (collector : Collector (Element ρ μ) β) :
    Conclusion κ Note β :=
  (stream.terminate (.collect collector.asks)).andThen fun
    | .gathered elements => .ok (collector.collection elements)
    | output => .error (.unexpectedOutput output.arity .single)

/-- Notes every element. -/
def forEach (stream : RowStream ρ κ ν μ Note) (note : Element ρ μ → Note) :
    Conclusion κ Note Unit :=
  (stream.terminate (.forEach note)).andThen fun _ => .ok ()

/-- Notes every element in order. -/
def forEachOrdered (stream : RowStream ρ κ ν μ Note) (note : Element ρ μ → Note) :
    Conclusion κ Note Unit :=
  (stream.terminate (.forEachOrdered note)).andThen fun _ => .ok ()

/-- The fold of the elements from an identity. -/
def reduceFrom (stream : RowStream ρ κ ν μ Note) (identity : Element ρ μ)
    (accumulate : Element ρ μ → Element ρ μ → Element ρ μ) : Conclusion κ Note (Element ρ μ) :=
  (stream.terminate (.reduceFrom identity accumulate)).andThen fun
    | .single element => .ok element
    | output => .error (.unexpectedOutput output.arity .single)

/-- The result of a terminal that may find nothing. -/
def terminateOptional (stream : RowStream ρ κ ν μ Note)
    (terminal : Terminal Note (Element ρ μ)) : Conclusion κ Note (Option (Element ρ μ)) :=
  (stream.terminate terminal).andThen fun
    | .optional element => .ok element
    | output => .error (.unexpectedOutput output.arity .optional)

/-- The result of a terminal that answers a question. -/
def terminateBoolean (stream : RowStream ρ κ ν μ Note)
    (terminal : Terminal Note (Element ρ μ)) : Conclusion κ Note Bool :=
  (stream.terminate terminal).andThen fun
    | .boolean result => .ok result
    | output => .error (.unexpectedOutput output.arity .boolean)

/-- The fold of the elements from the first of them. -/
def reduce (stream : RowStream ρ κ ν μ Note)
    (accumulate : Element ρ μ → Element ρ μ → Element ρ μ) :
    Conclusion κ Note (Option (Element ρ μ)) :=
  stream.terminateOptional (.reduce accumulate)

/-- The first of the least elements. -/
def min (stream : RowStream ρ κ ν μ Note) (compare : Element ρ μ → Element ρ μ → Ordering) :
    Conclusion κ Note (Option (Element ρ μ)) :=
  stream.terminateOptional (.min compare)

/-- The first of the greatest elements. -/
def max (stream : RowStream ρ κ ν μ Note) (compare : Element ρ μ → Element ρ μ → Ordering) :
    Conclusion κ Note (Option (Element ρ μ)) :=
  stream.terminateOptional (.max compare)

/-- The first element. -/
def findFirst (stream : RowStream ρ κ ν μ Note) : Conclusion κ Note (Option (Element ρ μ)) :=
  stream.terminateOptional .findFirst

/-- Some element. -/
def findAny (stream : RowStream ρ κ ν μ Note) : Conclusion κ Note (Option (Element ρ μ)) :=
  stream.terminateOptional .findAny

/-- Whether some element passes a test. -/
def anyMatch (stream : RowStream ρ κ ν μ Note) (test : Element ρ μ → Bool) :
    Conclusion κ Note Bool :=
  stream.terminateBoolean (.anyMatch test)

/-- Whether every element passes a test. -/
def allMatch (stream : RowStream ρ κ ν μ Note) (test : Element ρ μ → Bool) :
    Conclusion κ Note Bool :=
  stream.terminateBoolean (.allMatch test)

/-- Whether no element passes a test. -/
def noneMatch (stream : RowStream ρ κ ν μ Note) (test : Element ρ μ → Bool) :
    Conclusion κ Note Bool :=
  stream.terminateBoolean (.noneMatch test)

/-- A cursor over the result. The cursor takes the pipeline over, and an empty one is given up
with the stream; without a cursor the pipeline is given up. -/
def openCursor (stream : RowStream ρ κ ν μ Note) (terminal : Terminal Note (Element ρ μ)) :
    Conclusion κ Note (Cursor Note (Element ρ μ)) :=
  match stream.finished terminal with
  | .error failure => stream.abandon failure
  | .ok pipeline =>
      let run := stream.runner.run pipeline stream.source
      let output := outcome run
      let (result, left) : Except Failure (Cursor Note (Element ρ μ)) × Pipeline Note _ :=
        match output.value with
        | .ok (.sequence flow) => (.ok ⟨flow, pipeline⟩, {})
        | .ok output => (.error (.unexpectedOutput output.arity .sequence), pipeline)
        | .error failure => (.error failure, pipeline)
      { events := run.events
        executed := run.executed
        notes := output.notes ++ release { stream with pipeline := left }
        result := result }

/-- A cursor that hands out single elements. -/
def iterate (stream : RowStream ρ κ ν μ Note) :
    Conclusion κ Note (Cursor Note (Element ρ μ)) :=
  stream.openCursor .iterate

/-- A cursor that also hands out batches. -/
def split (stream : RowStream ρ κ ν μ Note) :
    Conclusion κ Note (BatchCursor Note (Element ρ μ)) :=
  (stream.openCursor .split).andThen fun cursor => .ok ⟨cursor, 0, false⟩

end RowStream

end Pushdown
