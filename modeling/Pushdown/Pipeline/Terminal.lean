import Pushdown.Count
import Pushdown.Flow
import Pushdown.Pipeline.Kind

/-! # Terminals

The one consumer of a pipeline's elements. A terminal asks for no more elements than its
result needs: a search stops at the first element that settles it.
-/

namespace Pushdown

/-- A consumer of elements `α`, with notes `Note`. -/
inductive Terminal (Note α : Type) where
  | forEach (note : α → Note)
  | forEachOrdered (note : α → Note)
  | toArray
  | reduce (accumulate : α → α → α)
  /-- Starts from an identity, so that there always is a result. -/
  | reduceFrom (identity : α) (accumulate : α → α → α)
  /-- Gathers elements for a result of another type, as long as another is asked for after those
  met, the latest first. -/
  | collect (asks : List α → Bool)
  | min (compare : α → α → Ordering)
  | max (compare : α → α → Ordering)
  | count
  | anyMatch (test : α → Bool)
  | allMatch (test : α → Bool)
  | noneMatch (test : α → Bool)
  | findFirst
  | findAny
  | iterate
  | split

/-- What a terminal makes of its elements. -/
inductive Output (Note α : Type) where
  | void
  | count (count : Count)
  | boolean (result : Bool)
  | single (element : α)
  /-- The elements that one result is made of. -/
  | gathered (elements : List α)
  | optional (element : Option α)
  | collection (elements : List α)
  /-- The elements are still to be asked for. -/
  | sequence (flow : Flow Note α)

/-- The arity of an output. -/
def Output.arity {Note α : Type} : Output Note α → Arity
  | .void => .void
  | .count _ => .count
  | .boolean _ => .boolean
  | .single _ | .gathered _ => .single
  | .optional _ => .optional
  | .collection _ => .collection
  | .sequence _ => .sequence

namespace Terminal

variable {Note α : Type}

/-- The kind of a terminal. -/
def kind : Terminal Note α → Kind
  | .forEach _ => .forEach
  | .forEachOrdered _ => .forEachOrdered
  | .toArray => .toArray
  | .reduce _ | .reduceFrom _ _ => .reduce
  | .collect _ => .collect
  | .min _ => .min
  | .max _ => .max
  | .count => .count
  | .anyMatch _ => .anyMatch
  | .allMatch _ => .allMatch
  | .noneMatch _ => .noneMatch
  | .findFirst => .findFirst
  | .findAny => .findAny
  | .iterate => .iterate
  | .split => .split

/-- The arity of a terminal's output. -/
def arity : Terminal Note α → Arity
  | .forEach _ | .forEachOrdered _ => .void
  | .toArray => .collection
  | .reduceFrom _ _ | .collect _ => .single
  | .reduce _ | .min _ | .max _ | .findFirst | .findAny => .optional
  | .count => .count
  | .anyMatch _ | .allMatch _ | .noneMatch _ => .boolean
  | .iterate | .split => .sequence

/-- A fold that starts from the first element. -/
def reduce? (accumulate : α → α → α) : List α → Option α
  | [] => none
  | first :: rest => some (rest.foldl accumulate first)

/-- The smaller of two elements, the first one if neither is. -/
def smaller (compare : α → α → Ordering) (best next : α) : α :=
  if compare best next = .gt then next else best

/-- The larger of two elements, the first one if neither is. -/
def larger (compare : α → α → Ordering) (best next : α) : α :=
  if compare best next = .lt then next else best

/-- The first element that passes a test, with the notes up to it. -/
def search (test : α → Bool) (flow : Flow Note α) : Noted Note (Option α) :=
  (flow.filter test).pull.1

/-- The output of a terminal over a flow. -/
def consume (flow : Flow Note α) : Terminal Note α → Noted Note (Output Note α)
  | .forEach note | .forEachOrdered note => (flow.peek note).drain.map fun _ => .void
  | .toArray => flow.drain.map .collection
  | .reduce accumulate => flow.drain.map fun elements => .optional (reduce? accumulate elements)
  | .reduceFrom identity accumulate =>
      flow.drain.map fun elements => .single (elements.foldl accumulate identity)
  | .collect asks => (flow.gather asks).map .gathered
  | .min compare =>
      flow.drain.map fun elements => .optional (reduce? (smaller compare) elements)
  | .max compare =>
      flow.drain.map fun elements => .optional (reduce? (larger compare) elements)
  | .count => flow.drain.map fun elements => .count (.ofNat elements.length)
  | .anyMatch test => (search test flow).map fun found => .boolean found.isSome
  | .allMatch test =>
      (search (fun element => !test element) flow).map fun found => .boolean found.isNone
  | .noneMatch test => (search test flow).map fun found => .boolean found.isNone
  | .findFirst | .findAny => flow.pull.1.map .optional
  | .iterate | .split => ⟨[], .sequence flow⟩

end Terminal

end Pushdown
