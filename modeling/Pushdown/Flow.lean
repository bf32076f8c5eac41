import Pushdown.Sameness
import Pushdown.SortOrder

/-! # Flows

A flow hands out elements one at a time, and on the way it makes notes. Nothing after an
element happens before the next element is asked for, so a consumer that stops early
leaves the later notes unmade. An operation on a flow does nothing by itself either: it
takes one step for every step that it is asked for. It acts on the elements alone and
keeps the notes of the elements that it had to ask for.
-/

namespace Pushdown

/-- A result and the notes made on the way to it. -/
structure Noted (Note α : Type) where
  notes : List Note
  value : α
  deriving DecidableEq

/-- Another result made of the first, with the same notes. -/
def Noted.map {Note α β : Type} (image : α → β) (result : Noted Note α) : Noted Note β :=
  ⟨result.notes, image result.value⟩

/-- A sequence of elements and notes, made on demand. -/
inductive Flow (Note α : Type) where
  | done
  /-- A step that neither makes a note nor hands out an element. -/
  | later (rest : Unit → Flow Note α)
  | note (entry : Note) (rest : Unit → Flow Note α)
  | yield (element : α) (rest : Unit → Flow Note α)

/-- A flow that makes no notes. -/
abbrev Series (α : Type) := Flow Empty α

namespace Flow

variable {Note α β : Type}

/-- The elements that a flow hands out when it is drained. -/
def elements : Flow Note α → List α
  | .done => []
  | .later rest | .note _ rest => (rest ()).elements
  | .yield element rest => element :: (rest ()).elements

/-- The notes that a flow makes when it is drained. -/
def notes : Flow Note α → List Note
  | .done => []
  | .note entry rest => entry :: (rest ()).notes
  | .later rest | .yield _ rest => (rest ()).notes

/-! ## Demand -/

/-- Drains a flow after notes and elements met before, the latest first. -/
def drainAfter (notes : List Note) (elements : List α) : Flow Note α → Noted Note (List α)
  | .done => ⟨notes.reverse, elements.reverse⟩
  | .later rest => (rest ()).drainAfter notes elements
  | .note entry rest => (rest ()).drainAfter (entry :: notes) elements
  | .yield element rest => (rest ()).drainAfter notes (element :: elements)

/-- The elements of a drained flow with its notes. -/
def drain (flow : Flow Note α) : Noted Note (List α) :=
  flow.drainAfter [] []

theorem drainAfter_eq (notes : List Note) (elements : List α) (flow : Flow Note α) :
    flow.drainAfter notes elements =
      ⟨notes.reverse ++ flow.notes, elements.reverse ++ flow.elements⟩ := by
  induction flow generalizing notes elements with
  | done => simp [drainAfter, Flow.notes, Flow.elements]
  | later rest hyp => simp [drainAfter, Flow.notes, Flow.elements, hyp]
  | note entry rest hyp => simp [drainAfter, Flow.notes, Flow.elements, hyp]
  | yield element rest hyp => simp [drainAfter, Flow.notes, Flow.elements, hyp]

/-- Draining makes all notes and hands out all elements. -/
theorem drain_eq (flow : Flow Note α) : flow.drain = ⟨flow.notes, flow.elements⟩ := by
  simp [drain, drainAfter_eq]

/-- Pulls elements after notes and elements met before, the latest first. -/
def pullAfter (notes : List Note) (elements : List α) :
    Nat → Flow Note α → Noted Note (List α) × Flow Note α
  | 0, flow => (⟨notes.reverse, elements.reverse⟩, flow)
  | _ + 1, .done => (⟨notes.reverse, elements.reverse⟩, .done)
  | count + 1, .later rest => pullAfter notes elements (count + 1) (rest ())
  | count + 1, .note entry rest => pullAfter (entry :: notes) elements (count + 1) (rest ())
  | count + 1, .yield element rest => pullAfter notes (element :: elements) count (rest ())

/-- The next elements, at most as many as asked for, and the flow after the last. -/
def pullMany (count : Nat) (flow : Flow Note α) : Noted Note (List α) × Flow Note α :=
  flow.pullAfter [] [] count

/-- Gathers elements after notes and elements met before, the latest first, until no other element
is asked for. -/
def gatherAfter (asks : List α → Bool) (notes : List Note) (elements : List α) :
    Flow Note α → Noted Note (List α)
  | .done => ⟨notes.reverse, elements.reverse⟩
  | .later rest => (rest ()).gatherAfter asks notes elements
  | .note entry rest => (rest ()).gatherAfter asks (entry :: notes) elements
  | .yield element rest =>
      if asks (element :: elements) then (rest ()).gatherAfter asks notes (element :: elements)
      else ⟨notes.reverse, (element :: elements).reverse⟩

/-- The elements that are asked for, by whoever has met the others, the latest first. -/
def gather (asks : List α → Bool) (flow : Flow Note α) : Noted Note (List α) :=
  if asks [] then flow.gatherAfter asks [] [] else ⟨[], []⟩

/-- The next element, the notes before it, and the flow after it. -/
def pull (flow : Flow Note α) : Noted Note (Option α) × Flow Note α :=
  let (next, rest) := flow.pullMany 1
  (next.map List.head?, rest)

/-! ## Sources -/

/-- Hands out a list. -/
def ofList : List α → Flow Note α
  | [] => .done
  | element :: rest => .yield element fun _ => ofList rest

/-- Hands out one element as often as told. -/
def replicate (count : Nat) (element : α) : Flow Note α :=
  match count with
  | 0 => .done
  | count + 1 => .yield element fun _ => replicate count element

/-- Hands out a series, then goes on. -/
def prepend (series : Series α) (rest : Unit → Flow Note α) : Flow Note α :=
  match series with
  | .done => .later rest
  | .later more => .later fun _ => prepend (more ()) rest
  | .note entry _ => nomatch entry
  | .yield element more => .yield element fun _ => prepend (more ()) rest

/-- Makes notes, then goes on. -/
def prependNotes (entries : List Note) (rest : Unit → Flow Note α) : Flow Note α :=
  match entries with
  | [] => .later rest
  | entry :: entries => .note entry fun _ => prependNotes entries rest

/-! ## Operations -/

/-- Keeps the elements that pass a test. -/
def filter (test : α → Bool) : Flow Note α → Flow Note α
  | .done => .done
  | .later rest => .later fun _ => (rest ()).filter test
  | .note entry rest => .note entry fun _ => (rest ()).filter test
  | .yield element rest =>
      if test element then .yield element fun _ => (rest ()).filter test
      else .later fun _ => (rest ()).filter test

/-- Hands out the images of the elements. -/
def map (image : α → β) : Flow Note α → Flow Note β
  | .done => .done
  | .later rest => .later fun _ => (rest ()).map image
  | .note entry rest => .note entry fun _ => (rest ()).map image
  | .yield element rest => .yield (image element) fun _ => (rest ()).map image

/-- Hands out several images of every element. -/
def flatMap (images : α → Series β) : Flow Note α → Flow Note β
  | .done => .done
  | .later rest => .later fun _ => (rest ()).flatMap images
  | .note entry rest => .note entry fun _ => (rest ()).flatMap images
  | .yield element rest => prepend (images element) fun _ => (rest ()).flatMap images

/-- Leaves out the elements that repeat one seen before. -/
def distinctFrom (sameness : Sameness α) (seen : Sameness.Seen α) : Flow Note α → Flow Note α
  | .done => .done
  | .later rest => .later fun _ => (rest ()).distinctFrom sameness seen
  | .note entry rest => .note entry fun _ => (rest ()).distinctFrom sameness seen
  | .yield element rest =>
      if sameness.isIn element seen then
        .later fun _ => (rest ()).distinctFrom sameness seen
      else
        .yield element fun _ => (rest ()).distinctFrom sameness (sameness.add element seen)

/-- Keeps the first of the elements that are the same. -/
def distinct (sameness : Sameness α) (flow : Flow Note α) : Flow Note α :=
  flow.distinctFrom sameness ∅

/-- Drains the flow at the first demand and hands out its elements in order. -/
def sorted (compare : α → α → Ordering) (flow : Flow Note α) : Flow Note α :=
  .later fun _ =>
    let drained := flow.drain
    prependNotes drained.notes fun _ => ofList (sortedBy compare drained.value)

/-- Makes a note of every element before handing it out. -/
def peek (note : α → Note) : Flow Note α → Flow Note α
  | .done => .done
  | .later rest => .later fun _ => (rest ()).peek note
  | .note entry rest => .note entry fun _ => (rest ()).peek note
  | .yield element rest =>
      .note (note element) fun _ => .yield element fun _ => (rest ()).peek note

/-- Stops right after the given number of elements. -/
def take : Nat → Flow Note α → Flow Note α
  | 0, _ | _ + 1, .done => .done
  | count + 1, .later rest => .later fun _ => (rest ()).take (count + 1)
  | count + 1, .note entry rest => .note entry fun _ => (rest ()).take (count + 1)
  | count + 1, .yield element rest => .yield element fun _ => (rest ()).take count

/-- Leaves out the given number of elements, though not the notes made on the way. -/
def drop : Nat → Flow Note α → Flow Note α
  | 0, flow => flow
  | _ + 1, .done => .done
  | count + 1, .later rest => .later fun _ => (rest ()).drop (count + 1)
  | count + 1, .note entry rest => .note entry fun _ => (rest ()).drop (count + 1)
  | count + 1, .yield _ rest => .later fun _ => (rest ()).drop count

end Flow

end Pushdown
