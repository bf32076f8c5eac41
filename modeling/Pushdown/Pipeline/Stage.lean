import Pushdown.Count
import Pushdown.Flow
import Pushdown.Pipeline.Element
import Pushdown.Pipeline.Kind
import Pushdown.Predicate.Evaluation

/-! # Stages

A stage turns a flow of elements into another. Stages that carry a predicate or a sort
order may be moved into a backend's query; the others hold functions and run in process.
-/

namespace Pushdown

/-- One step of a pipeline over elements `α`, with notes `Note`. -/
inductive Stage (Note α : Type) where
  /-- Keeps the rows on which a predicate holds. -/
  | filter (predicate : Predicate)
  /-- Keeps the elements that pass a test. -/
  | filterBy (test : α → Bool)
  | map (image : α → α)
  | flatMap (images : α → Series α)
  /-- Turns elements into numbers; such a stage is recorded and never run. -/
  | mapToNumeric (target : NumericTarget)
  /-- Keeps the first of the elements that are the same. -/
  | distinct (sameness : Sameness α)
  /-- Sorts by the natural order of the elements. -/
  | sorted (natural : α → α → Ordering)
  /-- Sorts rows by their fields. -/
  | sortedByField (order : SortOrder)
  /-- Sorts by a comparison. -/
  | sortedBy (compare : α → α → Ordering)
  /-- Notes every element that passes. -/
  | peek (note : α → Note)
  | limit (count : Count)
  | skip (count : Count)
  /-- Gives up the order of the elements; nothing is moved. -/
  | unordered

namespace Stage

variable {Note α ρ μ : Type}

/-- The kind of a stage. -/
def kind : Stage Note α → Kind
  | .filter _ | .filterBy _ => .filter
  | .map _ => .map
  | .flatMap _ => .flatMap
  | .mapToNumeric _ => .mapToNumeric
  | .distinct _ => .distinct
  | .sorted _ | .sortedByField _ | .sortedBy _ => .sorted
  | .peek _ => .peek
  | .limit _ => .limit
  | .skip _ => .skip
  | .unordered => .unordered

/-- The predicate that a stage filters by. -/
def predicate? : Stage Note α → Option Predicate
  | .filter predicate => some predicate
  | _ => none

/-- The sort order that a stage sorts by. -/
def order? : Stage Note α → Option SortOrder
  | .sortedByField order => some order
  | _ => none

/-- The numbers that a stage specializes to. -/
def target? : Stage Note α → Option NumericTarget
  | .mapToNumeric target => some target
  | _ => none

/-- Whether a stage notes elements. -/
def isPeek : Stage Note α → Bool
  | .peek _ => true
  | _ => false

/-- Whether a stage gives up the order. -/
def isUnordered : Stage Note α → Bool
  | .unordered => true
  | _ => false

/-- The flow that a stage makes of another. -/
def run [Entity ρ] (flow : Flow Note (Element ρ μ)) :
    Stage Note (Element ρ μ) → Flow Note (Element ρ μ)
  | .filter predicate => flow.filter fun element => element.row?.any predicate.holds
  | .filterBy test => flow.filter test
  | .map image => flow.map image
  | .flatMap images => flow.flatMap images
  | .mapToNumeric _ => flow
  | .distinct sameness => flow.distinct sameness
  | .sorted compare => flow.sorted compare
  | .sortedByField order => flow.sorted (Element.compareRows order.compare)
  | .sortedBy compare => flow.sorted compare
  | .peek note => flow.peek note
  | .limit count => flow.take count.toNat
  | .skip count => flow.drop count.toNat
  | .unordered => flow

/-- The flow that stages make of another, one after the other. -/
def runAll [Entity ρ] (stages : List (Stage Note (Element ρ μ)))
    (flow : Flow Note (Element ρ μ)) : Flow Note (Element ρ μ) :=
  stages.foldl run flow

end Stage

end Pushdown
