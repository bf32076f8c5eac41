import Pushdown.Description.Conditions
import Pushdown.RowStream

/-! # Descriptions of pipelines, runs and streams

Functions have no text of their own; a stage that holds one shows that it does.
-/

namespace Pushdown

variable {ρ κ ν μ Note α : Type}

/-- The description of a stage that holds a function. -/
def closureOf (name : String) : Description :=
  .tuple name [.word "<closure>"]

instance : Describe (Stage Note α) :=
  ⟨fun stage =>
    match stage with
    | .filter predicate => .tuple "Filter" [describe predicate]
    | .filterBy _ => closureOf "Filter"
    | .map _ => closureOf "Map"
    | .flatMap _ => closureOf "FlatMap"
    | .mapToNumeric target => .tuple "MapToNumeric" [.word target.name]
    | .distinct _ => .word "Distinct"
    | .sorted _ => .tuple "Sorted" [.word "Natural"]
    | .sortedByField order => .tuple "Sorted" [describe order]
    | .sortedBy _ => closureOf "Sorted"
    | .peek _ => closureOf "Peek"
    | .limit count => .tuple "Limit" [describe count]
    | .skip count => .tuple "Skip" [describe count]
    | .unordered => .word "Unordered"⟩

instance : Describe (Terminal Note α) :=
  ⟨fun terminal => .tuple "TerminalOperation" [.word terminal.kind.name]⟩

instance : Describe (Pipeline Note α) :=
  ⟨fun pipeline => .record "Pipeline"
    [("operations", describe pipeline.stages), ("terminal", describe pipeline.terminal),
      ("parallel", describe pipeline.parallel), ("ordered", describe pipeline.ordered),
      ("close_handlers", describe pipeline.closeHandlers.length),
      ("state", .word pipeline.state.name)]⟩

instance : Describe (Output Note α) :=
  ⟨fun output =>
    match output with
    | .count count => .tuple "Count" [describe count]
    | .boolean result => .tuple "Bool" [describe result]
    | .collection elements => .tuple "Collection" [describe elements.length]
    | output => .tuple "TerminalOutput" [.word output.arity.name]⟩

instance : Describe (QueryAnswer ρ) :=
  ⟨fun answer =>
    match answer with
    | .rows _ => .tuple "Entities" [.word ".."]
    | .counts counts => .tuple "Counts" [describe counts]⟩

instance : Describe Settings :=
  ⟨fun settings => .record "RenderConfig"
    [("pre_optimizers", .list (settings.simplifications.map fun chosen => .word chosen.name)),
      ("merge_strategies", .list (settings.pushRules.map fun rule => .word rule.name)),
      ("count_fast_path", describe settings.countShortcut)]⟩

/-- The description of a source over an entity. -/
def StreamSource.description (ρ : Type) [Entity ρ] (source : StreamSource) : Description :=
  .record "StreamConfiguration"
    [("root", describe (Entity.name ρ)), ("joins", describe source.joins)]

/-- The description of what a run delivers. -/
def Delivery.description (ρ : Type) [Entity ρ] (delivery : Delivery Note α) : Description :=
  .excerpt "RenderResult"
    [("root", if delivery.isCount then .word "Count"
        else .tuple "Entity" [describe (Entity.name ρ)]),
      ("terminal", describe delivery.terminal)]

/-- The description of a runner whose backend has the given description. -/
def Runner.description (backend : Description) (runner : Runner ρ κ ν) : Description :=
  .record "Renderer"
    [("engine", backend), ("config", describe runner.settings),
      ("sink", describe runner.observed)]

instance : Describe Failure.Detail :=
  ⟨fun detail =>
    match detail with
    | .invalidState state => .record detail.name [("state", .word state.name)]
    | .unsupportedPredicate label => .record detail.name [("kind", describe label)]
    | .unsupportedOperation operation => .record detail.name [("operation", describe operation)]
    | .closeHandlers causes => .record detail.name [("failures", describe causes)]⟩

instance : Describe Failure :=
  ⟨fun failure => .record "Error"
    [("class", .word failure.kind.name), ("origin", .word failure.origin.name),
      ("message", describe failure.message), ("detail", describe failure.detail?),
      ("source", describe failure.source?)]⟩

instance [Entity ρ] : Describe (RowStream ρ κ ν μ Note) :=
  ⟨fun stream => .excerpt "QueryStream"
    [("configuration", stream.source.description ρ), ("pipeline", describe stream.pipeline),
      ("failure", describe stream.failure)]⟩

instance : Describe (Cursor Note α) :=
  ⟨fun cursor => .excerpt "StreamIter" [("pipeline", describe cursor.pipeline)]⟩

instance : Describe (BatchCursor Note α) :=
  ⟨fun cursor => .record "Split"
    [("iter", describe cursor.cursor), ("batch", describe cursor.batch),
      ("exhausted", describe cursor.exhausted)]⟩

end Pushdown
