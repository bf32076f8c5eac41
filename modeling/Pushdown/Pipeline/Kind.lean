/-! # Kinds of pipeline parts

The vocabulary of pipelines: the states of a pipeline, the actions that change it, the
kinds of stages and terminals, and the shapes of results.
-/

namespace Pushdown

/-- The states of a pipeline. Only an open pipeline takes further parts. -/
inductive Lifecycle where
  | opened
  | linked
  | consumed
  | closed
  deriving DecidableEq

namespace Lifecycle

/-- A new pipeline is open. -/
instance : Inhabited Lifecycle := ⟨.opened⟩

/-- The label of a state in messages. -/
def label : Lifecycle → String
  | .opened => "open"
  | .linked => "linked"
  | .consumed => "consumed"
  | .closed => "closed"

/-- The name of a state. -/
def name : Lifecycle → String
  | .opened => "Open"
  | .linked => "Linked"
  | .consumed => "Consumed"
  | .closed => "Closed"

end Lifecycle

/-- The actions that a pipeline may refuse. -/
inductive Lifecycle.Action where
  | append
  | link
  | setTerminal
  | onClose
  deriving DecidableEq, Inhabited

/-- The wording of an action in messages. -/
def Lifecycle.Action.label : Lifecycle.Action → String
  | .append => "append an operation"
  | .link => "link a numeric specialization"
  | .setTerminal => "set the terminal operation"
  | .onClose => "register a close handler"

/-- The kinds of stages. -/
inductive Stage.Kind where
  | filter
  | map
  | flatMap
  | mapToNumeric
  | distinct
  | sorted
  | peek
  | limit
  | skip
  | unordered
  deriving DecidableEq, Inhabited

/-- The label of a kind of stage. -/
def Stage.Kind.label : Stage.Kind → String
  | .filter => "FILTER"
  | .map => "MAP"
  | .flatMap => "FLAT_MAP"
  | .mapToNumeric => "MAP_TO_NUMERIC"
  | .distinct => "DISTINCT"
  | .sorted => "SORTED"
  | .peek => "PEEK"
  | .limit => "LIMIT"
  | .skip => "SKIP"
  | .unordered => "UNORDERED"

/-- The number types that elements may be turned into, singly or as sequences. -/
inductive NumericTarget where
  | int32
  | int64
  | float64
  | flatInt32
  | flatInt64
  | flatFloat64
  deriving DecidableEq, Inhabited

namespace NumericTarget

/-- All targets. -/
def all : List NumericTarget :=
  [.int32, .int64, .float64, .flatInt32, .flatInt64, .flatFloat64]

/-- The name of a target. -/
def name : NumericTarget → String
  | .int32 => "I32"
  | .int64 => "I64"
  | .float64 => "F64"
  | .flatInt32 => "FlatI32"
  | .flatInt64 => "FlatI64"
  | .flatFloat64 => "FlatF64"

/-- The operation that leads to a target. -/
def operation : NumericTarget → String
  | .int32 => "map_to_i32"
  | .int64 => "map_to_i64"
  | .float64 => "map_to_f64"
  | .flatInt32 => "flat_map_to_i32"
  | .flatInt64 => "flat_map_to_i64"
  | .flatFloat64 => "flat_map_to_f64"

end NumericTarget

/-- The kinds of terminals. -/
inductive Terminal.Kind where
  | forEach
  | forEachOrdered
  | toArray
  | reduce
  | collect
  | min
  | max
  | count
  | anyMatch
  | allMatch
  | noneMatch
  | findFirst
  | findAny
  | iterate
  | split
  deriving DecidableEq, Inhabited

namespace Terminal.Kind

/-- The label of a kind of terminal. -/
def label : Terminal.Kind → String
  | .forEach => "FOR_EACH"
  | .forEachOrdered => "FOR_EACH_ORDERED"
  | .toArray => "TO_ARRAY"
  | .reduce => "REDUCE"
  | .collect => "COLLECT"
  | .min => "MIN"
  | .max => "MAX"
  | .count => "COUNT"
  | .anyMatch => "ANY_MATCH"
  | .allMatch => "ALL_MATCH"
  | .noneMatch => "NONE_MATCH"
  | .findFirst => "FIND_FIRST"
  | .findAny => "FIND_ANY"
  | .iterate => "ITERATE"
  | .split => "SPLIT"

/-- The name of a kind of terminal. -/
def name : Terminal.Kind → String
  | .forEach => "ForEach"
  | .forEachOrdered => "ForEachOrdered"
  | .toArray => "ToArray"
  | .reduce => "Reduce"
  | .collect => "Collect"
  | .min => "Min"
  | .max => "Max"
  | .count => "Count"
  | .anyMatch => "AnyMatch"
  | .allMatch => "AllMatch"
  | .noneMatch => "NoneMatch"
  | .findFirst => "FindFirst"
  | .findAny => "FindAny"
  | .iterate => "Iterate"
  | .split => "Split"

end Terminal.Kind

/-- The shape of a terminal's result. -/
inductive Arity where
  | void
  | single
  | optional
  | collection
  | boolean
  | count
  | sequence
  deriving DecidableEq, Inhabited

/-- The name of an arity. -/
def Arity.name : Arity → String
  | .void => "Void"
  | .single => "Single"
  | .optional => "Optional"
  | .collection => "Collection"
  | .boolean => "Boolean"
  | .count => "Count"
  | .sequence => "Sequence"

end Pushdown
