import Pushdown.Entity

/-! # Elements

What travels through a pipeline: a row of the root entity, or a value that a stage has
put in its place. Conditions and sort orders on fields concern rows alone: a mapped value
satisfies none of the conditions, and no order tells mapped values apart.
-/

namespace Pushdown

/-- A row or a mapped value. -/
inductive Element (ρ μ : Type) where
  | row (row : ρ)
  | mapped (value : μ)
  deriving DecidableEq, Hashable

namespace Element

variable {ρ μ : Type}

/-- The row that an element is. -/
def row? : Element ρ μ → Option ρ
  | .row entity => some entity
  | .mapped _ => none

/-- An order of rows, taken to elements. -/
def compareRows (compare : ρ → ρ → Ordering) : Element ρ μ → Element ρ μ → Ordering
  | .row left, .row right => compare left right
  | _, _ => .eq

/-- The natural order of elements: rows among rows and mapped values among their like. -/
def natural [Ord ρ] [Ord μ] : Element ρ μ → Element ρ μ → Ordering
  | .row left, .row right => compare left right
  | .mapped left, .mapped right => compare left right
  | _, _ => .eq

end Element

end Pushdown
