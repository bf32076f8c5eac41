import Pushdown.Count

/-! # Windows

A window leaves out an offset and keeps a limited number of rows after it. Skips and
limits that follow one another compose into one window.
-/

namespace Pushdown

/-- An offset and an optional limit. -/
structure Window where
  offset : Count := 0
  limit : Option Count := none
  deriving DecidableEq, Inhabited

namespace Window

/-- The window that keeps every row. -/
def everything : Window := {}

/-- Whether a window may leave out rows. -/
def isBounded (window : Window) : Bool :=
  decide (0 < window.offset) || window.limit.isSome

/-- This window, then a skip. -/
def thenSkip (window : Window) (count : Count) : Window where
  offset := window.offset.plus count
  limit := window.limit.map (·.minus count)

/-- This window, then a limit. -/
def thenLimit (window : Window) (count : Count) : Window where
  offset := window.offset
  limit := some ((window.limit.map (min · count)).getD count)

/-- The part of a list that a window keeps. -/
def apply {α : Type} (window : Window) (rows : List α) : List α :=
  let kept := rows.drop window.offset.toNat
  (window.limit.map fun limit => kept.take limit.toNat).getD kept

end Window

end Pushdown
