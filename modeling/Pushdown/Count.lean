/-! # Counts

Offsets, limits and totals are 64-bit counts. A sum stops at the largest count and a
difference stops at zero.
-/

namespace Pushdown

/-- A number of rows or elements. -/
abbrev Count := UInt64

namespace Count

/-- The largest count. -/
def largest : Nat :=
  UInt64.size - 1

/-- A number as a count, or the largest count when it is too large. -/
def ofNat (number : Nat) : Count :=
  UInt64.ofNat (min number largest)

/-- Sum, at most the largest count. -/
def plus (left right : Count) : Count :=
  ofNat (left.toNat + right.toNat)

/-- Difference, at least zero. -/
def minus (left right : Count) : Count :=
  ofNat (left.toNat - right.toNat)

/-- Sum of a list, at most the largest count. -/
def sum (counts : List Count) : Count :=
  counts.foldl plus 0

end Count

end Pushdown
