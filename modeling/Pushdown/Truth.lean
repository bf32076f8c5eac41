/-! # Three-valued results

A condition on a row holds, fails, or is unknown. Unknown results come from absent
values and from values that do not compare. A conjunction fails as soon as one member
fails and a disjunction holds as soon as one member holds, whatever is unknown beside it.
-/

namespace Pushdown

/-- A truth value; the unknown one is `none`. -/
abbrev Truth := Option Bool

namespace Truth

/-- Complement; the unknown stays unknown. -/
def not (result : Truth) : Truth :=
  result.map (!·)

/-- Conjunction of two results. -/
def and : Truth → Truth → Truth
  | some false, _ => some false
  | _, some false => some false
  | some true, some true => some true
  | _, _ => none

/-- Disjunction of two results. -/
def or : Truth → Truth → Truth
  | some true, _ => some true
  | _, some true => some true
  | some false, some false => some false
  | _, _ => none

/-- Looks for an answer among those of elements, from left to right. The first that is found
decides at once; if there is none, it matters whether an answer has been unknown. -/
def seek {α : Type} (sought : Bool) (answer : α → Truth) (unknown : Bool) : List α → Truth
  | [] => if unknown then none else some !sought
  | element :: rest =>
      match answer element with
      | some found => if found = sought then some sought else seek sought answer unknown rest
      | none => seek sought answer true rest

/-- Conjunction of a list: a failure decides, then an unknown. -/
def all (results : List Truth) : Truth :=
  seek false id false results

/-- Disjunction of a list: a success decides, then an unknown. -/
def any (results : List Truth) : Truth :=
  seek true id false results

/-- Whether a result definitely holds. -/
def holds (result : Truth) : Bool :=
  result == some true

end Truth

end Pushdown
