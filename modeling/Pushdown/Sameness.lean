import Std.Data.HashMap

/-! # Sameness

When elements count as the same. A sameness comes with digests, so that an element is
looked for among those with its digest alone.
-/

namespace Pushdown

/-- When elements count as the same, and a digest that the same elements share. -/
structure Sameness (α : Type) where
  same : α → α → Bool
  digest : α → UInt64
  digest_eq : ∀ left right, same left right = true → digest left = digest right

namespace Sameness

variable {α κ : Type}

/-- Elements are the same when their keys are equal. -/
def ofKey [DecidableEq κ] [Hashable κ] (key : α → κ) : Sameness α where
  same left right := decide (key left = key right)
  digest element := hash (key element)
  digest_eq left right equal := by rw [of_decide_eq_true equal]

/-- Elements by their digests. -/
abbrev Seen (α : Type) := Std.HashMap UInt64 (List α)

/-- Whether an element is the same as one of those seen. -/
def isIn (sameness : Sameness α) (element : α) (seen : Seen α) : Bool :=
  (seen.getD (sameness.digest element) []).any (sameness.same · element)

/-- The elements seen with one more. -/
def add (sameness : Sameness α) (element : α) (seen : Seen α) : Seen α :=
  seen.alter (sameness.digest element) fun others => some (element :: others.getD [])

end Sameness

end Pushdown
