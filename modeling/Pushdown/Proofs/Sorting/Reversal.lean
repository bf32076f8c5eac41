import Pushdown.Proofs.Record
import Pushdown.Proofs.Sorting.TieGroups

/-! # Reversed orders

Reversing an order turns the direction of each key and leaves nulls at their end. The key that tells
two rows apart is the same for both orders; it answers the opposite where it finds two values, and
the same where it finds only one. So a reversed order lists no row in the opposite place: rows that
tie stay as they stood, and only where no row lacks a key do the groups of such rows turn round.
-/

namespace Pushdown

namespace SortKey

theorem reverse_reverse (key : SortKey) : key.reverse.reverse = key := by
  obtain ⟨field, direction, nulls⟩ := key
  cases direction <;> rfl

/-- A reversed key turns the order of two values, and leaves nulls where they are. -/
theorem compareValues_reverse (key : SortKey) (left right : Value) :
    key.reverse.compareValues left right =
      if left.isNull = right.isNull then (key.compareValues left right).swap
      else key.compareValues left right := by
  obtain ⟨field, direction, nulls⟩ := key
  unfold compareValues
  cases left.isNull <;> cases right.isNull
  case false.false =>
    cases direction with
    | ascending => rfl
    | descending => exact Ordering.swap_swap.symm
  all_goals rfl

variable {ρ : Type} [Entity ρ]

theorem compare_reverse (key : SortKey) (left right : ρ) :
    key.reverse.compare left right =
      if key.lacks left = key.lacks right then (key.compare left right).swap
      else key.compare left right := by
  rw [lacks_eq, lacks_eq]
  exact key.compareValues_reverse _ _

/-- Rows that lack a key tie on it. -/
theorem compare_of_lacks {key : SortKey} {left right : ρ} (lacking : key.lacks left = true)
    (lacking' : key.lacks right = true) : key.compare left right = .eq := by
  rw [lacks_eq] at lacking lacking'
  unfold compare compareValues
  rw [lacking, lacking']

/-- A reversed key tells the same rows apart. -/
theorem compare_reverse_eq_iff (key : SortKey) (left right : ρ) :
    key.reverse.compare left right = .eq ↔ key.compare left right = .eq := by
  rw [compare_reverse]
  split
  · exact Ordering.swap_eq_eq
  · rfl

/-- The first of several keys that tells two rows apart. -/
def deciding? (keys : List SortKey) (left right : ρ) : Option SortKey :=
  keys.find? fun key => key.compare left right != .eq

theorem deciding?_eq_some {keys : List SortKey} {left right : ρ} {key : SortKey}
    (decided : deciding? keys left right = some key) :
    key ∈ keys ∧ key.compare left right ≠ .eq := by
  unfold deciding? at decided
  exact ⟨List.mem_of_find?_eq_some decided, by simpa using List.find?_some decided⟩

/-- The deciding key answers for all keys. -/
theorem compareBy_eq (keys : List SortKey) (left right : ρ) :
    compareBy keys left right =
      ((deciding? keys left right).map fun key => key.compare left right).getD .eq := by
  induction keys with
  | nil => rfl
  | cons key rest hyp =>
      rw [compareBy_cons, compareLex, hyp]
      unfold deciding?
      cases order : key.compare left right <;> simp [order]

/-- Reversed keys have the reversed key decide. -/
theorem deciding?_reverse (keys : List SortKey) (left right : ρ) :
    deciding? (keys.map reverse) left right = (deciding? keys left right).map reverse := by
  have same : (fun key : SortKey => key.compare left right != .eq) ∘ reverse =
      fun key => key.compare left right != .eq := by
    funext key
    rw [Function.comp_apply, Bool.eq_iff_iff, bne_iff_ne, bne_iff_ne, ne_eq, ne_eq,
      compare_reverse_eq_iff]
  unfold deciding?
  rw [List.find?_map, same]

end SortKey

namespace SortOrder

variable {ρ : Type} [Entity ρ]

theorem reversed_reversed (order : SortOrder) : order.reversed.reversed = order := by
  obtain ⟨first, rest⟩ := order
  have turned : SortKey.reverse ∘ SortKey.reverse = id := funext SortKey.reverse_reverse
  simp only [reversed, SortKey.reverse_reverse, List.map_map, turned, List.map_id]

theorem keys_reversed (order : SortOrder) :
    order.reversed.keys = order.keys.map SortKey.reverse := rfl

/-- Either no key tells two rows apart, or the same key answers in an order and, reversed, in the
reversed order. -/
theorem compare_cases (order : SortOrder) (left right : ρ) :
    (order.compare left right = .eq ∧ order.reversed.compare left right = .eq) ∨
      ∃ key, SortKey.deciding? order.keys left right = some key ∧
        order.compare left right = key.compare left right ∧
        order.reversed.compare left right = key.reverse.compare left right := by
  have whole := SortKey.compareBy_eq order.keys left right
  have whole' := SortKey.compareBy_eq order.reversed.keys left right
  rw [keys_reversed, SortKey.deciding?_reverse, Option.map_map] at whole'
  cases decided : SortKey.deciding? order.keys left right with
  | none =>
      rw [decided] at whole whole'
      exact .inl ⟨whole, whole'⟩
  | some key =>
      rw [decided] at whole whole'
      exact .inr ⟨key, rfl, whole, whole'⟩

theorem compare_reversed_eq_iff (order : SortOrder) (left right : ρ) :
    order.reversed.compare left right = .eq ↔ order.compare left right = .eq := by
  rcases order.compare_cases left right with ⟨level, level'⟩ | ⟨key, -, answer, answer'⟩
  · rw [level, level']
  · rw [answer, answer']
    exact key.compare_reverse_eq_iff left right

/-- A reversed order answers the same where one row lacks the deciding key, and the opposite where
none does. -/
theorem compare_reversed_of_ne (order : SortOrder) {left right : ρ}
    (apart : order.compare left right ≠ .eq) :
    ∃ key, SortKey.deciding? order.keys left right = some key ∧
      ((key.lacks left ≠ key.lacks right ∧
          order.reversed.compare left right = order.compare left right) ∨
        (key.lacks left = false ∧ key.lacks right = false ∧
          order.reversed.compare left right = (order.compare left right).swap)) := by
  rcases order.compare_cases left right with ⟨level, -⟩ | ⟨key, decided, answer, answer'⟩
  · exact absurd level apart
  · refine ⟨key, decided, ?_⟩
    rw [answer, answer', key.compare_reverse]
    by_cases same : key.lacks left = key.lacks right
    · have found : key.lacks left = false := by
        by_contra lacking
        rw [Bool.not_eq_false] at lacking
        exact apart (answer.trans (SortKey.compare_of_lacks lacking (same ▸ lacking)))
      exact .inr ⟨found, same ▸ found, if_pos same⟩
    · exact .inl ⟨same, if_neg same⟩

/-- On rows that lack no key, a reversed order is the opposite order. -/
theorem compare_reversed_of_found (order : SortOrder) {left right : ρ}
    (found : ∀ key ∈ order.keys, key.lacks left = false)
    (found' : ∀ key ∈ order.keys, key.lacks right = false) :
    order.reversed.compare left right = (order.compare left right).swap := by
  rcases order.compare_cases left right with ⟨level, level'⟩ | ⟨key, decided, answer, answer'⟩
  · rw [level, level']
    rfl
  · have present := (SortKey.deciding?_eq_some decided).1
    rw [answer, answer', key.compare_reverse,
      if_pos ((found key present).trans (found' key present).symm)]

/-- **Reversing an order.** Reversing twice changes nothing, and an order and its reverse find the
same rows level. Other rows are told apart by the same key in both: the reverse gives the same
answer if exactly one of the two rows lacks that key, and the opposite one if neither does. So the
reverse lists rows that lack no key by the tie groups of the order, the last group first, and each
group as the rows stood. -/
theorem reversal_turns_tie_groups (order : SortOrder) :
    order.reversed.reversed = order ∧
      (∀ left right : ρ,
        order.reversed.compare left right = .eq ↔ order.compare left right = .eq) ∧
      (∀ left right : ρ, order.compare left right ≠ .eq →
        ∃ key, SortKey.deciding? order.keys left right = some key ∧
          ((key.lacks left ≠ key.lacks right ∧
              order.reversed.compare left right = order.compare left right) ∨
            (key.lacks left = false ∧ key.lacks right = false ∧
              order.reversed.compare left right = (order.compare left right).swap))) ∧
      ∀ rows : List ρ, (∀ row ∈ rows, ∀ key ∈ order.keys, key.lacks row = false) →
        ∃ groups, TieGroups order.compare rows groups ∧
          sortedBy order.compare rows = groups.flatten ∧
          sortedBy order.reversed.compare rows = groups.reverse.flatten := by
  refine ⟨order.reversed_reversed, order.compare_reversed_eq_iff,
    fun _ _ => order.compare_reversed_of_ne, fun rows found => ?_⟩
  obtain ⟨groups, grouped⟩ := exists_tieGroups order.compare rows
  have turned : TieGroups order.reversed.compare rows groups.reverse :=
    grouped.reverse fun first member second member' =>
      order.compare_reversed_of_found (found first member) (found second member')
  exact ⟨groups, grouped, grouped.sortedBy_eq, turned.sortedBy_eq⟩

/-- Two keys of opposite directions, and two pairs of rows that tie, one of them with numbers of
both kinds. -/
theorem reversal_turns_tie_groups_mixed :
    let order : SortOrder := ⟨⟨"n", .descending, .first⟩, [⟨"s", .ascending, .last⟩]⟩
    let row (id : Int64) (n : Value) (s : String) : Record :=
      ⟨[("id", .int id), ("n", n), ("s", .text s)]⟩
    let rows := [row 1 (.int 1) "x", row 2 (.int 2) "y", row 3 (.uint 1) "x", row 4 (.int 2) "x",
      row 5 (.int 2) "y"]
    let bare : Record := ⟨[("s", .text "x")]⟩
    (∀ row ∈ rows, ∀ key ∈ order.keys, key.lacks row = false) ∧
      (∃ groups, TieGroups order.compare rows groups ∧
        groups.flatten = [row 4 (.int 2) "x", row 2 (.int 2) "y", row 5 (.int 2) "y",
          row 1 (.int 1) "x", row 3 (.uint 1) "x"] ∧
        groups.reverse.flatten = [row 1 (.int 1) "x", row 3 (.uint 1) "x", row 2 (.int 2) "y",
          row 5 (.int 2) "y", row 4 (.int 2) "x"]) ∧
      order.compare bare (row 1 (.int 1) "x") ≠ .eq ∧
      order.reversed.compare bare (row 1 (.int 1) "x") =
        order.compare bare (row 1 (.int 1) "x") := by
  intro order row rows bare
  obtain ⟨-, -, answers, turns⟩ := reversal_turns_tie_groups (ρ := Record) order
  have found : ∀ row ∈ rows, ∀ key ∈ order.keys, key.lacks row = false := by decide
  have apart : order.compare bare (row 1 (.int 1) "x") ≠ .eq := by decide
  obtain ⟨groups, grouped, sorted, turned⟩ := turns rows found
  refine ⟨found, ⟨groups, grouped, ?_, ?_⟩, apart, ?_⟩
  · rw [← sorted, sortedBy_eq_foldr]
    decide +kernel
  · rw [← turned, sortedBy_eq_foldr]
    decide +kernel
  · obtain ⟨key, decided, ⟨-, same⟩ | ⟨held, -, -⟩⟩ := answers _ _ apart
    · exact same
    · cases decided
      cases held

end SortOrder

end Pushdown
