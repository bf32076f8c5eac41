import Pushdown.Value.Order

/-! # Comparing values within a family

Numbers of both forms compare as their units do, though a whole number meets only the whole part of
a binary one and what is behind its point. Values of different families never compare, and values of
one family compare by one underlying order; exchanging the values exchanges the answer.
-/

namespace Pushdown

theorem Binary64.one_pos : (0 : Int) < one := by
  rw [one, Nat.one_shiftLeft]
  exact Int.natCast_pos.mpr (Nat.two_pow_pos 1074)

namespace Number

/-- The exact value in units of the least positive binary64 number. -/
def units : Number → Int
  | .whole value _ => value * Binary64.one
  | .binary value => value.units

variable {value : Int}

/-- Whole numbers lie far inside the 128 bits to which a whole part is cut. -/
theorem compare_saturated (small : Int64.minValue.toInt ≤ value ∧ value < UInt64.size)
    (other : Int) : Ord.compare value (saturated other) = Ord.compare value other := by
  obtain ⟨least, greatest⟩ := small
  rw [Int64.toInt_minValue] at least
  rw [UInt64.size] at greatest
  have below : value < saturated other ↔ value < other := by
    unfold saturated
    omega
  have level : value = saturated other ↔ value = other := by
    unfold saturated
    omega
  simp only [Ord.compare, compareOfLessAndEq, below, level]

/-- What is behind the point is less than one, so it decides only between equal whole parts. -/
theorem compareWhole_eq_units (small : Int64.minValue.toInt ≤ value ∧ value < UInt64.size)
    (x : Binary64) : compareWhole value x = Ord.compare (value * Binary64.one) x.units := by
  have parts : Binary64.one * x.whole + x.behindPoint = x.units := Int.mul_tdiv_add_tmod _ _
  have above : x.behindPoint < Binary64.one := Int.tmod_lt_of_pos _ Binary64.one_pos
  have below : -(Binary64.one : Int) < x.behindPoint := Int.lt_tmod_of_pos _ Binary64.one_pos
  have scale {lesser greater : Int} (apart : lesser < greater) :
      lesser * Binary64.one + Binary64.one ≤ Binary64.one * greater := by
    have next := Int.mul_le_mul_of_nonneg_right (Int.add_one_le_of_lt apart)
      (Int.le_of_lt Binary64.one_pos)
    rwa [Int.add_mul, Int.one_mul, Int.mul_comm greater] at next
  unfold compareWhole
  rw [compare_saturated small]
  rcases Int.lt_trichotomy value x.whole with before | same | behind
  · have apart : value * Binary64.one < x.units := by
      have := scale before
      omega
    rw [Int.compare_eq_lt.mpr before, Int.compare_eq_lt.mpr apart]
    rfl
  · have later : value * Binary64.one < x.units ↔ 0 < x.behindPoint := by
      rw [← parts, ← same, Int.mul_comm]
      omega
    have level : value * Binary64.one = x.units ↔ 0 = x.behindPoint := by
      rw [← parts, ← same, Int.mul_comm]
      omega
    rw [Int.compare_eq_eq.mpr same]
    simp only [Ordering.then, Ord.compare, compareOfLessAndEq, later, level]
  · have apart : x.units < value * Binary64.one := by
      have := scale behind
      rw [Int.mul_comm, Int.mul_comm _ value] at this
      omega
    rw [Int.compare_eq_gt.mpr behind, Int.compare_eq_gt.mpr apart]
    rfl

/-- Numbers compare as their units do. -/
theorem compare_eq_units (left right : Number) :
    left.compare right = Ord.compare left.units right.units := by
  cases left with
  | whole left small =>
      cases right with
      | whole right small' =>
          simp only [compare, units, Ord.compare, compareOfLessAndEq,
            Int.mul_lt_mul_right Binary64.one_pos,
            Int.mul_eq_mul_right_iff (Int.ne_of_gt Binary64.one_pos)]
      | binary right => exact compareWhole_eq_units small right
  | binary left =>
      cases right with
      | whole right small =>
          rw [compare, compareWhole_eq_units small]
          exact Std.OrientedOrd.eq_swap.symm
      | binary right => rfl

instance : Std.TransCmp Number.compare where
  eq_swap := by
    intro left right
    rw [compare_eq_units, compare_eq_units]
    exact Std.OrientedOrd.eq_swap
  isLE_trans := by
    intro left middle right
    rw [compare_eq_units, compare_eq_units, compare_eq_units]
    exact Std.TransOrd.isLE_trans

end Number

namespace Value

/-- What holds of values without items and passes from items to their list holds of every
value. -/
@[elab_as_elim]
theorem itemwise {motive : Value → Prop}
    (atom : ∀ value, (∀ items, value ≠ .list items) → motive value)
    (list : ∀ items, (∀ item ∈ items, motive item) → motive (.list items)) :
    ∀ value, motive value
  | .list items => list items fun item _ => itemwise atom list item
  | .null => atom _ nofun
  | .bool _ => atom _ nofun
  | .int _ => atom _ nofun
  | .uint _ => atom _ nofun
  | .float _ => atom _ nofun
  | .text _ => atom _ nofun

/-! ## Families -/

theorem eq_null_of_family {value : Value} (member : value.family = .null) : value = .null := by
  cases value <;> first | rfl | cases member

theorem eq_bool_of_family {value : Value} (member : value.family = .bool) :
    ∃ truth, value = .bool truth := by
  cases value <;> first | exact ⟨_, rfl⟩ | cases member

theorem number_of_family {value : Value} (member : value.family = .numeric) :
    ∃ number, value.number? = some number := by
  cases value <;> first | exact ⟨_, rfl⟩ | cases member

theorem eq_text_of_family {value : Value} (member : value.family = .textual) :
    ∃ text, value = .text text := by
  cases value <;> first | exact ⟨_, rfl⟩ | cases member

theorem eq_list_of_family {value : Value} (member : value.family = .collection) :
    ∃ items, value = .list items := by
  cases value <;> first | exact ⟨_, rfl⟩ | cases member

/-- Values of different families never compare. -/
theorem compare?_of_family_ne {left right : Value} (differ : left.family ≠ right.family) :
    left.compare? right = none := by
  cases left <;> cases right <;> first | rfl | exact absurd rfl differ

theorem compare?_null (other : Value) : compare? .null other = none := by
  cases other <;> rfl

/-- Two values that hold numbers compare as the numbers do. -/
theorem compare?_of_number {left right : Value} {first second : Number}
    (holdsFirst : left.number? = some first) (holdsSecond : right.number? = some second) :
    left.compare? right = some (first.compare second) := by
  cases left <;> cases holdsFirst <;> cases right <;> cases holdsSecond <;> rfl

/-! ## Exchange -/

/-- Lists exchange when their items do: the deciding pair is the same. -/
theorem compareItems?_swap (items : List Value)
    (each : ∀ item ∈ items, ∀ other : Value,
      other.compare? item = (item.compare? other).map Ordering.swap) :
    ∀ others, compareItems? others items = (compareItems? items others).map Ordering.swap := by
  induction items with
  | nil => intro others; cases others <;> rfl
  | cons item rest hyp =>
      intro others
      cases others with
      | nil => rfl
      | cons other others =>
          have tails := hyp (fun item present => each item (List.mem_cons_of_mem _ present)) others
          rw [compareItems?, compareItems?, each item List.mem_cons_self other]
          rcases item.compare? other with _ | _ | _ | _
          · rfl
          · rfl
          · exact tails
          · rfl

/-- Exchanging the values reverses their order, and an undecided pair stays undecided. -/
theorem compare?_swap (left right : Value) :
    right.compare? left = (left.compare? right).map Ordering.swap := by
  induction left using itemwise generalizing right with
  | atom left plain =>
      by_cases same : left.family = right.family
      · cases family : left.family with
        | null =>
            obtain rfl := eq_null_of_family family
            obtain rfl := eq_null_of_family (same ▸ family)
            rfl
        | bool =>
            obtain ⟨first, rfl⟩ := eq_bool_of_family family
            obtain ⟨second, rfl⟩ := eq_bool_of_family (same ▸ family)
            exact congrArg some Std.OrientedOrd.eq_swap
        | numeric =>
            obtain ⟨first, holdsFirst⟩ := number_of_family family
            obtain ⟨second, holdsSecond⟩ := number_of_family (same ▸ family)
            rw [compare?_of_number holdsFirst holdsSecond, compare?_of_number holdsSecond holdsFirst]
            exact congrArg some Std.OrientedCmp.eq_swap
        | textual =>
            obtain ⟨first, rfl⟩ := eq_text_of_family family
            obtain ⟨second, rfl⟩ := eq_text_of_family (same ▸ family)
            exact congrArg some Std.OrientedOrd.eq_swap
        | collection =>
            obtain ⟨items, listed⟩ := eq_list_of_family family
            exact (plain items listed).elim
      · rw [compare?_of_family_ne same, compare?_of_family_ne (Ne.symm same)]
        rfl
  | list items hyp =>
      cases right with
      | list others => exact compareItems?_swap items hyp others
      | _ => rfl

end Value

end Pushdown
