import Pushdown.Proofs.Value.Comparison

/-! # The order of values in a sort

The order in which values are sorted is a total preorder on all values, lists of mixed
families at any depth included. Its transitivity is carried by one equation: while neither
of two orders descends, the first that is not equal is the order across both. Such
equations pass through the family, then the values of one family, and item by item
through lists.
-/

namespace Pushdown

namespace Value

/-! ## Orders that chain -/

/-- While neither of two orders descends, the first that is not equal is the order across
both. -/
def Chained (first second whole : Ordering) : Prop :=
  first.isLE = true → second.isLE = true → whole = first.then second

namespace Chained

theorem of_transCmp {α : Type} (compare : α → α → Ordering) [Std.TransCmp compare]
    (left middle right : α) :
    Chained (compare left middle) (compare middle right) (compare left right) := by
  intro first second
  cases ascending : compare left middle with
  | lt => exact Std.TransCmp.lt_of_lt_of_isLE ascending second
  | eq => exact Std.TransCmp.congr_left ascending
  | gt => rw [ascending] at first; cases first

/-- Chains join: the second parts need to chain only where the first parts are equal. -/
theorem join {first second whole first' second' whole' : Ordering}
    (heads : Chained first second whole)
    (tails : first = .eq → second = .eq → Chained first' second' whole') :
    Chained (first.then first') (second.then second') (whole.then whole') := by
  intro ascends ascends'
  obtain ⟨low, decided⟩ := Ordering.isLE_then_iff_and.mp ascends
  obtain ⟨low', decided'⟩ := Ordering.isLE_then_iff_and.mp ascends'
  rw [heads low low']
  rcases decided with rfl | tail
  · rfl
  · cases first with
    | lt => rfl
    | gt => cases low
    | eq =>
        rcases decided' with rfl | tail'
        · cases first' with
          | lt => rfl
          | eq => rfl
          | gt => cases tail
        · cases second with
          | lt => cases first' <;> first | rfl | cases tail
          | gt => cases low'
          | eq => exact tails rfl rfl tail tail'

end Chained

/-! ## One family at a time -/

/-- The order of two values of one family. -/
def withinFamily : Value → Value → Ordering
  | .list left, .list right => sortCompareItems left right
  | left, right => (left.compare? right).getD .eq

/-- Families decide first, the order within a family after them. -/
theorem sortCompare_eq (left right : Value) :
    left.sortCompare right =
      (left.family.compare right.family).then (left.withinFamily right) := by
  cases left <;> cases right <;> rfl

theorem withinFamily_of_atom {left : Value} (plain : ∀ items, left ≠ .list items)
    (right : Value) : left.withinFamily right = (left.compare? right).getD .eq := by
  cases left with
  | list items => exact (plain items rfl).elim
  | _ => rfl

theorem withinFamily_of_number {left right : Value} {first second : Number}
    (holdsFirst : left.number? = some first) (holdsSecond : right.number? = some second) :
    left.withinFamily right = first.compare second := by
  have plain : ∀ items, left ≠ .list items := by
    rintro items rfl
    cases holdsFirst
  rw [withinFamily_of_atom plain, compare?_of_number holdsFirst holdsSecond]
  rfl

theorem Family.rank_injective {left right : Family} (same : left.rank = right.rank) :
    left = right := by
  cases left <;> cases right <;> first | rfl | cases same

theorem Family.eq_of_compare {left right : Family} (same : left.compare right = .eq) :
    left = right :=
  rank_injective (Std.LawfulEqOrd.eq_of_compare same)

/-! ## Exchange -/

/-- Lists exchange when their items do. -/
theorem sortCompareItems_swap (items : List Value)
    (each : ∀ item ∈ items, ∀ other : Value,
      other.sortCompare item = (item.sortCompare other).swap) :
    ∀ others, sortCompareItems others items = (sortCompareItems items others).swap := by
  induction items with
  | nil => intro others; cases others <;> rfl
  | cons item rest hyp =>
      intro others
      cases others with
      | nil => rfl
      | cons other others =>
          rw [sortCompareItems, sortCompareItems, Ordering.swap_then,
            each item List.mem_cons_self other,
            hyp (fun item present => each item (List.mem_cons_of_mem _ present)) others]

/-- Exchanging two values reverses their order. -/
theorem sortCompare_swap (left right : Value) :
    right.sortCompare left = (left.sortCompare right).swap := by
  have families (left right : Value) :
      right.family.compare left.family = (left.family.compare right.family).swap :=
    Std.OrientedOrd.eq_swap
  induction left using itemwise generalizing right with
  | atom left plain =>
      rw [sortCompare_eq, sortCompare_eq, Ordering.swap_then, families left right,
        withinFamily_of_atom plain]
      cases decided : left.family.compare right.family with
      | lt => rfl
      | gt => rfl
      | eq =>
          have alike : ∀ items, right ≠ .list items := by
            rintro items rfl
            obtain ⟨items, listed⟩ := eq_list_of_family (Family.eq_of_compare decided)
            exact plain items listed
          rw [withinFamily_of_atom alike, compare?_swap left right]
          cases left.compare? right <;> rfl
  | list items hyp =>
      cases right with
      | list others => exact sortCompareItems_swap items hyp others
      | _ => rfl

/-! ## Transitivity -/

/-- Lists chain when their items do: the first unequal pair of either list decides. -/
theorem sortCompareItems_chained (items : List Value)
    (each : ∀ item ∈ items, ∀ middle right : Value,
      Chained (item.sortCompare middle) (middle.sortCompare right) (item.sortCompare right)) :
    ∀ middles rights, Chained (sortCompareItems items middles)
      (sortCompareItems middles rights) (sortCompareItems items rights) := by
  induction items with
  | nil =>
      rintro (_ | ⟨middle, middles⟩) (_ | ⟨right, rights⟩) first second
      · rfl
      · rfl
      · cases second
      · rfl
  | cons item rest hyp =>
      rintro (_ | ⟨middle, middles⟩) (_ | ⟨right, rights⟩)
      · intro first; cases first
      · intro first; cases first
      · intro first second; cases second
      · exact Chained.join (each item List.mem_cons_self middle right) fun _ _ =>
          hyp (fun item present => each item (List.mem_cons_of_mem _ present)) middles rights

/-- Values without items chain within their family. -/
theorem withinFamily_chained {left middle right : Value} (plain : ∀ items, left ≠ .list items)
    (same : left.family = middle.family) (same' : middle.family = right.family) :
    Chained (left.withinFamily middle) (middle.withinFamily right)
      (left.withinFamily right) := by
  cases family : left.family with
  | null =>
      obtain rfl := eq_null_of_family family
      obtain rfl := eq_null_of_family (same ▸ family)
      obtain rfl := eq_null_of_family (same' ▸ same ▸ family)
      exact fun _ _ => rfl
  | bool =>
      obtain ⟨first, rfl⟩ := eq_bool_of_family family
      obtain ⟨second, rfl⟩ := eq_bool_of_family (same ▸ family)
      obtain ⟨third, rfl⟩ := eq_bool_of_family (same' ▸ same ▸ family)
      exact .of_transCmp Ord.compare first second third
  | numeric =>
      obtain ⟨first, holdsFirst⟩ := number_of_family family
      obtain ⟨second, holdsSecond⟩ := number_of_family (same ▸ family)
      obtain ⟨third, holdsThird⟩ := number_of_family (same' ▸ same ▸ family)
      rw [withinFamily_of_number holdsFirst holdsSecond,
        withinFamily_of_number holdsSecond holdsThird,
        withinFamily_of_number holdsFirst holdsThird]
      exact .of_transCmp Number.compare first second third
  | textual =>
      obtain ⟨first, rfl⟩ := eq_text_of_family family
      obtain ⟨second, rfl⟩ := eq_text_of_family (same ▸ family)
      obtain ⟨third, rfl⟩ := eq_text_of_family (same' ▸ same ▸ family)
      exact .of_transCmp Ord.compare first second third
  | collection =>
      obtain ⟨items, listed⟩ := eq_list_of_family family
      exact (plain items listed).elim

/-- The order of any three values chains. -/
theorem sortCompare_chained (left middle right : Value) :
    Chained (left.sortCompare middle) (middle.sortCompare right) (left.sortCompare right) := by
  have families (left middle right : Value) : Chained (left.family.compare middle.family)
      (middle.family.compare right.family) (left.family.compare right.family) :=
    .of_transCmp Ord.compare left.family.rank middle.family.rank right.family.rank
  induction left using itemwise generalizing middle right with
  | atom left plain =>
      simp only [sortCompare_eq]
      exact (families left middle right).join fun same same' =>
        withinFamily_chained plain (Family.eq_of_compare same) (Family.eq_of_compare same')
  | list items hyp =>
      simp only [sortCompare_eq]
      refine (families (.list items) middle right).join fun same same' => ?_
      obtain ⟨middles, rfl⟩ := eq_list_of_family (Family.eq_of_compare same).symm
      obtain ⟨rights, rfl⟩ := eq_list_of_family (Family.eq_of_compare same').symm
      exact sortCompareItems_chained items hyp middles rights

instance : Std.TransCmp sortCompare where
  eq_swap := sortCompare_swap _ _
  isLE_trans := by
    intro left middle right first second
    rw [sortCompare_chained left middle right first second]
    exact Ordering.isLE_then_iff_and.mpr ⟨first, .inr second⟩

/-- **Sorting orders all values by a total preorder.** A value equals itself, exchanging
two values reverses their order, and an ascent across two steps is an ascent, level only
when both steps are. -/
theorem sortCompare_preorder (first second third : Value) :
    first.sortCompare first = .eq ∧
      second.sortCompare first = (first.sortCompare second).swap ∧
      (first.sortCompare second ≠ .gt → second.sortCompare third ≠ .gt →
        first.sortCompare third ≠ .gt ∧
          (first.sortCompare third = .eq →
            first.sortCompare second = .eq ∧ second.sortCompare third = .eq)) := by
  refine ⟨Std.ReflCmp.compare_self, sortCompare_swap first second, ?_⟩
  intro ascends ascends'
  have chain := sortCompare_chained first second third
    (Ordering.isLE_iff_ne_gt.mpr ascends) (Ordering.isLE_iff_ne_gt.mpr ascends')
  rw [chain]
  constructor
  · cases decided : first.sortCompare second with
    | lt => exact nofun
    | eq => exact ascends'
    | gt => exact (ascends decided).elim
  · exact Ordering.then_eq_eq.mp

/-- Around `2 ^ 53`, where not every integer is a binary64 number: a float and an unsigned
integer of one value, then the next integer, each in a list. -/
theorem sortCompare_preorder_lists :
    let first : Value := .list [.float ⟨0x4340000000000000, by decide, by decide⟩, .null]
    let second : Value := .list [.uint 9007199254740992, .null]
    let third : Value := .list [.int 9007199254740993]
    first.sortCompare second ≠ .gt ∧ second.sortCompare third ≠ .gt ∧
      first.sortCompare third ≠ .gt := by
  intro first second third
  have level : first.sortCompare second ≠ .gt := by decide
  have ascent : second.sortCompare third ≠ .gt := by decide
  exact ⟨level, ascent, ((sortCompare_preorder first second third).2.2 level ascent).1⟩

end Value

end Pushdown
