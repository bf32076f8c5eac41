import Pushdown.Proofs.Value.SortingOrder

/-! # Conditions and sorts agree

Where a condition decides the order of two values, a sort puts them in that order. Decided answers
chain while neither descends, although being decided does not: two lists may meet at a null that
lies behind the places where they part from a third. A value compares with itself exactly when no
null occurs in it.
-/

namespace Pushdown

namespace Value

/-! ## Decided answers -/

/-- Lists compare by their first items, or behind these when they are equal. -/
theorem compareItems?_cons_eq_some_iff {item other : Value} {rest others : List Value}
    {order : Ordering} :
    compareItems? (item :: rest) (other :: others) = some order ↔
      (item.compare? other = some .eq ∧ compareItems? rest others = some order) ∨
        (item.compare? other = some order ∧ order ≠ .eq) := by
  rw [compareItems?]
  cases item.compare? other with
  | none => simp
  | some head => cases head <;> cases order <;> simp

/-- Lists are sorted as they compare when their items are. -/
theorem sortCompareItems_of_decided (items : List Value)
    (each : ∀ item ∈ items, ∀ other order,
      item.compare? other = some order → item.sortCompare other = order) :
    ∀ others order,
      compareItems? items others = some order → sortCompareItems items others = order := by
  induction items with
  | nil =>
      rintro (_ | ⟨other, others⟩) order decided
      · exact Option.some.inj decided
      · exact Option.some.inj decided
  | cons item rest hyp =>
      rintro (_ | ⟨other, others⟩) order decided
      · exact Option.some.inj decided
      · rw [sortCompareItems]
        rcases compareItems?_cons_eq_some_iff.mp decided with ⟨level, behind⟩ | ⟨found, apart⟩
        · rw [each item List.mem_cons_self other .eq level]
          exact hyp (fun item present => each item (List.mem_cons_of_mem _ present))
            others order behind
        · rw [each item List.mem_cons_self other order found]
          cases order with
          | lt => rfl
          | gt => rfl
          | eq => exact (apart rfl).elim

theorem family_of_decided {left right : Value} {order : Ordering}
    (decided : left.compare? right = some order) : left.family = right.family := by
  by_cases same : left.family = right.family
  · exact same
  · rw [compare?_of_family_ne same] at decided
    cases decided

/-- What a condition decides, a sort decides alike. -/
theorem sortCompare_of_decided {left right : Value} {order : Ordering}
    (decided : left.compare? right = some order) : left.sortCompare right = order := by
  induction left using itemwise generalizing right order with
  | atom left plain =>
      have level : right.family.compare right.family = .eq :=
        Std.ReflOrd.compare_self
      rw [sortCompare_eq, family_of_decided decided, level, withinFamily_of_atom plain, decided]
      rfl
  | list items hyp =>
      cases right with
      | list others =>
          exact sortCompareItems_of_decided items (fun item present _ _ => hyp item present) others
            order decided
      | _ => cases decided

/-- Values of one family compare, unless they are null or lists. -/
theorem decided_of_atom {left right : Value} (plain : ∀ items, left ≠ .list items)
    (present : left ≠ .null) (same : left.family = right.family) :
    ∃ order, left.compare? right = some order := by
  cases family : left.family with
  | null => exact absurd (eq_null_of_family family) present
  | bool =>
      obtain ⟨first, rfl⟩ := eq_bool_of_family family
      obtain ⟨second, rfl⟩ := eq_bool_of_family (same ▸ family)
      exact ⟨_, rfl⟩
  | numeric =>
      obtain ⟨first, holdsFirst⟩ := number_of_family family
      obtain ⟨second, holdsSecond⟩ := number_of_family (same ▸ family)
      exact ⟨_, compare?_of_number holdsFirst holdsSecond⟩
  | textual =>
      obtain ⟨first, rfl⟩ := eq_text_of_family family
      obtain ⟨second, rfl⟩ := eq_text_of_family (same ▸ family)
      exact ⟨_, rfl⟩
  | collection =>
      obtain ⟨items, listed⟩ := eq_list_of_family family
      exact (plain items listed).elim

/-! ## Chains -/

/-- While two answers are decided and neither descends, the first that is not equal is the answer
across both. -/
def ChainedAnswers (first second whole : Option Ordering) : Prop :=
  ∀ order order', first = some order → second = some order' →
    order.isLE = true → order'.isLE = true → whole = some (order.then order')

theorem eq_lt_of_isLE {order : Ordering} (low : order.isLE = true) (apart : order ≠ .eq) :
    order = .lt := by
  cases order with
  | lt => rfl
  | eq => exact (apart rfl).elim
  | gt => cases low

/-- Lists chain when their items do. The outer lists part where the first of the two ascents is,
and what lies behind that place is not asked for. -/
theorem compareItems?_chained (items : List Value)
    (each : ∀ item ∈ items, ∀ middle right : Value,
      ChainedAnswers (item.compare? middle) (middle.compare? right) (item.compare? right)) :
    ∀ middles rights, ChainedAnswers (compareItems? items middles) (compareItems? middles rights)
      (compareItems? items rights) := by
  induction items with
  | nil =>
      rintro (_ | ⟨middle, middles⟩) (_ | ⟨right, rights⟩) order order' first second low low'
      · cases first
        exact second
      · cases first
        exact second
      · cases second
        cases low'
      · cases first
        rfl
  | cons item rest hyp =>
      rintro (_ | ⟨middle, middles⟩) (_ | ⟨right, rights⟩) order order' first second low low'
      · cases first
        cases low
      · cases first
        cases low
      · cases second
        cases low'
      have across := each item List.mem_cons_self middle right
      rw [compareItems?_cons_eq_some_iff] at first second ⊢
      rcases first with ⟨level, behind⟩ | ⟨found, apart⟩
      · rcases second with ⟨level', behind'⟩ | ⟨found', apart'⟩
        · have tails := hyp (fun item present => each item (List.mem_cons_of_mem _ present))
            middles rights order order' behind behind' low low'
          exact .inl ⟨across .eq .eq level level' rfl rfl, tails⟩
        · obtain rfl := eq_lt_of_isLE low' apart'
          have whole : order.then .lt = .lt := by
            cases order with
            | lt => rfl
            | eq => rfl
            | gt => cases low
          rw [whole]
          exact .inr ⟨across .eq .lt level found' rfl rfl, nofun⟩
      · obtain rfl := eq_lt_of_isLE low apart
        rcases second with ⟨level', behind'⟩ | ⟨found', apart'⟩
        · exact .inr ⟨across .lt .eq found level' rfl rfl, nofun⟩
        · exact .inr ⟨across .lt order' found found' rfl low', nofun⟩

/-- Decided answers chain. -/
theorem compare?_chained (left middle right : Value) :
    ChainedAnswers (left.compare? middle) (middle.compare? right) (left.compare? right) := by
  induction left using itemwise generalizing middle right with
  | atom left plain =>
      intro order order' first second low low'
      have present : left ≠ .null := by
        rintro rfl
        rw [compare?_null] at first
        cases first
      obtain ⟨whole, decided⟩ := decided_of_atom plain present
        ((family_of_decided first).trans (family_of_decided second))
      have chain := sortCompare_chained left middle right
      rw [sortCompare_of_decided first, sortCompare_of_decided second,
        sortCompare_of_decided decided] at chain
      rw [decided, chain low low']
  | list items hyp =>
      intro order order' first second low low'
      obtain ⟨middles, rfl⟩ := eq_list_of_family (family_of_decided first).symm
      obtain ⟨rights, rfl⟩ := eq_list_of_family (family_of_decided second).symm
      exact compareItems?_chained items hyp middles rights order order' first second low low'

/-! ## Nulls -/

/-- A null occurs in a value, at whatever depth. -/
inductive HoldsNull : Value → Prop where
  | here : HoldsNull .null
  | within (items : List Value) (item : Value) (member : item ∈ items) (inside : HoldsNull item) :
      HoldsNull (.list items)

theorem holdsNull_list_iff {items : List Value} :
    HoldsNull (.list items) ↔ ∃ item ∈ items, item.HoldsNull :=
  ⟨fun | .within _ item member inside => ⟨item, member, inside⟩,
    fun ⟨item, member, inside⟩ => .within items item member inside⟩

/-- Where a value compares with itself, it is equal. -/
theorem compare?_self (value : Value) :
    value.compare? value = none ∨ value.compare? value = some .eq := by
  cases decided : value.compare? value with
  | none => exact .inl rfl
  | some order =>
      have level : value.sortCompare value = .eq := Std.ReflCmp.compare_self
      rw [← sortCompare_of_decided decided, level]
      exact .inr rfl

theorem compareItems?_self_eq_none_iff (items : List Value) :
    compareItems? items items = none ↔ ∃ item ∈ items, item.compare? item = none := by
  induction items with
  | nil => simp [compareItems?]
  | cons item rest hyp =>
      simp only [compareItems?, List.mem_cons, exists_eq_or_imp]
      rcases item.compare?_self with undecided | level
      · rw [undecided]
        exact iff_of_true rfl (.inl rfl)
      · rw [level]
        exact hyp.trans ⟨.inr, fun found => found.resolve_left (Option.some_ne_none _)⟩

/-- A value does not compare with itself exactly when a null occurs in it. -/
theorem compare?_self_eq_none_iff (value : Value) :
    value.compare? value = none ↔ value.HoldsNull := by
  induction value using itemwise with
  | atom value plain =>
      cases value with
      | null => exact iff_of_true rfl .here
      | list items => exact (plain items rfl).elim
      | _ => exact iff_of_false nofun nofun
  | list items hyp =>
      have items_iff : (list items).compare? (list items) = none ↔
          ∃ item ∈ items, item.compare? item = none := compareItems?_self_eq_none_iff items
      rw [items_iff, holdsNull_list_iff]
      constructor
      · rintro ⟨item, member, undecided⟩
        exact ⟨item, member, (hyp item member).mp undecided⟩
      · rintro ⟨item, member, inside⟩
        exact ⟨item, member, (hyp item member).mpr inside⟩

/-! ## Agreement -/

/-- **Conditions and sorts agree.** A decided answer is the order of the values in a sort, and
exchanging the values reverses it. Equal values answer alike, and an ascent behind an ascent is one.
A value equals itself when no null occurs in it, and is otherwise undecided. -/
theorem compare?_agrees (first second third : Value) :
    (∀ order, first.compare? second = some order →
      first.sortCompare second = order ∧ second.compare? first = some order.swap) ∧
      (∀ order, first.compare? second = some .eq → second.compare? third = some order →
        first.compare? third = some order) ∧
      (first.compare? second = some .lt → second.compare? third = some .lt →
        first.compare? third = some .lt) ∧
      (first.compare? first = some .eq ↔ ¬ first.HoldsNull) ∧
      (first.compare? first = none ↔ first.HoldsNull) := by
  have exchanged {left right : Value} {order : Ordering}
      (decided : left.compare? right = some order) : right.compare? left = some order.swap := by
    rw [compare?_swap left right, decided]
    rfl
  refine ⟨fun order decided => ⟨sortCompare_of_decided decided, exchanged decided⟩, ?_, ?_, ?_, ?_⟩
  · intro order level decided
    cases order with
    | lt => exact compare?_chained first second third .eq .lt level decided rfl rfl
    | eq => exact compare?_chained first second third .eq .eq level decided rfl rfl
    | gt =>
        -- Read from behind, the descent is an ascent in front of equal values.
        exact exchanged (compare?_chained third second first .lt .eq (exchanged decided)
          (exchanged level) rfl rfl)
  · exact fun ascends ascends' => compare?_chained first second third .lt .lt ascends ascends' rfl rfl
  · rw [← compare?_self_eq_none_iff]
    rcases first.compare?_self with undecided | level
    · rw [undecided]
      exact iff_of_false nofun fun decided => decided rfl
    · rw [level]
      exact iff_of_true rfl nofun
  · exact compare?_self_eq_none_iff first

/-- Behind a descent an ascent may lead to a value that does not compare with the first. -/
example :
    (list [.int 2, .null]).compare? (list [.int 1]) = some .gt ∧
      (list [.int 1]).compare? (list [.int 2, .int 0]) = some .lt ∧
      (list [.int 2, .null]).compare? (list [.int 2, .int 0]) = none := by
  decide

end Value

end Pushdown
