import Pushdown.Flow

/-! # Traces of flows

A trace lists what a flow does when it is drained: its elements, and those of its notes that
an observer keeps. What an operation does to a flow is a function of the trace alone, so two
flows with one trace cannot be told apart by anything that is made of operations. Slices of
one flow compose without traces: one limit after another is the smaller limit, and one skip
after another is their sum.
-/

namespace Pushdown

/-- Notes and elements in the order in which they come. -/
abbrev Trace (Note α : Type) := List (Note ⊕ α)

namespace Trace

variable {Note α : Type}

/-- The elements of a trace. -/
def elements (trace : Trace Note α) : List α :=
  trace.filterMap Sum.getRight?

/-- The notes of a trace. -/
def notes (trace : Trace Note α) : List Note :=
  trace.filterMap Sum.getLeft?

/-- A trace up to its element of the given number, and nothing after it. -/
def cut : Nat → Trace Note α → Trace Note α
  | 0, _ | _ + 1, [] => []
  | count + 1, .inl entry :: rest => .inl entry :: cut (count + 1) rest
  | count + 1, .inr element :: rest => .inr element :: cut count rest

/-- A trace without its first elements, though with the notes among them. -/
def shed : Nat → Trace Note α → Trace Note α
  | 0, trace => trace
  | _ + 1, [] => []
  | count + 1, .inl entry :: rest => .inl entry :: shed (count + 1) rest
  | count + 1, .inr _ :: rest => shed count rest

/-- A trace without the elements that repeat one seen before. -/
def fresh (sameness : Sameness α) (seen : Sameness.Seen α) : Trace Note α → Trace Note α
  | [] => []
  | .inl entry :: rest => .inl entry :: fresh sameness seen rest
  | .inr element :: rest =>
      if sameness.isIn element seen then fresh sameness seen rest
      else .inr element :: fresh sameness (sameness.add element seen) rest

@[simp]
theorem shed_note (count : Nat) (entry : Note) (rest : Trace Note α) :
    shed count (.inl entry :: rest) = .inl entry :: shed count rest := by
  cases count with
  | zero => rw [shed, shed]
  | succ count => rw [shed]

/-- Without as many elements as there are, or more, only notes are left. -/
theorem shed_of_length_le {count : Nat} {trace : Trace Note α}
    (reached : trace.elements.length ≤ count) : trace.shed count = trace.notes.map .inl := by
  induction trace generalizing count with
  | nil => cases count <;> rfl
  | cons event rest hyp =>
      cases event with
      | inl entry =>
          rw [shed_note, hyp reached]
          rfl
      | inr element =>
          cases count with
          | zero => exact absurd reached (Nat.not_succ_le_zero _)
          | succ count => exact hyp (Nat.le_of_succ_le_succ reached)

end Trace

namespace Flow

variable {Note α β : Type}

/-- What a flow does when it is drained, with the notes that are kept. -/
def trace (keep : Note → Bool) : Flow Note α → Trace Note α
  | .done => []
  | .later rest => (rest ()).trace keep
  | .note entry rest =>
      if keep entry then .inl entry :: (rest ()).trace keep else (rest ()).trace keep
  | .yield element rest => .inr element :: (rest ()).trace keep

variable (keep : Note → Bool)

/-! ## What a trace holds -/

/-- The elements do not depend on the notes that are kept. -/
theorem elements_trace (flow : Flow Note α) : (flow.trace keep).elements = flow.elements := by
  induction flow with
  | done => rfl
  | later rest hyp => exact hyp ()
  | note entry rest hyp =>
      rw [trace, elements]
      split
      · exact hyp ()
      · exact hyp ()
  | yield element rest hyp => exact congrArg (element :: ·) (hyp ())

theorem notes_trace (flow : Flow Note α) :
    (flow.trace keep).notes = flow.notes.filter keep := by
  induction flow with
  | done => rfl
  | later rest hyp => exact hyp ()
  | note entry rest hyp =>
      rw [trace, notes, List.filter_cons]
      split
      · exact congrArg (entry :: ·) (hyp ())
      · exact hyp ()
  | yield element rest hyp => exact hyp ()

/-- Without notes a trace is the list of the elements. -/
theorem trace_of_refusal (flow : Flow Note α) :
    flow.trace (fun _ => false) = flow.elements.map .inr := by
  induction flow with
  | done => rfl
  | later rest hyp => exact hyp ()
  | note entry rest hyp => exact hyp ()
  | yield element rest hyp => exact congrArg (.inr element :: ·) (hyp ())

/-- Flows with one trace hand out the same elements. -/
theorem elements_congr {keep : Note → Bool} {flow flow' : Flow Note α}
    (same : flow.trace keep = flow'.trace keep) : flow.elements = flow'.elements := by
  rw [← elements_trace keep flow, same, elements_trace]

/-- Flows with one trace make the same notes, as far as they are kept. -/
theorem notes_congr {keep : Note → Bool} {flow flow' : Flow Note α}
    (same : flow.trace keep = flow'.trace keep) :
    flow.notes.filter keep = flow'.notes.filter keep := by
  rw [← notes_trace keep flow, same, notes_trace]

/-- Flows with one trace of all notes are drained to the same. -/
theorem drain_eq_of_trace {flow flow' : Flow Note α}
    (same : flow.trace (fun _ => true) = flow'.trace fun _ => true) : flow.drain = flow'.drain := by
  have notes : flow.notes = flow'.notes := by
    simpa only [List.filter_eq_self.mpr fun _ _ => rfl] using notes_congr same
  rw [drain_eq, drain_eq, elements_congr same, notes]

/-! ## Demand -/

/-- The notes made up to the next element are those that stand before it in the trace. -/
theorem notes_pull (flow : Flow Note α) :
    flow.pull.1.notes.filter keep =
      Trace.notes ((flow.trace keep).takeWhile fun event => event.isLeft) := by
  have pulled (met : List Note) : (flow.pullAfter met [] 1).1.notes.filter keep =
      met.reverse.filter keep ++
        Trace.notes ((flow.trace keep).takeWhile fun event => event.isLeft) := by
    induction flow generalizing met with
    | done => exact (List.append_nil _).symm
    | later rest hyp => exact hyp () met
    | note entry rest hyp =>
        rw [pullAfter, hyp, trace, List.reverse_cons, List.filter_append, List.append_assoc,
          List.filter_cons]
        split <;> rfl
    | yield element rest hyp =>
        rw [pullAfter, pullAfter]
        exact (List.append_nil _).symm
  exact pulled []

theorem value_pull (flow : Flow Note α) : flow.pull.1.value = flow.elements.head? := by
  have pulled (met : List Note) :
      (flow.pullAfter met [] 1).1.value.head? = flow.elements.head? := by
    induction flow generalizing met with
    | done => rfl
    | later rest hyp => exact hyp () met
    | note entry rest hyp => exact hyp () (entry :: met)
    | yield element rest hyp =>
        rw [pullAfter, pullAfter]
        rfl
  exact pulled []

/-! ## Sources -/

@[simp]
theorem trace_ofList (elements : List α) :
    (ofList elements : Flow Note α).trace keep = elements.map .inr := by
  induction elements with
  | nil => rfl
  | cons element rest hyp => exact congrArg (.inr element :: ·) hyp

@[simp]
theorem elements_ofList (elements : List α) :
    (ofList elements : Flow Note α).elements = elements := by
  induction elements with
  | nil => rfl
  | cons element rest hyp => exact congrArg (element :: ·) hyp

@[simp]
theorem notes_ofList (elements : List α) : (ofList elements : Flow Note α).notes = [] := by
  induction elements with
  | nil => rfl
  | cons element rest hyp => exact hyp

theorem trace_prepend (series : Series α) (rest : Unit → Flow Note α) :
    (prepend series rest).trace keep = series.elements.map .inr ++ (rest ()).trace keep := by
  induction series with
  | done => rfl
  | later more hyp => exact hyp ()
  | note entry more hyp => nomatch entry
  | yield element more hyp => exact congrArg (.inr element :: ·) (hyp ())

theorem trace_prependNotes (entries : List Note) (rest : Unit → Flow Note α) :
    (prependNotes entries rest).trace keep =
      (entries.filter keep).map .inl ++ (rest ()).trace keep := by
  induction entries with
  | nil => rfl
  | cons entry entries hyp =>
      rw [prependNotes, trace, hyp, List.filter_cons]
      split <;> rfl

/-! ## Operations on one element at a time -/

theorem trace_filter (test : α → Bool) (flow : Flow Note α) :
    (flow.filter test).trace keep =
      (flow.trace keep).filter (Sum.elim (fun _ => true) test) := by
  induction flow with
  | done => rfl
  | later rest hyp => exact hyp ()
  | note entry rest hyp =>
      rw [filter, trace, trace, hyp]
      split
      · rw [List.filter_cons_of_pos rfl]
      · rfl
  | yield element rest hyp =>
      rw [filter, trace]
      by_cases kept : test element = true
      · rw [if_pos kept, trace, hyp, List.filter_cons_of_pos (by exact kept)]
      · rw [if_neg kept, trace, hyp, List.filter_cons_of_neg (by exact kept)]

theorem trace_map (image : α → β) (flow : Flow Note α) :
    (flow.map image).trace keep = (flow.trace keep).map (Sum.map id image) := by
  induction flow with
  | done => rfl
  | later rest hyp => exact hyp ()
  | note entry rest hyp =>
      rw [map, trace, trace, hyp]
      split <;> rfl
  | yield element rest hyp => exact congrArg (.inr (image element) :: ·) (hyp ())

theorem trace_flatMap (images : α → Series β) (flow : Flow Note α) :
    (flow.flatMap images).trace keep =
      (flow.trace keep).flatMap (Sum.elim (fun entry => [.inl entry])
        fun element => (images element).elements.map .inr) := by
  induction flow with
  | done => rfl
  | later rest hyp => exact hyp ()
  | note entry rest hyp =>
      rw [flatMap, trace, trace, hyp]
      split <;> rfl
  | yield element rest hyp =>
      rw [flatMap, trace_prepend, hyp, trace, List.flatMap_cons]
      rfl

theorem trace_peek (note : α → Note) (flow : Flow Note α) :
    (flow.peek note).trace keep =
      (flow.trace keep).flatMap (Sum.elim (fun entry => [.inl entry])
        fun element =>
          if keep (note element) then [.inl (note element), .inr element] else [.inr element]) := by
  induction flow with
  | done => rfl
  | later rest hyp => exact hyp ()
  | note entry rest hyp =>
      rw [peek, trace, trace, hyp]
      split <;> rfl
  | yield element rest hyp =>
      rw [peek, trace, trace, trace, List.flatMap_cons, hyp, Sum.elim_inr]
      split <;> rfl

/-- Notes that nobody keeps leave no trace. -/
theorem trace_peek_of_refused {note : α → Note}
    (refused : ∀ element, keep (note element) = false) (flow : Flow Note α) :
    (flow.peek note).trace keep = flow.trace keep := by
  induction flow with
  | done => rfl
  | later rest hyp => exact hyp ()
  | note entry rest hyp => rw [peek, trace, trace, hyp]
  | yield element rest hyp =>
      rw [peek, trace, trace, trace, hyp, refused element, if_neg Bool.false_ne_true]

/-! ## Operations that remember -/

theorem trace_distinctFrom (sameness : Sameness α) (seen : Sameness.Seen α)
    (flow : Flow Note α) :
    (flow.distinctFrom sameness seen).trace keep =
      (flow.trace keep).fresh sameness seen := by
  induction flow generalizing seen with
  | done => rfl
  | later rest hyp => exact hyp () seen
  | note entry rest hyp =>
      rw [distinctFrom, trace, trace, hyp]
      split
      · rw [Trace.fresh]
      · rfl
  | yield element rest hyp =>
      rw [distinctFrom, trace, Trace.fresh]
      split
      · rw [trace, hyp]
      · rw [trace, hyp]

/-- Sorting makes all notes before it hands out the first element. -/
theorem trace_sorted (compare : α → α → Ordering) (flow : Flow Note α) :
    (flow.sorted compare).trace keep =
      (flow.notes.filter keep).map .inl ++ (sortedBy compare flow.elements).map .inr := by
  rw [sorted, trace, drain_eq, trace_prependNotes, trace_ofList]

/-- Sorting takes all notes and all elements, so nothing else of a flow matters to it. -/
theorem trace_sorted_congr {keep : Note → Bool} {flow flow' : Flow Note α}
    (same : flow.trace keep = flow'.trace keep) (compare : α → α → Ordering) :
    (flow.sorted compare).trace keep = (flow'.sorted compare).trace keep := by
  rw [trace_sorted, trace_sorted, notes_congr same, elements_congr same]

/-! ## Slices -/

theorem trace_take (count : Nat) (flow : Flow Note α) :
    (flow.take count).trace keep = (flow.trace keep).cut count := by
  induction flow generalizing count with
  | done => cases count <;> rfl
  | later rest hyp =>
      cases count with
      | zero => rw [take, trace, Trace.cut]
      | succ count => exact hyp () (count + 1)
  | note entry rest hyp =>
      cases count with
      | zero => rw [take, trace, Trace.cut]
      | succ count =>
          rw [take, trace, trace, hyp]
          split
          · rw [Trace.cut]
          · rfl
  | yield element rest hyp =>
      cases count with
      | zero => rw [take, trace, Trace.cut]
      | succ count => exact congrArg (.inr element :: ·) (hyp () count)

theorem trace_drop (count : Nat) (flow : Flow Note α) :
    (flow.drop count).trace keep = (flow.trace keep).shed count := by
  induction flow generalizing count with
  | done => cases count <;> rfl
  | later rest hyp =>
      cases count with
      | zero => rw [drop, Trace.shed]
      | succ count => exact hyp () (count + 1)
  | note entry rest hyp =>
      cases count with
      | zero => rw [drop, Trace.shed]
      | succ count =>
          rw [drop, trace, trace, hyp]
          split
          · rw [Trace.shed]
          · rfl
  | yield element rest hyp =>
      cases count with
      | zero => rw [drop, Trace.shed]
      | succ count => exact hyp () count

theorem trace_take_ofList (count : Nat) (elements : List α) :
    ((ofList elements : Flow Note α).take count).trace keep =
      (ofList (elements.take count)).trace keep := by
  induction elements generalizing count with
  | nil => cases count <;> rfl
  | cons element rest hyp =>
      cases count with
      | zero => rw [take, List.take_zero, ofList]
      | succ count => exact congrArg (.inr element :: ·) (hyp count)

theorem trace_drop_ofList (count : Nat) (elements : List α) :
    ((ofList elements : Flow Note α).drop count).trace keep =
      (ofList (elements.drop count)).trace keep := by
  induction elements generalizing count with
  | nil => cases count <;> rfl
  | cons element rest hyp =>
      cases count with
      | zero => rw [drop, List.drop_zero]
      | succ count => exact hyp count

theorem take_take (first second : Nat) (flow : Flow Note α) :
    (flow.take first).take second = flow.take (min first second) := by
  induction flow generalizing first second with
  | done => cases first <;> cases second <;> simp [take]
  | later rest hyp => cases first <;> cases second <;> simp [take, hyp]
  | note entry rest hyp => cases first <;> cases second <;> simp [take, hyp]
  | yield element rest hyp => cases first <;> cases second <;> simp [take, hyp]

theorem drop_drop (first second : Nat) (flow : Flow Note α) :
    (flow.drop first).drop second = flow.drop (first + second) := by
  induction flow generalizing first second with
  | done => cases first <;> cases second <;> simp [drop]
  | later rest hyp => cases first <;> cases second <;> simp [drop, hyp, ← Nat.add_assoc]
  | note entry rest hyp => cases first <;> cases second <;> simp [drop, hyp, ← Nat.add_assoc]
  | yield element rest hyp =>
      cases first <;> cases second <;> simp [drop, hyp, ← Nat.add_assoc, Nat.add_right_comm _ 1]

/-- A skip of all elements leaves the notes, however far it goes. -/
theorem trace_drop_of_length_le {count : Nat} {flow : Flow Note α}
    (reached : flow.elements.length ≤ count) :
    (flow.drop count).trace keep = (flow.notes.filter keep).map .inl := by
  rw [trace_drop, Trace.shed_of_length_le, notes_trace]
  rw [elements_trace]
  exact reached

end Flow

end Pushdown
