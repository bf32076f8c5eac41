import Pushdown.Proofs.Flow.Trace

/-! # Flows as lists

What an operation does to the elements of a drained flow, its namesake does to a list. Notes
are passed on: every operation on a drained flow makes the notes of the flow, but a limit,
which makes the first of them and no others.
-/

namespace Pushdown

namespace Sameness

variable {α : Type} (sameness : Sameness α)

/-- The elements of a list that are not the same as one kept before them. -/
def firsts (elements : List α) : List α :=
  elements.eraseDupsBy fun element earlier => sameness.same earlier element

theorem isIn_empty (element : α) : sameness.isIn element ∅ = false := by
  rw [isIn, Std.HashMap.getD_empty]
  rfl

theorem isIn_add (element other : α) (seen : Seen α) :
    sameness.isIn element (sameness.add other seen) =
      (sameness.same other element || sameness.isIn element seen) := by
  rw [isIn, isIn, add, Std.HashMap.getD_alter]
  by_cases met : sameness.digest other = sameness.digest element
  · rw [if_pos (beq_iff_eq.mpr met), met, Std.HashMap.getD_eq_getD_getElem?]
    rfl
  · have differ : sameness.same other element = false := by
      rw [← Bool.not_eq_true]
      intro same
      exact met (sameness.digest_eq other element same)
    rw [if_neg fun same => met (beq_iff_eq.mp same), differ, Bool.false_or]

theorem firsts_cons (element : α) (rest : List α) :
    sameness.firsts (element :: rest) =
      element :: sameness.firsts (rest.filter fun other => !sameness.same element other) := by
  rw [firsts, List.eraseDupsBy_cons, firsts]
  simp

/-- Where elements are the same when they are equal, these are the list without repetitions. -/
theorem firsts_ofKey_id {α : Type} [DecidableEq α] [Hashable α] (elements : List α) :
    (ofKey id).firsts elements = elements.eraseDups := by
  have symmetric : (fun element earlier : α => (ofKey id).same earlier element) =
      fun element earlier => element == earlier := by
    funext element earlier
    exact decide_eq_decide.mpr eq_comm
  rw [firsts, List.eraseDups, symmetric]

end Sameness

namespace Flow

variable {Note α β : Type}

/-! ## Elements -/

theorem elements_prepend (series : Series α) (rest : Unit → Flow Note α) :
    (prepend series rest).elements = series.elements ++ (rest ()).elements := by
  induction series with
  | done => rfl
  | later more hyp => exact hyp ()
  | note entry more hyp => nomatch entry
  | yield element more hyp => exact congrArg (element :: ·) (hyp ())

theorem elements_prependNotes (entries : List Note) (rest : Unit → Flow Note α) :
    (prependNotes entries rest).elements = (rest ()).elements := by
  induction entries with
  | nil => rfl
  | cons entry entries hyp => exact hyp

@[simp]
theorem elements_filter (test : α → Bool) (flow : Flow Note α) :
    (flow.filter test).elements = flow.elements.filter test := by
  induction flow with
  | done => rfl
  | later rest hyp => exact hyp ()
  | note entry rest hyp => exact hyp ()
  | yield element rest hyp =>
      rw [filter, elements, List.filter_cons]
      split
      · exact congrArg (element :: ·) (hyp ())
      · exact hyp ()

@[simp]
theorem elements_map (image : α → β) (flow : Flow Note α) :
    (flow.map image).elements = flow.elements.map image := by
  induction flow with
  | done => rfl
  | later rest hyp => exact hyp ()
  | note entry rest hyp => exact hyp ()
  | yield element rest hyp => exact congrArg (image element :: ·) (hyp ())

@[simp]
theorem elements_flatMap (images : α → Series β) (flow : Flow Note α) :
    (flow.flatMap images).elements =
      flow.elements.flatMap fun element => (images element).elements := by
  induction flow with
  | done => rfl
  | later rest hyp => exact hyp ()
  | note entry rest hyp => exact hyp ()
  | yield element rest hyp =>
      rw [flatMap, elements_prepend, hyp, elements, List.flatMap_cons]

theorem elements_distinctFrom (sameness : Sameness α) (seen : Sameness.Seen α)
    (flow : Flow Note α) :
    (flow.distinctFrom sameness seen).elements =
      sameness.firsts (flow.elements.filter fun element => !sameness.isIn element seen) := by
  induction flow generalizing seen with
  | done => rfl
  | later rest hyp => exact hyp () seen
  | note entry rest hyp => exact hyp () seen
  | yield element rest hyp =>
      rw [distinctFrom, elements]
      by_cases met : sameness.isIn element seen = true
      · rw [if_pos met, List.filter_cons_of_neg (by simp [met])]
        exact hyp () seen
      · rw [if_neg met, List.filter_cons_of_pos (by simp [met]), Sameness.firsts_cons,
          List.filter_filter, elements, hyp]
        simp only [Sameness.isIn_add, Bool.not_or]

@[simp]
theorem elements_distinct (sameness : Sameness α) (flow : Flow Note α) :
    (flow.distinct sameness).elements = sameness.firsts flow.elements := by
  rw [distinct, elements_distinctFrom, List.filter_eq_self.mpr]
  intro element _
  rw [Sameness.isIn_empty]
  rfl

@[simp]
theorem elements_sorted (compare : α → α → Ordering) (flow : Flow Note α) :
    (flow.sorted compare).elements = sortedBy compare flow.elements := by
  rw [sorted, elements, drain_eq, elements_prependNotes, elements_ofList]

@[simp]
theorem elements_peek (note : α → Note) (flow : Flow Note α) :
    (flow.peek note).elements = flow.elements := by
  induction flow with
  | done => rfl
  | later rest hyp => exact hyp ()
  | note entry rest hyp => exact hyp ()
  | yield element rest hyp => exact congrArg (element :: ·) (hyp ())

@[simp]
theorem elements_take (count : Nat) (flow : Flow Note α) :
    (flow.take count).elements = flow.elements.take count := by
  induction flow generalizing count with
  | done => cases count <;> rfl
  | later rest hyp =>
      cases count with
      | zero => rw [take, elements, List.take_zero]
      | succ count => exact hyp () (count + 1)
  | note entry rest hyp =>
      cases count with
      | zero => rw [take, elements, List.take_zero]
      | succ count => exact hyp () (count + 1)
  | yield element rest hyp =>
      cases count with
      | zero => rw [take, elements, List.take_zero]
      | succ count => exact congrArg (element :: ·) (hyp () count)

@[simp]
theorem elements_drop (count : Nat) (flow : Flow Note α) :
    (flow.drop count).elements = flow.elements.drop count := by
  induction flow generalizing count with
  | done => cases count <;> rfl
  | later rest hyp =>
      cases count with
      | zero => rw [drop, List.drop_zero]
      | succ count => exact hyp () (count + 1)
  | note entry rest hyp =>
      cases count with
      | zero => rw [drop, List.drop_zero]
      | succ count => exact hyp () (count + 1)
  | yield element rest hyp =>
      cases count with
      | zero => rw [drop, List.drop_zero]
      | succ count => exact hyp () count

/-! ## Notes -/

theorem notes_prepend (series : Series α) (rest : Unit → Flow Note α) :
    (prepend series rest).notes = (rest ()).notes := by
  induction series with
  | done => rfl
  | later more hyp => exact hyp ()
  | note entry more hyp => nomatch entry
  | yield element more hyp => exact hyp ()

theorem notes_prependNotes (entries : List Note) (rest : Unit → Flow Note α) :
    (prependNotes entries rest).notes = entries ++ (rest ()).notes := by
  induction entries with
  | nil => rfl
  | cons entry entries hyp => exact congrArg (entry :: ·) hyp

@[simp]
theorem notes_filter (test : α → Bool) (flow : Flow Note α) :
    (flow.filter test).notes = flow.notes := by
  induction flow with
  | done => rfl
  | later rest hyp => exact hyp ()
  | note entry rest hyp => exact congrArg (entry :: ·) (hyp ())
  | yield element rest hyp =>
      rw [filter]
      split
      · exact hyp ()
      · exact hyp ()

@[simp]
theorem notes_map (image : α → β) (flow : Flow Note α) :
    (flow.map image).notes = flow.notes := by
  induction flow with
  | done => rfl
  | later rest hyp => exact hyp ()
  | note entry rest hyp => exact congrArg (entry :: ·) (hyp ())
  | yield element rest hyp => exact hyp ()

@[simp]
theorem notes_flatMap (images : α → Series β) (flow : Flow Note α) :
    (flow.flatMap images).notes = flow.notes := by
  induction flow with
  | done => rfl
  | later rest hyp => exact hyp ()
  | note entry rest hyp => exact congrArg (entry :: ·) (hyp ())
  | yield element rest hyp =>
      rw [flatMap, notes_prepend]
      exact hyp ()

@[simp]
theorem notes_distinctFrom (sameness : Sameness α) (seen : Sameness.Seen α)
    (flow : Flow Note α) : (flow.distinctFrom sameness seen).notes = flow.notes := by
  induction flow generalizing seen with
  | done => rfl
  | later rest hyp => exact hyp () seen
  | note entry rest hyp => exact congrArg (entry :: ·) (hyp () seen)
  | yield element rest hyp =>
      rw [distinctFrom]
      split
      · exact hyp () seen
      · exact hyp () _

@[simp]
theorem notes_sorted (compare : α → α → Ordering) (flow : Flow Note α) :
    (flow.sorted compare).notes = flow.notes := by
  rw [sorted, notes, drain_eq, notes_prependNotes, notes_ofList, List.append_nil]

@[simp]
theorem notes_drop (count : Nat) (flow : Flow Note α) : (flow.drop count).notes = flow.notes := by
  induction flow generalizing count with
  | done => cases count <;> rfl
  | later rest hyp =>
      cases count with
      | zero => rw [drop]
      | succ count => exact hyp () (count + 1)
  | note entry rest hyp =>
      cases count with
      | zero => rw [drop]
      | succ count => exact congrArg (entry :: ·) (hyp () (count + 1))
  | yield element rest hyp =>
      cases count with
      | zero => rw [drop]
      | succ count => exact hyp () count

/-- A limit makes the notes up to the last element that it hands out. -/
theorem prefix_notes_take (count : Nat) (flow : Flow Note α) :
    (flow.take count).notes <+: flow.notes := by
  induction flow generalizing count with
  | done => cases count <;> exact List.prefix_rfl
  | later rest hyp =>
      cases count with
      | zero => exact List.nil_prefix
      | succ count => exact hyp () (count + 1)
  | note entry rest hyp =>
      cases count with
      | zero => exact List.nil_prefix
      | succ count => exact (List.prefix_cons_inj entry).mpr (hyp () (count + 1))
  | yield element rest hyp =>
      cases count with
      | zero => exact List.nil_prefix
      | succ count => exact hyp () count

/-- Whoever asks for more elements than there are meets all notes. -/
theorem notes_take_of_length_lt {count : Nat} {flow : Flow Note α}
    (more : flow.elements.length < count) : (flow.take count).notes = flow.notes := by
  induction flow generalizing count with
  | done => cases count <;> rfl
  | later rest hyp =>
      cases count with
      | zero => exact absurd more (Nat.not_lt_zero _)
      | succ count => exact hyp () more
  | note entry rest hyp =>
      cases count with
      | zero => exact absurd more (Nat.not_lt_zero _)
      | succ count => exact congrArg (entry :: ·) (hyp () more)
  | yield element rest hyp =>
      cases count with
      | zero => exact absurd more (Nat.not_lt_zero _)
      | succ count => exact hyp () (Nat.lt_of_succ_lt_succ more)

/-- Notes that nobody keeps come from nowhere. -/
theorem notes_peek_of_refused {keep : Note → Bool} {note : α → Note}
    (refused : ∀ element, keep (note element) = false) (flow : Flow Note α) :
    (flow.peek note).notes.filter keep = flow.notes.filter keep :=
  notes_congr (trace_peek_of_refused keep refused flow)

/-- Where no other notes are kept, the notes kept of the elements tell all elements. -/
theorem notes_peek_of_kept {keep : Note → Bool} {note : α → Note}
    (kept : ∀ element, keep (note element) = true) {flow : Flow Note α}
    (alone : flow.notes.filter keep = []) :
    (flow.peek note).notes.filter keep = flow.elements.map note := by
  induction flow with
  | done => rfl
  | later rest hyp => exact hyp () alone
  | note entry rest hyp =>
      rw [notes, List.filter_cons] at alone
      split at alone
      · cases alone
      · rename_i refused
        rw [peek, notes, List.filter_cons_of_neg refused]
        exact hyp () alone
  | yield element rest hyp =>
      rw [peek, notes, List.filter_cons_of_pos (kept element)]
      exact congrArg (note element :: ·) (hyp () alone)

/-- A note is made of an element right when it is asked for, so a limit may stand on either
side. -/
theorem take_peek (count : Nat) (note : α → Note) (flow : Flow Note α) :
    (flow.peek note).take count = (flow.take count).peek note := by
  induction flow generalizing count with
  | done => cases count <;> rfl
  | later rest hyp => cases count <;> simp [peek, take, hyp]
  | note entry rest hyp => cases count <;> simp [peek, take, hyp]
  | yield element rest hyp => cases count <;> simp [peek, take, hyp]

/-! ## Demand -/

theorem pullAfter_eq (count : Nat) (flow : Flow Note α) (notes : List Note) (elements : List α) :
    (flow.pullAfter notes elements count).1 =
      ⟨notes.reverse ++ (flow.take count).notes, elements.reverse ++ flow.elements.take count⟩ := by
  induction flow generalizing count notes elements with
  | done => cases count <;> simp [pullAfter, take, Flow.notes, Flow.elements]
  | later rest hyp => cases count <;> simp [pullAfter, take, Flow.notes, Flow.elements, hyp]
  | note entry rest hyp => cases count <;> simp [pullAfter, take, Flow.notes, Flow.elements, hyp]
  | yield element rest hyp => cases count <;> simp [pullAfter, take, Flow.notes, Flow.elements, hyp]

/-- Pulls hand out the first elements, with the notes that a limit to so many would make. -/
theorem pullMany_eq (count : Nat) (flow : Flow Note α) :
    (flow.pullMany count).1 = ⟨(flow.take count).notes, flow.elements.take count⟩ :=
  pullAfter_eq count flow [] []

/-- How often another element is asked for by whoever has met some, the latest first, while a
list of others is handed out. -/
def asked (asks : List α → Bool) (met : List α) : List α → Nat
  | [] => if asks met then 1 else 0
  | element :: rest => if asks met then asked asks (element :: met) rest + 1 else 0

theorem asked_of_not {asks : List α → Bool} {met : List α} (content : ¬asks met = true)
    (elements : List α) : asked asks met elements = 0 := by
  cases elements with
  | nil => exact if_neg content
  | cons element rest => exact if_neg content

theorem exists_asked_eq_succ {asks : List α → Bool} {met : List α} (wants : asks met = true)
    (elements : List α) : ∃ more, asked asks met elements = more + 1 := by
  cases elements with
  | nil => exact ⟨0, if_pos wants⟩
  | cons element rest => exact ⟨_, if_pos wants⟩

theorem gatherAfter_eq {asks : List α → Bool} {met : List α} (wants : asks met = true)
    (notes : List Note) (flow : Flow Note α) :
    flow.gatherAfter asks notes met =
      (flow.pullAfter notes met (asked asks met flow.elements)).1 := by
  induction flow generalizing notes met with
  | done => rw [elements, asked, if_pos wants, gatherAfter, pullAfter]
  | later rest hyp =>
      obtain ⟨more, asked⟩ := exists_asked_eq_succ wants (rest ()).elements
      rw [gatherAfter, hyp () wants, elements, asked, pullAfter]
  | note entry rest hyp =>
      obtain ⟨more, asked⟩ := exists_asked_eq_succ wants (rest ()).elements
      rw [gatherAfter, hyp () wants, elements, asked, pullAfter]
  | yield element rest hyp =>
      rw [gatherAfter, elements, asked, if_pos wants, pullAfter]
      by_cases wants' : asks (element :: met) = true
      · rw [if_pos wants', hyp () wants']
      · rw [if_neg wants', asked_of_not wants', pullAfter]

/-- Gathering is pulling as many elements as are asked for. -/
theorem gather_eq (asks : List α → Bool) (flow : Flow Note α) :
    flow.gather asks = (flow.pullMany (asked asks [] flow.elements)).1 := by
  unfold gather
  by_cases wants : asks [] = true
  · rw [if_pos wants, gatherAfter_eq wants, pullMany]
  · rw [if_neg wants, asked_of_not wants, pullMany, pullAfter]
    rfl

theorem pull_eq (flow : Flow Note α) :
    flow.pull.1 = ⟨(flow.take 1).notes, flow.elements.head?⟩ := by
  change (flow.pullMany 1).1.map List.head? = _
  rw [pullMany_eq, Noted.map]
  cases flow.elements <;> rfl

/-- The first of the sorted elements is met with all notes. -/
theorem pull_sorted (compare : α → α → Ordering) (flow : Flow Note α) :
    (flow.sorted compare).pull.1 = ⟨flow.notes, (sortedBy compare flow.elements).head?⟩ := by
  have before (entries : List Note) (elements : List α) :
      ((prependNotes entries fun _ => ofList elements).take 1).notes = entries := by
    induction entries with
    | nil =>
        cases elements with
        | nil => rfl
        | cons element rest => cases rest <;> rfl
    | cons entry rest hyp => exact congrArg (entry :: ·) hyp
  have met : ((flow.sorted compare).take 1).notes = flow.notes := by
    rw [sorted, take, notes, drain_eq]
    exact before flow.notes (sortedBy compare flow.elements)
  rw [pull_eq, met, elements_sorted]

/-- The next element that passes a test is met with the notes of all elements up to it, or of
all there are. -/
theorem notes_take_one_filter (test : α → Bool) (flow : Flow Note α) :
    ((flow.filter test).take 1).notes =
      (flow.take (flow.elements.findIdx test + 1)).notes := by
  induction flow with
  | done => rfl
  | later rest hyp => exact hyp ()
  | note entry rest hyp => exact congrArg (entry :: ·) (hyp ())
  | yield element rest hyp =>
      rw [filter, elements, List.findIdx_cons]
      by_cases passes : test element = true
      · rw [if_pos passes, passes]
        simp [take, notes]
      · rw [if_neg passes, Bool.eq_false_iff.mpr passes]
        exact hyp ()

/-! ## Filters in a row -/

theorem filter_true (flow : Flow Note α) : flow.filter (fun _ => true) = flow := by
  induction flow with
  | done => rfl
  | later rest hyp => simp only [filter, hyp]
  | note entry rest hyp => simp only [filter, hyp]
  | yield element rest hyp => simp only [filter, hyp, if_true]

/-- An element that fails the first test is one step without an element, as is one that fails
the second. -/
theorem filter_filter (test test' : α → Bool) (flow : Flow Note α) :
    (flow.filter test).filter test' = flow.filter fun element => test element && test' element := by
  induction flow with
  | done => rfl
  | later rest hyp => simp only [filter, hyp]
  | note entry rest hyp => simp only [filter, hyp]
  | yield element rest hyp =>
      by_cases passes : test element = true
      · simp only [filter, passes, if_true, Bool.true_and, hyp]
      · simp only [filter, passes, Bool.false_eq_true, if_false, Bool.false_and, hyp]

end Flow

end Pushdown
