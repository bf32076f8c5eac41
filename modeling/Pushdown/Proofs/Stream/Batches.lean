import Mathlib.Algebra.Group.Nat.Defs
import Pushdown.Proofs.Flow.Lists
import Pushdown.Proofs.Stream.Cursors

/-! # What a batch cursor hands out

A batch cursor may be asked for single elements, for batches and for all that is left, in any order.
Whoever keeps account of the answers alone knows how the cursor stands: what has been handed out are
the first elements of the flow in their order, and once an answer has told the end they are all of
them. What the cursor keeps, its batch size and its mark of exhaustion, follows the account.
-/

namespace Pushdown

variable {Note α : Type}

/-! ## What pulls leave -/

namespace Flow

theorem elements_pullAfter (count : Nat) (flow : Flow Note α) (notes : List Note)
    (elements : List α) :
    (flow.pullAfter notes elements count).2.elements = flow.elements.drop count := by
  induction flow generalizing count notes elements with
  | done => cases count <;> rfl
  | later rest hyp => cases count <;> simp [pullAfter, Flow.elements, hyp]
  | note entry rest hyp => cases count <;> simp [pullAfter, Flow.elements, hyp]
  | yield element rest hyp => cases count <;> simp [pullAfter, Flow.elements, hyp]

/-- The flow after some pulls has the elements that were not pulled. -/
theorem elements_pullMany (count : Nat) (flow : Flow Note α) :
    (flow.pullMany count).2.elements = flow.elements.drop count :=
  elements_pullAfter count flow [] []

theorem elements_pull (flow : Flow Note α) : flow.pull.2.elements = flow.elements.tail :=
  (elements_pullMany 1 flow).trans List.drop_one

end Flow

namespace BatchCursor

/-! ## Answers -/

/-- What a batch cursor answers to a use. -/
inductive Answer (α : Type) where
  | element (next : Option α)
  | batch (elements : Option (List α))
  | rest (elements : List α)

namespace Answer

/-- The elements that are handed out with an answer. -/
def handed : Answer α → List α
  | element next => next.toList
  | batch elements => elements.getD []
  | rest elements => elements

/-- Whether an answer tells the end, where a batch was to have some size: there is no element, no
batch or too short a batch, or the rest has been handed out. -/
def ends (size : Nat) : Answer α → Bool
  | element next => next.isNone
  | batch none => true
  | batch (some elements) => decide (elements.length < size)
  | rest _ => true

end Answer

/-- The answer to a use, and the cursor after it. -/
def answer (cursor : BatchCursor Note α) : Use → Answer α × BatchCursor Note α
  | .advance => (.element cursor.advance.1.value, cursor.advance.2)
  | .drain => (.rest cursor.drain.1.value, cursor.drain.2)
  | .split => (.batch cursor.split.1.value, cursor.split.2)

/-- The elements that a cursor has not handed out. -/
def left (cursor : BatchCursor Note α) : List α :=
  cursor.cursor.remaining.elements

variable {cursor : BatchCursor Note α}

/-- An exhausted cursor hands nothing out and stays as it is. -/
theorem answer_of_exhausted (exhausted : cursor.exhausted = true) (asked : Use) :
    (cursor.answer asked).1.handed = [] ∧ (cursor.answer asked).2 = cursor := by
  cases asked with
  | advance => simp [answer, advance, exhausted, Answer.handed]
  | drain => simp [answer, drain, exhausted, Answer.handed]
  | split => simp [answer, split, exhausted, Answer.handed]

/-- What a cursor that is not exhausted answers to a use: it hands out the first of what is left,
and it is exhausted if the answer tells the end, with nothing left then. -/
structure Serves (cursor : BatchCursor Note α) (served : Answer α × BatchCursor Note α) : Prop where
  parts : served.1.handed ++ served.2.left = cursor.left
  exhausted : served.2.exhausted = served.1.ends served.2.batch
  finished : served.2.exhausted = true → served.2.left = []

theorem serves_advance (live : cursor.exhausted = false) :
    cursor.Serves (cursor.answer .advance) := by
  have next : cursor.cursor.remaining.pull.1.value = cursor.left.head? := by
    rw [Flow.pull_eq, left]
  have behind : cursor.cursor.remaining.pull.2.elements = cursor.left.tail :=
    Flow.elements_pull _
  simp only [answer, advance, live, Bool.false_eq_true, if_false, Cursor.next, next]
  constructor
  · change cursor.left.head?.toList ++ cursor.cursor.remaining.pull.2.elements = cursor.left
    rw [behind]
    cases cursor.left <;> rfl
  · rfl
  · intro ended
    rw [Option.isNone_iff_eq_none, List.head?_eq_none_iff] at ended
    exact behind.trans (by rw [ended, List.tail_nil])

theorem serves_drain (live : cursor.exhausted = false) : cursor.Serves (cursor.answer .drain) := by
  have all : cursor.cursor.remaining.drain.value = cursor.left := by
    rw [Flow.drain_eq, left]
  simp only [answer, drain, live, Bool.false_eq_true, if_false, Cursor.drain, all]
  exact ⟨List.append_nil _, rfl, fun _ => rfl⟩

/-- The size of the next batch. -/
def size (cursor : BatchCursor Note α) : Nat :=
  min (cursor.batch + step) largest

theorem size_pos (cursor : BatchCursor Note α) : 0 < cursor.size := by
  unfold size largest step
  omega

/-- A batch has the next elements, unless there are none. -/
theorem split_of_live (live : cursor.exhausted = false) :
    cursor.split.1.value =
        (if cursor.left.isEmpty then none else some (cursor.left.take cursor.size)) ∧
      cursor.split.2.left = cursor.left.drop cursor.size ∧
      cursor.split.2.batch = cursor.size ∧
      cursor.split.2.exhausted = decide (cursor.left.length < cursor.size) := by
  have positive := cursor.size_pos
  unfold split size at *
  rw [live, if_neg Bool.false_ne_true]
  -- The size of the batch is not to be worked out.
  generalize min (cursor.batch + step) largest = size at *
  have batch : (cursor.cursor.remaining.pullMany size).1.value = cursor.left.take size := by
    rw [Flow.pullMany_eq, left]
  have behind : (cursor.cursor.remaining.pullMany size).2.elements = cursor.left.drop size :=
    Flow.elements_pullMany _ _
  have short : (cursor.left.take size).length < size ↔ cursor.left.length < size := by
    rw [List.length_take]
    omega
  have nothing : (cursor.left.take size).isEmpty = cursor.left.isEmpty := by
    rw [Bool.eq_iff_iff, List.isEmpty_iff, List.isEmpty_iff, List.take_eq_nil_iff]
    exact or_iff_right (Nat.ne_of_gt positive)
  simp only [Cursor.nextMany, Noted.map, batch, short, nothing, true_and, and_true]
  exact behind

theorem serves_split (live : cursor.exhausted = false) : cursor.Serves (cursor.answer .split) := by
  obtain ⟨batch, behind, same, exhausted⟩ := split_of_live live
  have positive := cursor.size_pos
  have answered : cursor.answer .split = (.batch cursor.split.1.value, cursor.split.2) := rfl
  rw [answered, batch]
  generalize cursor.size = size at *
  constructor
  · dsimp only
    rw [behind]
    by_cases nothing : cursor.left = []
    · rw [nothing, List.drop_nil]
      rfl
    · rw [if_neg (mt List.isEmpty_iff.mp nothing)]
      exact List.take_append_drop size cursor.left
  · dsimp only
    rw [exhausted, same]
    by_cases nothing : cursor.left = []
    · rw [nothing]
      exact decide_eq_true positive
    · rw [if_neg (mt List.isEmpty_iff.mp nothing), Answer.ends, List.length_take]
      refine decide_eq_decide.mpr ?_
      omega
  · intro ended
    dsimp only at ended ⊢
    rw [exhausted, decide_eq_true_iff] at ended
    rw [behind]
    exact List.drop_of_length_le (Nat.le_of_lt ended)

/-- Every use of a cursor that is not exhausted hands out what is left from its front. -/
theorem serves_answer (live : cursor.exhausted = false) (asked : Use) :
    cursor.Serves (cursor.answer asked) := by
  cases asked with
  | advance => exact serves_advance live
  | drain => exact serves_drain live
  | split => exact serves_split live

/-! ## Accounts -/

/-- What can be told of a cursor by its answers alone. -/
structure Account (α : Type) where
  /-- All elements that have been handed out, in order. -/
  handed : List α := []
  /-- How many batches were asked for while the end had not been told. -/
  batches : Nat := 0
  /-- Whether an answer has told the end. -/
  ended : Bool := false

namespace Account

/-- The size that the last of so many batches is to have. -/
def target (batches : Nat) : Nat :=
  min (1024 * batches) (2 ^ 25)

/-- How many batches have been asked for with one more answer. -/
def batchesWith (account : Account α) : Answer α → Nat
  | .batch _ => if account.ended then account.batches else account.batches + 1
  | _ => account.batches

/-- The account with one more answer. -/
def enter (account : Account α) (answer : Answer α) : Account α where
  handed := account.handed ++ answer.handed
  batches := account.batchesWith answer
  ended := account.ended || answer.ends (target (account.batchesWith answer))

end Account

/-- The cursor after several uses, with the account of its answers. -/
def serve (cursor : BatchCursor Note α) (account : Account α) :
    List Use → BatchCursor Note α × Account α
  | [] => (cursor, account)
  | asked :: rest => serve (cursor.answer asked).2 (account.enter (cursor.answer asked).1) rest

/-- An account that agrees with what a cursor over some elements has kept. -/
structure Accounted (elements : List α) (cursor : BatchCursor Note α) (account : Account α) :
    Prop where
  parts : account.handed ++ cursor.left = elements
  batch : cursor.batch = Account.target account.batches
  exhausted : cursor.exhausted = account.ended
  finished : cursor.exhausted = true → cursor.left = []

namespace Accounted

variable {elements : List α} {account : Account α}

/-- The batch size grows by one step for each batch, up to the largest. -/
theorem size_eq (accounted : Accounted elements cursor account) :
    cursor.size = Account.target (account.batches + 1) := by
  unfold size
  rw [accounted.batch]
  unfold Account.target largest step
  omega

theorem batch_answer (accounted : Accounted elements cursor account)
    (live : cursor.exhausted = false) (asked : Use) :
    (cursor.answer asked).2.batch =
      Account.target (account.batchesWith (cursor.answer asked).1) := by
  have open' : account.ended = false := accounted.exhausted.symm.trans live
  cases asked with
  | advance =>
      simp only [answer, advance, live, Bool.false_eq_true, if_false]
      exact accounted.batch
  | drain =>
      simp only [answer, drain, live, Bool.false_eq_true, if_false]
      exact accounted.batch
  | split =>
      obtain ⟨-, -, same, -⟩ := split_of_live live
      have grown : account.batchesWith (cursor.answer .split).1 = account.batches + 1 :=
        if_neg (by rw [open']; exact Bool.false_ne_true)
      rw [grown, ← accounted.size_eq]
      exact same

/-- One more use and the account of its answer still agree. -/
theorem next (accounted : Accounted elements cursor account) (asked : Use) :
    Accounted elements (cursor.answer asked).2 (account.enter (cursor.answer asked).1) := by
  cases stands : cursor.exhausted with
  | true =>
      -- The cursor stands still, and of the account only the number of batches could change.
      obtain ⟨nothing, same⟩ := answer_of_exhausted stands asked
      have told : account.ended = true := accounted.exhausted.symm.trans stands
      have kept : account.batchesWith (cursor.answer asked).1 = account.batches := by
        unfold Account.batchesWith
        split
        · rw [told, if_pos rfl]
        · rfl
      rw [same]
      constructor
      · rw [Account.enter, nothing, List.append_nil]
        exact accounted.parts
      · rw [Account.enter, kept]
        exact accounted.batch
      · rw [Account.enter, told, Bool.true_or]
        exact stands
      · exact accounted.finished
  | false =>
      have served := serves_answer stands asked
      have batch := accounted.batch_answer stands asked
      have open' : account.ended = false := accounted.exhausted.symm.trans stands
      constructor
      · rw [Account.enter, List.append_assoc, served.parts]
        exact accounted.parts
      · exact batch
      · rw [Account.enter, open', Bool.false_or, ← batch]
        exact served.exhausted
      · exact served.finished

/-- Whatever is asked of a cursor, the account of all answers agrees. -/
theorem serve (accounted : Accounted elements cursor account) (uses : List Use) :
    Accounted elements (cursor.serve account uses).1 (cursor.serve account uses).2 := by
  induction uses generalizing cursor account with
  | nil => exact accounted
  | cons asked rest hyp => exact hyp (accounted.next asked)

end Accounted

/-! ## Nothing lost, nothing twice -/

/-- What an account tells of the elements that a cursor hands out. -/
structure Lossless (elements : List α) (cursor : BatchCursor Note α) (account : Account α) :
    Prop where
  /-- What has been handed out are the first elements in their order, -/
  inOrder : account.handed <+: elements
  /-- and all of them once the end has been told; -/
  complete : account.ended = true → account.handed = elements
  /-- from then on nothing is handed out. -/
  silent : account.ended = true → ∀ asked, (cursor.answer asked).1.handed = []
  /-- A batch is as long as its place among the batches tells, or as what is left. -/
  batch : ∀ batch, (cursor.answer .split).1 = .batch (some batch) →
    batch ≠ [] ∧ batch.length =
      min (min (1024 * (account.batches + 1)) (2 ^ 25)) (elements.length - account.handed.length)
  /-- The end has been told just where the cursor is exhausted. -/
  exhausted : cursor.exhausted = account.ended

theorem Accounted.lossless {elements : List α} {account : Account α}
    (accounted : Accounted elements cursor account) : Lossless elements cursor account := by
  have parts := accounted.parts
  constructor
  case inOrder => exact ⟨cursor.left, parts⟩
  case complete =>
    intro ended
    rw [← parts, accounted.finished (accounted.exhausted.trans ended), List.append_nil]
  case silent =>
    intro ended asked
    exact (answer_of_exhausted (accounted.exhausted.trans ended) asked).1
  case batch =>
    intro batch handedOut
    have found : cursor.split.1.value = some batch := Answer.batch.inj handedOut
    cases stands : cursor.exhausted with
    | true =>
        rw [split, stands, if_pos rfl] at found
        cases found
    | false =>
        have positive := cursor.size_pos
        rw [(split_of_live stands).1, Option.ite_none_left_eq_some] at found
        obtain ⟨something, taken⟩ := found
        obtain rfl := Option.some.inj taken
        have remaining : elements.length - account.handed.length = cursor.left.length := by
          rw [← parts, List.length_append, Nat.add_sub_cancel_left]
        refine ⟨fun nothing => ?_, ?_⟩
        · rcases List.take_eq_nil_iff.mp nothing with zero | none
          · exact Nat.ne_of_gt positive zero
          · exact something (List.isEmpty_iff.mpr none)
        · rw [List.length_take, accounted.size_eq, remaining]
          rfl
  case exhausted => exact accounted.exhausted

/-- **Batches lose nothing.** Whatever is asked of a new batch cursor, in whatever order, what it
hands out are the elements of its flow, none lost and none twice. -/
theorem batches_lossless (cursor : Cursor Note α) (uses : List Use) :
    Lossless cursor.remaining.elements (serve ⟨cursor, 0, false⟩ {} uses).1
      (serve ⟨cursor, 0, false⟩ {} uses).2 := by
  have fresh : Accounted cursor.remaining.elements (⟨cursor, 0, false⟩ : BatchCursor Note α) {} :=
    ⟨rfl, rfl, rfl, nofun⟩
  exact (fresh.serve uses).lossless

end BatchCursor

end Pushdown
