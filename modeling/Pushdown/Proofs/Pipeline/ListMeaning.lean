import Pushdown.Proofs.Flow.Lists
import Pushdown.Proofs.Pipeline.StageTraces
import Pushdown.Proofs.Pipeline.TerminalTraces

/-! # What stages and terminals make of lists

The meaning of stages and terminals on lists, where nothing is lazy. Stages run on a flow hand
out what they make of the list of its elements, and a terminal answers as it would for that
list. How much of a flow a terminal asks for is a number that the list tells as well.
-/

namespace Pushdown

namespace Stage

variable {Note ρ μ : Type} [Entity ρ]

/-- What a stage makes of a list. -/
def onList (elements : List (Element ρ μ)) : Stage Note (Element ρ μ) → List (Element ρ μ)
  | .filter predicate => elements.filter fun element => element.row?.any predicate.holds
  | .filterBy test => elements.filter test
  | .map image => elements.map image
  | .flatMap images => elements.flatMap fun element => (images element).elements
  | .distinct sameness => sameness.firsts elements
  | .sorted compare | .sortedBy compare => Pushdown.sortedBy compare elements
  | .sortedByField order => Pushdown.sortedBy (Element.compareRows order.compare) elements
  | .limit count => elements.take count.toNat
  | .skip count => elements.drop count.toNat
  | .mapToNumeric _ | .peek _ | .unordered => elements

/-- Where only equal elements are the same, every element is kept once. -/
theorem onList_distinct [DecidableEq ρ] [Hashable ρ] [DecidableEq μ] [Hashable μ]
    (elements : List (Element ρ μ)) :
    (Stage.distinct (.ofKey id) : Stage Note (Element ρ μ)).onList elements =
      elements.eraseDups :=
  Sameness.firsts_ofKey_id elements

/-- What stages make of a list, from left to right. -/
def onListAll (stages : List (Stage Note (Element ρ μ))) (elements : List (Element ρ μ)) :
    List (Element ρ μ) :=
  stages.foldl onList elements

@[simp]
theorem elements_run (stage : Stage Note (Element ρ μ)) (flow : Flow Note (Element ρ μ)) :
    (stage.run flow).elements = stage.onList flow.elements := by
  cases stage with
  | filter predicate => exact Flow.elements_filter _ flow
  | filterBy test => exact Flow.elements_filter test flow
  | map image => exact Flow.elements_map image flow
  | flatMap images => exact Flow.elements_flatMap images flow
  | mapToNumeric target => rfl
  | distinct sameness => exact Flow.elements_distinct sameness flow
  | sorted compare => exact Flow.elements_sorted compare flow
  | sortedByField order => exact Flow.elements_sorted _ flow
  | sortedBy compare => exact Flow.elements_sorted compare flow
  | peek note => exact Flow.elements_peek note flow
  | limit count => exact Flow.elements_take count.toNat flow
  | skip count => exact Flow.elements_drop count.toNat flow
  | unordered => rfl

@[simp]
theorem elements_runAll (stages : List (Stage Note (Element ρ μ)))
    (flow : Flow Note (Element ρ μ)) :
    (runAll stages flow).elements = onListAll stages flow.elements := by
  induction stages generalizing flow with
  | nil => rfl
  | cons stage rest hyp =>
      rw [runAll_cons, hyp, elements_run]
      rfl

/-- The flow that stages make of a list. -/
def chain (stages : List (Stage Note (Element ρ μ))) (source : List (Element ρ μ)) :
    Flow Note (Element ρ μ) :=
  runAll stages (.later fun _ => .ofList source)

theorem elements_chain (stages : List (Stage Note (Element ρ μ))) (source : List (Element ρ μ)) :
    (chain stages source).elements = onListAll stages source := by
  rw [chain, elements_runAll, Flow.elements, Flow.elements_ofList]

/-! ## Notes that pass through -/

section Passing

variable {keep : Note → Bool}

/-- A stage whose own notes are refused passes on all others, unless it is a limit. -/
theorem notes_run_of_unlimited {stage : Stage Note (Element ρ μ)} (silent : stage.Silent keep)
    (unlimited : stage.kind ≠ .limit) (flow : Flow Note (Element ρ μ)) :
    (stage.run flow).notes.filter keep = flow.notes.filter keep := by
  cases stage with
  | filter predicate => rw [run, Flow.notes_filter]
  | filterBy test => rw [run, Flow.notes_filter]
  | map image => rw [run, Flow.notes_map]
  | flatMap images => rw [run, Flow.notes_flatMap]
  | mapToNumeric target => rfl
  | distinct sameness => rw [run, Flow.distinct, Flow.notes_distinctFrom]
  | sorted compare => rw [run, Flow.notes_sorted]
  | sortedByField order => rw [run, Flow.notes_sorted]
  | sortedBy compare => rw [run, Flow.notes_sorted]
  | peek note => exact Flow.notes_peek_of_refused silent flow
  | limit count => exact absurd rfl unlimited
  | skip count => rw [run, Flow.notes_drop]
  | unordered => rfl

/-- A stage whose own notes are refused passes on the first of the others. -/
theorem prefix_notes_run {stage : Stage Note (Element ρ μ)} (silent : stage.Silent keep)
    (flow : Flow Note (Element ρ μ)) :
    (stage.run flow).notes.filter keep <+: flow.notes.filter keep := by
  by_cases limits : stage.kind = .limit
  · cases stage with
    | limit count => exact (Flow.prefix_notes_take count.toNat flow).filter keep
    | _ => cases limits
  · exact ⟨[], by rw [notes_run_of_unlimited silent limits, List.append_nil]⟩

theorem notes_runAll_of_unlimited {stages : List (Stage Note (Element ρ μ))}
    (silent : ∀ stage ∈ stages, stage.Silent keep)
    (unlimited : ∀ stage ∈ stages, stage.kind ≠ .limit) (flow : Flow Note (Element ρ μ)) :
    (runAll stages flow).notes.filter keep = flow.notes.filter keep := by
  induction stages generalizing flow with
  | nil => rfl
  | cons stage rest hyp =>
      rw [List.forall_mem_cons] at silent unlimited
      rw [runAll_cons, hyp silent.2 unlimited.2, notes_run_of_unlimited silent.1 unlimited.1]

theorem prefix_notes_runAll {stages : List (Stage Note (Element ρ μ))}
    (silent : ∀ stage ∈ stages, stage.Silent keep) (flow : Flow Note (Element ρ μ)) :
    (runAll stages flow).notes.filter keep <+: flow.notes.filter keep := by
  induction stages generalizing flow with
  | nil => exact List.prefix_rfl
  | cons stage rest hyp =>
      rw [List.forall_mem_cons] at silent
      exact (hyp silent.2 _).trans (prefix_notes_run silent.1 flow)

end Passing

end Stage

namespace Terminal

variable {Note α : Type}

/-- The answer of a terminal to a list. -/
def onList (elements : List α) : Terminal Note α → Output Note α
  | .forEach _ | .forEachOrdered _ => .void
  | .toArray => .collection elements
  | .reduce accumulate => .optional (reduce? accumulate elements)
  | .reduceFrom identity accumulate => .single (elements.foldl accumulate identity)
  | .collect asks => .gathered (elements.take (Flow.asked asks [] elements))
  | .min compare => .optional (reduce? (smaller compare) elements)
  | .max compare => .optional (reduce? (larger compare) elements)
  | .count => .count (.ofNat elements.length)
  | .anyMatch test => .boolean (elements.any test)
  | .allMatch test => .boolean (elements.all test)
  | .noneMatch test => .boolean !elements.any test
  | .findFirst | .findAny => .optional elements.head?
  | .iterate | .split => .sequence (.ofList elements)

theorem value_search (test : α → Bool) (flow : Flow Note α) :
    (search test flow).value = flow.elements.find? test := by
  rw [search, Flow.pull_eq, Flow.elements_filter, List.head?_filter]

/-- A terminal answers as for the list of the elements. -/
theorem value_consume (terminal : Terminal Note α) (flow : Flow Note α) :
    (terminal.consume flow).value.Alike (fun _ => false) (terminal.onList flow.elements) := by
  have drained {β : Type} (image : List α → β) :
      (flow.drain.map image).value = image flow.elements := by
    rw [Flow.drain_eq, Noted.map]
  have found {β : Type} (test : α → Bool) (image : Option α → β) :
      ((search test flow).map image).value = image (flow.elements.find? test) :=
    congrArg image (value_search test flow)
  cases terminal with
  | forEach note => exact .same _
  | forEachOrdered note => exact .same _
  | anyMatch test =>
      rw [consume, found, List.isSome_find?]
      exact .same _
  | allMatch test =>
      rw [consume, found, ← Option.not_isSome, List.isSome_find?, List.not_any_eq_all_not]
      simp only [Bool.not_not]
      exact .same _
  | noneMatch test =>
      rw [consume, found, ← Option.not_isSome, List.isSome_find?]
      exact .same _
  | findFirst =>
      rw [consume, Flow.pull_eq]
      exact .same _
  | findAny =>
      rw [consume, Flow.pull_eq]
      exact .same _
  | collect asks =>
      rw [consume, Flow.gather_eq, Flow.pullMany_eq]
      exact .same _
  | iterate => exact .sequence (by rw [Flow.trace_of_refusal, Flow.trace_ofList])
  | split => exact .sequence (by rw [Flow.trace_of_refusal, Flow.trace_ofList])
  | _ =>
      rw [consume, drained]
      exact .same _

/-- Whether a terminal asks for all elements, whatever they are. -/
def exhausts : Terminal Note α → Bool
  | .forEach _ | .forEachOrdered _ | .toArray | .reduce _ | .reduceFrom _ _ | .min _ | .max _
  | .count => true
  | _ => false

/-- How often a terminal asks for an element, if the given ones are there. Whoever wants them
all asks once more, to be told that there are no others. -/
def demand (elements : List α) : Terminal Note α → Nat
  | .anyMatch test | .noneMatch test => elements.findIdx test + 1
  | .allMatch test => (elements.findIdx fun element => !test element) + 1
  | .findFirst | .findAny => 1
  | .collect asks => Flow.asked asks [] elements
  | .iterate | .split => 0
  | _ => elements.length + 1

theorem demand_of_exhausts {terminal : Terminal Note α} (exhausts : terminal.exhausts = true)
    (elements : List α) : terminal.demand elements = elements.length + 1 := by
  cases terminal with
  | _ => first | rfl | cases exhausts

/-- A flow with the notes that a terminal makes of its elements. -/
def attend (flow : Flow Note α) : Terminal Note α → Flow Note α
  | .forEach note | .forEachOrdered note => flow.peek note
  | _ => flow

/-- A terminal meets the notes up to the last element that it asks for. -/
theorem notes_consume (terminal : Terminal Note α) (flow : Flow Note α) :
    (terminal.consume flow).notes =
      ((terminal.attend flow).take (terminal.demand flow.elements)).notes := by
  have drained (flow : Flow Note α) {β : Type} (image : List α → β) :
      (flow.drain.map image).notes = (flow.take (flow.elements.length + 1)).notes := by
    rw [Flow.drain_eq, Noted.map, Flow.notes_take_of_length_lt (Nat.lt_succ_self _)]
  have attended (note : α → Note) {β : Type} (image : List α → β) :
      ((flow.peek note).drain.map image).notes =
        ((flow.peek note).take (flow.elements.length + 1)).notes := by
    rw [drained, Flow.elements_peek]
  have searched {β : Type} (test : α → Bool) (image : Option α → β) :
      ((search test flow).map image).notes =
        (flow.take (flow.elements.findIdx test + 1)).notes := by
    rw [search, Noted.map, Flow.pull_eq, Flow.notes_take_one_filter]
  cases terminal with
  | forEach note => exact attended note _
  | forEachOrdered note => exact attended note _
  | anyMatch test => exact searched test _
  | allMatch test => exact searched _ _
  | noneMatch test => exact searched test _
  | findFirst => exact congrArg Noted.notes flow.pull_eq
  | findAny => exact congrArg Noted.notes flow.pull_eq
  | collect asks =>
      rw [consume, Flow.gather_eq, Flow.pullMany_eq]
      rfl
  | iterate => cases flow <;> rfl
  | split => cases flow <;> rfl
  | _ => exact drained flow _

/-- Whether all notes of a terminal are refused. -/
def Silent (keep : Note → Bool) : Terminal Note α → Prop
  | .forEach note | .forEachOrdered note => ∀ element, keep (note element) = false
  | _ => True

/-- Where its own notes are refused, a terminal meets those of a limit to what it asks for. -/
theorem notes_consume_of_silent {keep : Note → Bool} {terminal : Terminal Note α}
    (silent : terminal.Silent keep) (flow : Flow Note α) :
    (terminal.consume flow).notes.filter keep =
      (flow.take (terminal.demand flow.elements)).notes.filter keep := by
  rw [notes_consume]
  cases terminal with
  | forEach note => rw [attend, Flow.take_peek, Flow.notes_peek_of_refused silent]
  | forEachOrdered note => rw [attend, Flow.take_peek, Flow.notes_peek_of_refused silent]
  | _ => rfl

end Terminal

end Pushdown
