import Pushdown.Proofs.Flow.Notes
import Pushdown.Proofs.Pipeline.ListMeaning

/-! # Sightings

Notes do not tell which stage makes them, nor of which element. Where they are replaced by
sightings, which do, what a stage sees while a terminal consumes a chain can be read off the
notes of the chain; and the notes themselves are still to be read off the sightings.
-/

namespace Pushdown

/-- A note with the place of the stage that makes it and the element that it is made of. -/
structure Sighting (Note α : Type) where
  place : Nat
  element : α
  note : Note
  deriving DecidableEq

namespace Sighting

variable {Note α : Type}

/-- Whether a sighting was made at a place. -/
def isAt (place : Nat) (sighting : Sighting Note α) : Bool :=
  sighting.place == place

/-- The sighting that a stage makes of an element in place of its note. -/
def made (place : Nat) (note : α → Note) (element : α) : Sighting Note α :=
  ⟨place, element, note element⟩

theorem isAt_made (place : Nat) (note : α → Note) (element : α) :
    isAt place (made place note element) = true :=
  beq_self_eq_true place

theorem isAt_made_of_ne {place other : Nat} (elsewhere : other ≠ place) (note : α → Note)
    (element : α) : isAt place (made other note element) = false :=
  beq_false_of_ne elsewhere

end Sighting

namespace Stage

variable {Note ρ μ : Type}

/-- A stage that makes sightings for notes. -/
def signed {α : Type} (place : Nat) : Stage Note α → Stage (Sighting Note α) α
  | .filter predicate => .filter predicate
  | .filterBy test => .filterBy test
  | .map image => .map image
  | .flatMap images => .flatMap images
  | .mapToNumeric target => .mapToNumeric target
  | .distinct sameness => .distinct sameness
  | .sorted natural => .sorted natural
  | .sortedByField order => .sortedByField order
  | .sortedBy compare => .sortedBy compare
  | .peek note => .peek (.made place note)
  | .limit count => .limit count
  | .skip count => .skip count
  | .unordered => .unordered

theorem kind_signed {α : Type} (place : Nat) (stage : Stage Note α) :
    (stage.signed place).kind = stage.kind := by
  cases stage <;> rfl

theorem silent_signed {place other : Nat} (elsewhere : other ≠ place)
    (stage : Stage Note (Element ρ μ)) : (stage.signed other).Silent (Sighting.isAt place) := by
  cases stage with
  | peek note => exact Sighting.isAt_made_of_ne elsewhere note
  | _ => trivial

theorem unlimited_signed {places : Nat → Nat} {stages : List (Stage Note (Element ρ μ))}
    (unlimited : ∀ stage ∈ stages, stage.kind ≠ .limit) :
    ∀ stage ∈ stages.mapIdx fun index => signed (places index), stage.kind ≠ .limit := by
  intro stage among
  obtain ⟨index, within, rfl⟩ := List.mem_mapIdx.mp among
  rw [kind_signed]
  exact unlimited stages[index] (List.getElem_mem within)

/-- Sightings of a list of elements tell the list. -/
theorem map_element_made {α : Type} (place : Nat) (note : α → Note) (elements : List α) :
    (elements.map (Sighting.made place note)).map Sighting.element = elements := by
  rw [List.map_map]
  exact List.map_id elements

/-- Stages at other places make no sighting at a place. -/
theorem silent_of_elsewhere {place : Nat} (places : Nat → Nat)
    (stages : List (Stage Note (Element ρ μ)))
    (elsewhere : ∀ index < stages.length, places index ≠ place) :
    ∀ stage ∈ stages.mapIdx fun index => signed (places index),
      stage.Silent (Sighting.isAt place) := by
  intro stage among
  obtain ⟨index, bounded, rfl⟩ := List.mem_mapIdx.mp among
  exact silent_signed (elsewhere index bounded) stages[index]

/-- The stages behind a place make no sighting there. -/
theorem silent_after (before after : List (Stage Note (Element ρ μ))) :
    ∀ stage ∈ after.mapIdx fun index => signed (index + 1 + before.length),
      stage.Silent (Sighting.isAt before.length) :=
  silent_of_elsewhere (fun index => index + 1 + before.length) after fun _ _ same => by omega

theorem notes_source (source : List (Element ρ μ)) :
    (Flow.later fun _ => .ofList source : Flow Note (Element ρ μ)).notes = [] :=
  Flow.notes_ofList source

variable [Entity ρ]

theorem onList_signed (place : Nat) (stage : Stage Note (Element ρ μ))
    (elements : List (Element ρ μ)) :
    (stage.signed place).onList elements = stage.onList elements := by
  cases stage <;> rfl

/-- Read as notes, the sightings of a stage are its notes. -/
theorem run_signed (place : Nat) (stage : Stage Note (Element ρ μ))
    (flow : Flow (Sighting Note (Element ρ μ)) (Element ρ μ)) :
    stage.run (flow.mapNotes Sighting.note) =
      ((stage.signed place).run flow).mapNotes Sighting.note := by
  cases stage with
  | filter predicate => exact Flow.filter_mapNotes _ _ flow
  | filterBy test => exact Flow.filter_mapNotes _ test flow
  | map image => exact Flow.map_mapNotes _ image flow
  | flatMap images => exact Flow.flatMap_mapNotes _ images flow
  | mapToNumeric target => rfl
  | distinct sameness => exact Flow.distinctFrom_mapNotes _ sameness ∅ flow
  | sorted compare => exact Flow.sorted_mapNotes _ compare flow
  | sortedByField order => exact Flow.sorted_mapNotes _ _ flow
  | sortedBy compare => exact Flow.sorted_mapNotes _ compare flow
  | peek note => exact Flow.peek_mapNotes Sighting.note (.made place note) flow
  | limit count => exact Flow.take_mapNotes _ count.toNat flow
  | skip count => exact Flow.drop_mapNotes _ count.toNat flow
  | unordered => rfl

/-- Stages that make sightings, each at a place of its own. -/
def signedAll (stages : List (Stage Note (Element ρ μ))) :
    List (Stage (Sighting Note (Element ρ μ)) (Element ρ μ)) :=
  stages.mapIdx signed

theorem onListAll_signed (places : Nat → Nat) (stages : List (Stage Note (Element ρ μ)))
    (elements : List (Element ρ μ)) :
    onListAll (stages.mapIdx fun index => signed (places index)) elements =
      onListAll stages elements := by
  induction stages generalizing places elements with
  | nil => rfl
  | cons stage rest hyp =>
      rw [List.mapIdx_cons]
      change onListAll _ ((stage.signed (places 0)).onList elements) = _
      rw [onList_signed, hyp fun index => places (index + 1)]
      rfl

theorem runAll_signed (places : Nat → Nat) (stages : List (Stage Note (Element ρ μ)))
    (flow : Flow (Sighting Note (Element ρ μ)) (Element ρ μ)) :
    runAll stages (flow.mapNotes Sighting.note) =
      (runAll (stages.mapIdx fun index => signed (places index)) flow).mapNotes
        Sighting.note := by
  induction stages generalizing places flow with
  | nil => rfl
  | cons stage rest hyp =>
      rw [List.mapIdx_cons, runAll_cons, runAll_cons, run_signed (places 0),
        hyp fun index => places (index + 1)]

theorem mapNotes_chain_signedAll (stages : List (Stage Note (Element ρ μ)))
    (source : List (Element ρ μ)) :
    (chain (signedAll stages) source).mapNotes Sighting.note = chain stages source := by
  have read := runAll_signed id stages (.later fun _ => .ofList source)
  rw [Flow.mapNotes, Flow.mapNotes_ofList] at read
  exact read.symm

theorem elements_chain_signedAll (stages : List (Stage Note (Element ρ μ)))
    (source : List (Element ρ μ)) :
    (chain (signedAll stages) source).elements = onListAll stages source := by
  rw [elements_chain]
  exact onListAll_signed id stages source

/-- Up to a place nothing is sighted there. -/
theorem sightings_before (before : List (Stage Note (Element ρ μ)))
    (source : List (Element ρ μ)) :
    (chain (signedAll before) source).notes.filter (Sighting.isAt before.length) = [] := by
  have silent := silent_of_elsewhere id before fun _ within => Nat.ne_of_lt within
  have leading := prefix_notes_runAll silent (.later fun _ => .ofList source)
  rw [notes_source, List.filter_nil, List.prefix_nil] at leading
  exact leading

/-- What is sighted of all elements that come to a place. -/
theorem sightings_there (before : List (Stage Note (Element ρ μ)))
    (note : Element ρ μ → Note) (source : List (Element ρ μ)) :
    ((chain (signedAll before) source).peek (.made before.length note)).notes.filter
        (Sighting.isAt before.length) =
      (onListAll before source).map (.made before.length note) := by
  rw [Flow.notes_peek_of_kept (Sighting.isAt_made _ _) (sightings_before before source),
    elements_chain_signedAll]

theorem chain_signedAll_append (before after : List (Stage Note (Element ρ μ)))
    (note : Element ρ μ → Note) (source : List (Element ρ μ)) :
    chain (signedAll (before ++ .peek note :: after)) source =
      runAll (after.mapIdx fun index => signed (index + 1 + before.length))
        ((chain (signedAll before) source).peek (.made before.length note)) := by
  rw [signedAll, List.mapIdx_append, List.mapIdx_cons, Nat.zero_add, chain, runAll,
    List.foldl_append, List.foldl_cons]
  rfl

end Stage

namespace Terminal

variable {Note α : Type}

/-- A terminal that makes sightings for notes. -/
def signed (place : Nat) : Terminal Note α → Terminal (Sighting Note α) α
  | .forEach note => .forEach (.made place note)
  | .forEachOrdered note => .forEachOrdered (.made place note)
  | .toArray => .toArray
  | .reduce accumulate => .reduce accumulate
  | .reduceFrom identity accumulate => .reduceFrom identity accumulate
  | .collect asks => .collect asks
  | .min compare => .min compare
  | .max compare => .max compare
  | .count => .count
  | .anyMatch test => .anyMatch test
  | .allMatch test => .allMatch test
  | .noneMatch test => .noneMatch test
  | .findFirst => .findFirst
  | .findAny => .findAny
  | .iterate => .iterate
  | .split => .split

theorem demand_signed (place : Nat) (terminal : Terminal Note α) (elements : List α) :
    (terminal.signed place).demand elements = terminal.demand elements := by
  cases terminal <;> rfl

theorem silent_signed {place other : Nat} (elsewhere : other ≠ place)
    (terminal : Terminal Note α) : (terminal.signed other).Silent (Sighting.isAt place) := by
  cases terminal with
  | forEach note => exact Sighting.isAt_made_of_ne elsewhere note
  | forEachOrdered note => exact Sighting.isAt_made_of_ne elsewhere note
  | _ => trivial

theorem attend_signed (place : Nat) (terminal : Terminal Note α)
    (flow : Flow (Sighting Note α) α) :
    terminal.attend (flow.mapNotes Sighting.note) =
      ((terminal.signed place).attend flow).mapNotes Sighting.note := by
  cases terminal with
  | forEach note => exact Flow.peek_mapNotes Sighting.note (.made place note) flow
  | forEachOrdered note => exact Flow.peek_mapNotes Sighting.note (.made place note) flow
  | _ => rfl

/-- Read as notes, the sightings of a terminal are the notes that it meets. -/
theorem notes_consume_signed (place : Nat) (terminal : Terminal Note α)
    (flow : Flow (Sighting Note α) α) :
    ((terminal.signed place).consume flow).notes.map Sighting.note =
      (terminal.consume (flow.mapNotes Sighting.note)).notes := by
  rw [notes_consume, notes_consume, demand_signed, Flow.elements_mapNotes,
    attend_signed place, Flow.take_mapNotes, Flow.notes_mapNotes]

end Terminal

namespace Stage

variable {Note ρ μ : Type} [Entity ρ]

/-- What is sighted while a terminal consumes what stages make of a list. -/
def sightings (stages : List (Stage Note (Element ρ μ))) (terminal : Terminal Note (Element ρ μ))
    (source : List (Element ρ μ)) : List (Sighting Note (Element ρ μ)) :=
  ((terminal.signed stages.length).consume (chain (signedAll stages) source)).notes

/-- The elements sighted at a place. -/
def seenAt (place : Nat) (stages : List (Stage Note (Element ρ μ)))
    (terminal : Terminal Note (Element ρ μ)) (source : List (Element ρ μ)) :
    List (Element ρ μ) :=
  ((sightings stages terminal source).filter (Sighting.isAt place)).map Sighting.element

/-- What is seen at the place of a stage is what a limit to the demand lets through. -/
theorem seenAt_eq {place : Nat} {stages : List (Stage Note (Element ρ μ))}
    (within : place < stages.length) (terminal : Terminal Note (Element ρ μ))
    (source : List (Element ρ μ)) :
    seenAt place stages terminal source =
      (((chain (signedAll stages) source).take
        (terminal.demand (onListAll stages source))).notes.filter
          (Sighting.isAt place)).map Sighting.element := by
  have silent := terminal.silent_signed (Nat.ne_of_gt within)
  rw [seenAt, sightings, Terminal.notes_consume_of_silent silent, Terminal.demand_signed,
    elements_chain_signedAll]

/-- What a stage sees are the first of the elements that the stages before it make. -/
theorem prefix_seenAt (before after : List (Stage Note (Element ρ μ)))
    (note : Element ρ μ → Note) (terminal : Terminal Note (Element ρ μ))
    (source : List (Element ρ μ)) :
    seenAt before.length (before ++ .peek note :: after) terminal source <+:
      onListAll before source := by
  have within : before.length < (before ++ .peek note :: after).length := by simp
  rw [seenAt_eq within, ← map_element_made before.length note (onListAll before source),
    ← sightings_there, chain_signedAll_append]
  apply List.IsPrefix.map
  refine ((Flow.prefix_notes_take _ _).filter _).trans ?_
  exact prefix_notes_runAll (silent_after before after) _

/-- Where nothing stops early behind it, a stage sees them all. -/
theorem seenAt_of_exhausts (before after : List (Stage Note (Element ρ μ)))
    (note : Element ρ μ → Note) {terminal : Terminal Note (Element ρ μ)}
    (exhausts : terminal.exhausts = true) (unlimited : ∀ stage ∈ after, stage.kind ≠ .limit)
    (source : List (Element ρ μ)) :
    seenAt before.length (before ++ .peek note :: after) terminal source =
      onListAll before source := by
  have within : before.length < (before ++ .peek note :: after).length := by simp
  -- The stages behind the place neither add a sighting there nor cut one off.
  have passed := notes_runAll_of_unlimited (silent_after before after)
    (unlimited_signed unlimited) ((chain (signedAll before) source).peek (.made before.length note))
  rw [seenAt_eq within, Terminal.demand_of_exhausts exhausts, ← elements_chain_signedAll,
    Flow.notes_take_of_length_lt (Nat.lt_succ_self _), chain_signedAll_append, passed,
    sightings_there, map_element_made]

/-- A stage behind all others sees the elements that the terminal asks for. -/
theorem seenAt_last (stages : List (Stage Note (Element ρ μ))) (probe : Element ρ μ → Note)
    (terminal : Terminal Note (Element ρ μ)) (source : List (Element ρ μ)) :
    seenAt stages.length (stages ++ [.peek probe]) terminal source =
      (onListAll stages source).take (terminal.demand (onListAll stages source)) := by
  have within : stages.length < (stages ++ [Stage.peek probe]).length := by simp
  have same : onListAll (stages ++ [.peek probe]) source = onListAll stages source := by
    rw [onListAll, List.foldl_append]
    rfl
  have alone (count : Nat) :
      ((chain (signedAll stages) source).take count).notes.filter
        (Sighting.isAt stages.length) = [] := by
    have leading := (Flow.prefix_notes_take count (chain (signedAll stages) source)).filter
      (Sighting.isAt stages.length)
    rwa [sightings_before, List.prefix_nil] at leading
  rw [seenAt_eq within, chain_signedAll_append, List.mapIdx_nil, runAll_nil, Flow.take_peek,
    Flow.notes_peek_of_kept (Sighting.isAt_made _ _) (alone _), map_element_made,
    Flow.elements_take, elements_chain_signedAll, same]

end Stage

end Pushdown
