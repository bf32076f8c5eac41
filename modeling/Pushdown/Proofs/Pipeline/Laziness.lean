import Pushdown.Proofs.Pipeline.Sightings
import Pushdown.Proofs.Record

/-! # Laziness

A chain of stages over a list does nothing while it is built, and under a terminal it does no
more than the terminal asks for.
-/

namespace Pushdown

/-! ## Building -/

namespace Flow

variable {Note α : Type}

/-- Whether a flow has neither made a note nor handed out an element. -/
def Dormant : Flow Note α → Prop
  | .done | .later _ => True
  | .note _ _ | .yield _ _ => False

/-- Whether nothing is left to ask for. -/
def isDone : Flow Note α → Bool
  | .done => true
  | _ => false

end Flow

namespace Stage

variable {Note ρ μ : Type}

/-- What can be seen of a stage without its functions: its kind, and the count of a slice. -/
def outline {α : Type} : Stage Note α → Kind × Option Count
  | .limit count => (.limit, some count)
  | .skip count => (.skip, some count)
  | stage => (stage.kind, none)

/-- Whether nothing is left to ask for behind a stage, from whether nothing is left before it. -/
def endsAfter (done : Bool) : Kind × Option Count → Bool
  | (.limit, some count) => done || count.toNat == 0
  | (.sorted, _) => false
  | _ => done

variable [Entity ρ]

/-- A stage over a dormant flow leaves it dormant, whatever functions the stage has. -/
theorem run_dormant (stage : Stage Note (Element ρ μ)) {flow : Flow Note (Element ρ μ)}
    (dormant : flow.Dormant) :
    (stage.run flow).Dormant ∧
      (stage.run flow).isDone = endsAfter flow.isDone stage.outline := by
  -- Of all stages only the slices look at something while they are built, at their counts.
  cases flow with
  | done =>
      cases stage with
      | limit count => cases size : count.toNat <;> simp [run, size, Flow.take, Flow.Dormant,
          Flow.isDone, endsAfter, outline]
      | skip count => cases size : count.toNat <;> simp [run, size, Flow.drop, Flow.Dormant,
          Flow.isDone, endsAfter, outline]
      | _ => exact ⟨trivial, rfl⟩
  | later rest =>
      cases stage with
      | limit count => cases size : count.toNat <;> simp [run, size, Flow.take, Flow.Dormant,
          Flow.isDone, endsAfter, outline]
      | skip count => cases size : count.toNat <;> simp [run, size, Flow.drop, Flow.Dormant,
          Flow.isDone, endsAfter, outline]
      | _ => exact ⟨trivial, rfl⟩
  | note entry rest => cases dormant
  | yield element rest => cases dormant

theorem runAll_dormant (stages : List (Stage Note (Element ρ μ)))
    {flow : Flow Note (Element ρ μ)} (dormant : flow.Dormant) :
    (runAll stages flow).Dormant ∧
      (runAll stages flow).isDone = (stages.map outline).foldl endsAfter flow.isDone := by
  induction stages generalizing flow with
  | nil => exact ⟨dormant, rfl⟩
  | cons stage rest hyp =>
      obtain ⟨still, done⟩ := stage.run_dormant dormant
      rw [runAll_cons, List.map_cons, List.foldl_cons, ← done]
      exact hyp still

theorem chain_dormant (stages : List (Stage Note (Element ρ μ))) (source : List (Element ρ μ)) :
    (chain stages source).Dormant ∧
      (chain stages source).isDone = (stages.map outline).foldl endsAfter false :=
  runAll_dormant stages trivial

/-! ## Lazy chains and eager lists -/

/-- What a chain of stages over a list does when it is built, drained, and consumed by a
terminal. -/
structure Refines (stages : List (Stage Note (Element ρ μ)))
    (terminal : Terminal Note (Element ρ μ)) (source : List (Element ρ μ)) : Prop where
  /-- Drained, it hands out what the stages make of the list from left to right. -/
  elements : (chain stages source).drain.value = onListAll stages source
  /-- The terminal answers as it would for that list. -/
  output : (terminal.consume (chain stages source)).value.Alike (fun _ => false)
    (terminal.onList (onListAll stages source))
  /-- Built, it has done nothing, -/
  dormant : (chain stages source).Dormant
  /-- and what has been built depends neither on the functions of the stages nor on the list. -/
  blind (others : List (Stage Note (Element ρ μ))) (source' : List (Element ρ μ))
      (same : others.map outline = stages.map outline) :
    (chain others source').isDone = (chain stages source).isDone
  /-- While it is built no stage asks what stands before it for anything, whatever notes and
  elements the answer would have, -/
  unasked (place : Nat) (before others : Unit → Flow Note (Element ρ μ)) :
    (runAll (stages.drop place) (.later before)).Dormant ∧
      (runAll (stages.drop place) (.later before)).isDone =
        (runAll (stages.drop place) (.later others)).isDone
  /-- and none calls a function on an element: probes in front of all stages have seen none. -/
  uncalled (probe : Element ρ μ → Note) :
    (chain (stages.flatMap fun stage => [.peek probe, stage]) source).Dormant
  /-- The notes that the terminal meets are those of so many pulls as it makes, -/
  notes : (terminal.consume (chain stages source)).notes =
    ((terminal.attend (chain stages source)).pullMany
      (terminal.demand (onListAll stages source))).1.notes
  /-- and they are those of the sightings. -/
  sightings : (sightings stages terminal source).map Sighting.note =
    (terminal.consume (chain stages source)).notes
  /-- A peek sees, in their order, the first of the elements that come to its place, -/
  observed (place : Nat) (note : Element ρ μ → Note) (peeks : stages[place]? = some (.peek note)) :
    seenAt place stages terminal source <+: onListAll (stages.take place) source
  /-- and all of them where neither the terminal nor a limit behind it stops early. -/
  observed_all (place : Nat) (note : Element ρ μ → Note)
      (peeks : stages[place]? = some (.peek note)) (exhausts : terminal.exhausts = true)
      (unlimited : ∀ stage ∈ stages.drop (place + 1), stage.kind ≠ .limit) :
    seenAt place stages terminal source = onListAll (stages.take place) source
  /-- The terminal draws as many elements as it demands: a peek in front of it sees no others. -/
  drawn (probe : Element ρ μ → Note) :
    seenAt stages.length (stages ++ [.peek probe]) terminal source =
      (onListAll stages source).take (terminal.demand (onListAll stages source))

/-- Lazy execution refines the meaning of stages and terminals on lists. -/
theorem chain_refines (stages : List (Stage Note (Element ρ μ)))
    (terminal : Terminal Note (Element ρ μ)) (source : List (Element ρ μ)) :
    Refines stages terminal source := by
  have elements := elements_chain stages source
  have split {place : Nat} {note : Element ρ μ → Note}
      (peeks : stages[place]? = some (.peek note)) :
      ∃ before after, stages = before ++ .peek note :: after ∧ before.length = place := by
    obtain ⟨within, found⟩ := List.getElem?_eq_some_iff.mp peeks
    refine ⟨stages.take place, stages.drop (place + 1), ?_, ?_⟩
    · rw [← found, ← List.drop_eq_getElem_cons within, List.take_append_drop]
    · exact List.length_take_of_le (Nat.le_of_lt within)
  constructor
  case elements => rw [Flow.drain_eq, elements]
  case output =>
    rw [← elements]
    exact terminal.value_consume (chain stages source)
  case dormant => exact (chain_dormant stages source).1
  case blind =>
    intro others source' same
    rw [(chain_dormant others source').2, (chain_dormant stages source).2, same]
  case unasked =>
    intro place before others
    have built (answer : Unit → Flow Note (Element ρ μ)) :
        (runAll (stages.drop place) (.later answer)).Dormant ∧
          (runAll (stages.drop place) (.later answer)).isDone =
            ((stages.drop place).map outline).foldl endsAfter false :=
      runAll_dormant (stages.drop place) trivial
    exact ⟨(built before).1, (built before).2.trans (built others).2.symm⟩
  case uncalled => exact fun probe => (chain_dormant _ source).1
  case notes => rw [Terminal.notes_consume, elements, Flow.pullMany_eq]
  case sightings =>
    rw [Stage.sightings, Terminal.notes_consume_signed, mapNotes_chain_signedAll]
  case observed =>
    intro place note peeks
    obtain ⟨before, after, rfl, rfl⟩ := split peeks
    rw [List.take_left]
    exact prefix_seenAt before after note terminal source
  case observed_all =>
    intro place note peeks exhausts unlimited
    obtain ⟨before, after, rfl, rfl⟩ := split peeks
    rw [List.take_left]
    refine seenAt_of_exhausts before after note exhausts ?_ source
    simpa using unlimited
  case drawn => exact fun probe => seenAt_last stages probe terminal source

/-- A limit of one ends the demand after the second element, which a skip of one needs. -/
example : seenAt (ρ := Record) (μ := Nat) 0 [.peek fun _ => (), .skip 1, .limit 1] .count
    [.mapped 7, .mapped 8, .mapped 9] = [.mapped 7, .mapped 8] := rfl

end Stage

end Pushdown
