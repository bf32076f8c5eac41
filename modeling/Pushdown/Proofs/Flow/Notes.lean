import Pushdown.Flow

/-! # Flows with other notes

Notes are written and never read: an operation on a flow whose notes are put in other words
is the operation on the flow itself, put in other words.
-/

namespace Pushdown

namespace Flow

variable {Note Note' α β : Type}

/-- A flow with its notes put in other words. -/
def mapNotes (reword : Note → Note') : Flow Note α → Flow Note' α
  | .done => .done
  | .later rest => .later fun _ => (rest ()).mapNotes reword
  | .note entry rest => .note (reword entry) fun _ => (rest ()).mapNotes reword
  | .yield element rest => .yield element fun _ => (rest ()).mapNotes reword

variable (reword : Note → Note')

@[simp]
theorem elements_mapNotes (flow : Flow Note α) :
    (flow.mapNotes reword).elements = flow.elements := by
  induction flow with
  | done => rfl
  | later rest hyp => exact hyp ()
  | note entry rest hyp => exact hyp ()
  | yield element rest hyp => exact congrArg (element :: ·) (hyp ())

@[simp]
theorem notes_mapNotes (flow : Flow Note α) :
    (flow.mapNotes reword).notes = flow.notes.map reword := by
  induction flow with
  | done => rfl
  | later rest hyp => exact hyp ()
  | note entry rest hyp => exact congrArg (reword entry :: ·) (hyp ())
  | yield element rest hyp => exact hyp ()

/-! ## Sources -/

theorem mapNotes_ofList (elements : List α) :
    (ofList elements : Flow Note α).mapNotes reword = ofList elements := by
  induction elements with
  | nil => rfl
  | cons element rest hyp => simp [ofList, mapNotes, hyp]

theorem mapNotes_prepend (series : Series α) (rest : Unit → Flow Note α) :
    (prepend series rest).mapNotes reword =
      prepend series fun _ => (rest ()).mapNotes reword := by
  induction series with
  | done => rfl
  | later more hyp => simp [prepend, mapNotes, hyp]
  | note entry more hyp => nomatch entry
  | yield element more hyp => simp [prepend, mapNotes, hyp]

theorem mapNotes_prependNotes (entries : List Note) (rest : Unit → Flow Note α) :
    (prependNotes entries rest).mapNotes reword =
      prependNotes (entries.map reword) fun _ => (rest ()).mapNotes reword := by
  induction entries with
  | nil => rfl
  | cons entry entries hyp => simp [prependNotes, mapNotes, hyp]

/-! ## Operations -/

theorem filter_mapNotes (test : α → Bool) (flow : Flow Note α) :
    (flow.mapNotes reword).filter test = (flow.filter test).mapNotes reword := by
  induction flow with
  | done => rfl
  | later rest hyp => simp [filter, mapNotes, hyp]
  | note entry rest hyp => simp [filter, mapNotes, hyp]
  | yield element rest hyp =>
      rw [mapNotes, filter, filter]
      split
      · simp [mapNotes, hyp]
      · simp [mapNotes, hyp]

theorem map_mapNotes (image : α → β) (flow : Flow Note α) :
    (flow.mapNotes reword).map image = (flow.map image).mapNotes reword := by
  induction flow with
  | done => rfl
  | later rest hyp => simp [map, mapNotes, hyp]
  | note entry rest hyp => simp [map, mapNotes, hyp]
  | yield element rest hyp => simp [map, mapNotes, hyp]

theorem flatMap_mapNotes (images : α → Series β) (flow : Flow Note α) :
    (flow.mapNotes reword).flatMap images = (flow.flatMap images).mapNotes reword := by
  induction flow with
  | done => rfl
  | later rest hyp => simp [flatMap, mapNotes, hyp]
  | note entry rest hyp => simp [flatMap, mapNotes, hyp]
  | yield element rest hyp => simp [flatMap, mapNotes, mapNotes_prepend, hyp]

theorem distinctFrom_mapNotes (sameness : Sameness α) (seen : Sameness.Seen α)
    (flow : Flow Note α) :
    (flow.mapNotes reword).distinctFrom sameness seen =
      (flow.distinctFrom sameness seen).mapNotes reword := by
  induction flow generalizing seen with
  | done => rfl
  | later rest hyp => simp [distinctFrom, mapNotes, hyp]
  | note entry rest hyp => simp [distinctFrom, mapNotes, hyp]
  | yield element rest hyp =>
      rw [mapNotes, distinctFrom, distinctFrom]
      split
      · simp [mapNotes, hyp]
      · simp [mapNotes, hyp]

theorem sorted_mapNotes (compare : α → α → Ordering) (flow : Flow Note α) :
    (flow.mapNotes reword).sorted compare = (flow.sorted compare).mapNotes reword := by
  simp [sorted, mapNotes, drain_eq, mapNotes_prependNotes, mapNotes_ofList]

theorem peek_mapNotes (note : α → Note) (flow : Flow Note α) :
    (flow.mapNotes reword).peek (fun element => reword (note element)) =
      (flow.peek note).mapNotes reword := by
  induction flow with
  | done => rfl
  | later rest hyp => simp [peek, mapNotes, hyp]
  | note entry rest hyp => simp [peek, mapNotes, hyp]
  | yield element rest hyp => simp [peek, mapNotes, hyp]

theorem take_mapNotes (count : Nat) (flow : Flow Note α) :
    (flow.mapNotes reword).take count = (flow.take count).mapNotes reword := by
  induction flow generalizing count with
  | done => cases count <;> rfl
  | later rest hyp => cases count <;> simp [take, mapNotes, hyp]
  | note entry rest hyp => cases count <;> simp [take, mapNotes, hyp]
  | yield element rest hyp => cases count <;> simp [take, mapNotes, hyp]

theorem drop_mapNotes (count : Nat) (flow : Flow Note α) :
    (flow.mapNotes reword).drop count = (flow.drop count).mapNotes reword := by
  induction flow generalizing count with
  | done => cases count <;> rfl
  | later rest hyp => cases count <;> simp [drop, mapNotes, hyp]
  | note entry rest hyp => cases count <;> simp [drop, mapNotes, hyp]
  | yield element rest hyp => cases count <;> simp [drop, mapNotes, hyp]

end Flow

end Pushdown
