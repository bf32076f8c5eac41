import Pushdown.Pipeline

/-! # Simplifications

Changes of a pipeline before its stages are pushed. A simplification drops stages or joins
neighbours; none moves a stage past another, and making one again changes nothing.
-/

namespace Pushdown

/-- The simplifications. -/
inductive Simplification where
  /-- Drops the stages that only make notes. -/
  | removePeek
  /-- Drops the stages that give up the order, and records that it is given up. -/
  | foldUnordered
  /-- Joins neighbouring limits and neighbouring skips. -/
  | collapseSlices
  deriving DecidableEq, Inhabited

namespace Simplification

/-- All simplifications, in the order in which they are made by default. -/
def all : List Simplification :=
  [.removePeek, .foldUnordered, .collapseSlices]

/-- The name of a simplification in settings. -/
def label : Simplification → String
  | .removePeek => "remove_peek"
  | .foldUnordered => "fold_unordered"
  | .collapseSlices => "collapse_slices"

/-- The diagnostic name of a simplification. -/
def name : Simplification → String
  | .removePeek => "RemovePeek"
  | .foldUnordered => "FoldUnordered"
  | .collapseSlices => "CollapseSlices"

variable {Note α : Type}

/-- A stage behind others, the latest first, joined with the last of them where both are limits
or both are skips. -/
def joinNext : List (Stage Note α) → Stage Note α → List (Stage Note α)
  | .limit last :: before, .limit count => .limit (min last count) :: before
  | .skip last :: before, .skip count => .skip (last.plus count) :: before
  | before, stage => stage :: before

/-- Stages with neighbouring slices joined, from left to right. -/
def joinSlices (stages : List (Stage Note α)) : List (Stage Note α) :=
  (stages.foldl joinNext []).reverse

/-- The pipeline that a simplification makes of another. -/
def apply (pipeline : Pipeline Note α) : Simplification → Pipeline Note α
  | .removePeek => { pipeline with stages := pipeline.stages.filter fun stage => !stage.isPeek }
  | .foldUnordered =>
      { pipeline with
        stages := pipeline.stages.filter fun stage => !stage.isUnordered
        ordered := pipeline.ordered && !pipeline.stages.any Stage.isUnordered }
  | .collapseSlices => { pipeline with stages := joinSlices pipeline.stages }

/-- The pipeline after several simplifications, one after the other. -/
def applyAll (chosen : List Simplification) (pipeline : Pipeline Note α) :
    Pipeline Note α :=
  chosen.foldl apply pipeline

end Simplification

end Pushdown
