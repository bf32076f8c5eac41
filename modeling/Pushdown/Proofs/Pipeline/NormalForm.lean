import Mathlib.Data.List.Chain
import Pushdown.Proofs.Pipeline.Simplifications

/-! # The normal form of a pipeline

The simplifications in their default order leave no stage that only makes notes, none that gives
up the order, and no neighbours that could be joined. A pipeline of this form is one that they
leave as it is, so making them again changes nothing. The order matters: a stage that is dropped
later may have stood between two slices.
-/

namespace Pushdown

variable {Note α : Type}

namespace Stage

theorem eq_limit_of_kind {stage : Stage Note α} (limits : stage.kind = .limit) :
    ∃ count, stage = .limit count := by
  cases stage <;> cases limits
  exact ⟨_, rfl⟩

theorem eq_skip_of_kind {stage : Stage Note α} (skips : stage.kind = .skip) :
    ∃ count, stage = .skip count := by
  cases stage <;> cases skips
  exact ⟨_, rfl⟩

theorem isPeek_iff {stage : Stage Note α} : stage.isPeek = true ↔ stage.kind = .peek := by
  cases stage <;> simp [isPeek, kind]

theorem isUnordered_iff {stage : Stage Note α} :
    stage.isUnordered = true ↔ stage.kind = .unordered := by
  cases stage <;> simp [isUnordered, kind]

/-- Two stages that can be joined are both limits or both skips. -/
def Joins (first second : Stage Note α) : Prop :=
  first.kind = .limit ∧ second.kind = .limit ∨ first.kind = .skip ∧ second.kind = .skip

/-- No stage can be joined with the one behind it. -/
def Apart (stages : List (Stage Note α)) : Prop :=
  stages.IsChain fun first second => ¬first.Joins second

theorem apart_cons {stage : Stage Note α} {rest : List (Stage Note α)} :
    Apart (stage :: rest) ↔ (∀ next ∈ rest.head?, ¬stage.Joins next) ∧ Apart rest :=
  List.isChain_cons

/-- What may stand behind a stage depends on its kind alone. -/
theorem Apart.of_kind {first second : Stage Note α} {rest : List (Stage Note α)}
    (apart : Apart (first :: rest)) (same : second.kind = first.kind) :
    Apart (second :: rest) := by
  obtain ⟨joinless, behind⟩ := apart_cons.mp apart
  refine apart_cons.mpr ⟨fun next leads joins => joinless next leads ?_, behind⟩
  unfold Joins at joins ⊢
  rwa [← same]

end Stage

namespace Simplification

open Stage

/-! ## Joined slices -/

/-- A stage is joined with the next one where both are slices of one kind, into a slice of that
kind. Otherwise it is put in front. -/
theorem joinSlice_cases (stage : Stage Note α) (rest : List (Stage Note α)) :
    (∃ next others joined, rest = next :: others ∧ stage.Joins next ∧ joined.kind = next.kind ∧
        joinSlice stage rest = joined :: others) ∨
      (∀ next ∈ rest.head?, ¬stage.Joins next) ∧ joinSlice stage rest = stage :: rest := by
  unfold joinSlice
  split
  · rename_i count count' others
    exact .inl ⟨.limit count', others, .limit (min count count'), rfl, .inl ⟨rfl, rfl⟩, rfl, rfl⟩
  · rename_i count count' others
    exact .inl ⟨.skip count', others, .skip (count.plus count'), rfl, .inr ⟨rfl, rfl⟩, rfl, rfl⟩
  · rename_i noLimits noSkips
    refine .inr ⟨fun next leads joins => ?_, rfl⟩
    obtain ⟨others, rfl⟩ := List.head?_eq_some_iff.mp leads
    rcases joins with ⟨limits, limits'⟩ | ⟨skips, skips'⟩
    · obtain ⟨count, rfl⟩ := eq_limit_of_kind limits
      obtain ⟨count', rfl⟩ := eq_limit_of_kind limits'
      exact noLimits count count' others rfl rfl
    · obtain ⟨count, rfl⟩ := eq_skip_of_kind skips
      obtain ⟨count', rfl⟩ := eq_skip_of_kind skips'
      exact noSkips count count' others rfl rfl

theorem apart_joinSlice (stage : Stage Note α) {rest : List (Stage Note α)} (apart : Apart rest) :
    Apart (joinSlice stage rest) := by
  rcases joinSlice_cases stage rest with
    ⟨next, others, joined, rfl, -, same, taken⟩ | ⟨joinless, kept⟩
  · rw [taken]
    exact apart.of_kind same
  · rw [kept]
    exact apart_cons.mpr ⟨joinless, apart⟩

/-- Once slices are joined, no two neighbours are left to join. -/
theorem apart_joinSlices (stages : List (Stage Note α)) : Apart (joinSlices stages) := by
  induction stages with
  | nil => exact .nil
  | cons stage rest hyp =>
      rw [joinSlices_cons]
      exact apart_joinSlice stage hyp

/-- Where no neighbours can be joined, none are. -/
theorem joinSlices_of_apart {stages : List (Stage Note α)} (apart : Apart stages) :
    joinSlices stages = stages := by
  induction stages with
  | nil => rfl
  | cons stage rest hyp =>
      obtain ⟨joinless, behind⟩ := apart_cons.mp apart
      have first : joinSlices (stage :: rest) = joinSlice stage rest := by
        rw [joinSlices_cons, hyp behind]
      rcases joinSlice_cases stage rest with
        ⟨next, others, joined, rfl, joins, -⟩ | ⟨-, kept⟩
      · exact absurd joins (joinless next rfl)
      · exact first.trans kept

/-- The stages that are no slices are the same as before, in the same order. -/
theorem filter_joinSlices {kept : Stage Note α → Bool}
    (sliceless : ∀ stage, stage.kind = .limit ∨ stage.kind = .skip → kept stage = false)
    (stages : List (Stage Note α)) : (joinSlices stages).filter kept = stages.filter kept := by
  induction stages with
  | nil => rfl
  | cons stage rest hyp =>
      rw [joinSlices_cons, List.filter_cons, ← hyp]
      rcases joinSlice_cases stage (joinSlices rest) with
        ⟨next, others, joined, leads, joins, same, taken⟩ | ⟨-, put⟩
      · have first : kept stage = false := sliceless stage (joins.imp And.left And.left)
        have slice : next.kind = .limit ∨ next.kind = .skip := joins.imp And.right And.right
        have second : kept next = false := sliceless next slice
        have both : kept joined = false := sliceless joined (same ▸ slice)
        rw [taken, leads, List.filter_cons, List.filter_cons, first, second, both]
        rfl
      · rw [put, List.filter_cons]

/-! ## Fixed points -/

theorem removePeek_eq_self {pipeline : Pipeline Note α}
    (unpeeked : ∀ stage ∈ pipeline.stages, stage.kind ≠ .peek) :
    apply pipeline .removePeek = pipeline := by
  have all : pipeline.stages.filter (fun stage => !stage.isPeek) = pipeline.stages := by
    refine List.filter_eq_self.mpr fun stage member => ?_
    rw [Bool.not_eq_true', Bool.eq_false_iff, ne_eq, isPeek_iff]
    exact unpeeked stage member
  unfold apply
  rw [all]

theorem foldUnordered_eq_self {pipeline : Pipeline Note α}
    (unrelaxed : ∀ stage ∈ pipeline.stages, stage.kind ≠ .unordered) :
    apply pipeline .foldUnordered = pipeline := by
  have each (stage : Stage Note α) (member : stage ∈ pipeline.stages) :
      stage.isUnordered = false := by
    rw [Bool.eq_false_iff, ne_eq, isUnordered_iff]
    exact unrelaxed stage member
  have all : pipeline.stages.filter (fun stage => !stage.isUnordered) = pipeline.stages :=
    List.filter_eq_self.mpr fun stage member => by rw [each stage member, Bool.not_false]
  have none : pipeline.stages.any isUnordered = false :=
    List.any_eq_false.mpr fun stage member => Bool.eq_false_iff.mp (each stage member)
  unfold apply
  rw [all, none, Bool.not_false, Bool.and_true]

theorem collapseSlices_eq_self {pipeline : Pipeline Note α} (apart : Apart pipeline.stages) :
    apply pipeline .collapseSlices = pipeline := by
  unfold apply
  rw [joinSlices_of_apart apart]

/-- Each simplification leaves what it has made as it is. -/
theorem apply_apply (pipeline : Pipeline Note α) (simplification : Simplification) :
    apply (apply pipeline simplification) simplification = apply pipeline simplification := by
  cases simplification with
  | removePeek =>
      refine removePeek_eq_self fun stage member peeks => ?_
      have dropped := (List.mem_filter.mp member).2
      rw [isPeek_iff.mpr peeks] at dropped
      cases dropped
  | foldUnordered =>
      refine foldUnordered_eq_self fun stage member relaxes => ?_
      have dropped := (List.mem_filter.mp member).2
      rw [isUnordered_iff.mpr relaxes] at dropped
      cases dropped
  | collapseSlices => exact collapseSlices_eq_self (apart_joinSlices pipeline.stages)

/-! ## The default order -/

/-- Stages that the default simplifications have nothing to do with. -/
structure Normal (stages : List (Stage Note α)) : Prop where
  unpeeked : ∀ stage ∈ stages, stage.kind ≠ .peek
  unrelaxed : ∀ stage ∈ stages, stage.kind ≠ .unordered
  apart : Apart stages

/-- The default simplifications drop first, so slices that come to stand side by side are joined. -/
theorem stages_applyAll_all (pipeline : Pipeline Note α) :
    (applyAll all pipeline).stages =
      joinSlices (pipeline.stages.filter fun stage => stage.kind ∉ [.peek, .unordered]) := by
  have dropped (stage : Stage Note α) :
      (!stage.isUnordered && !stage.isPeek) = decide (stage.kind ∉ [.peek, .unordered]) := by
    cases stage <;> rfl
  simp only [← dropped, ← List.filter_filter]
  rfl

theorem ordered_applyAll_all (pipeline : Pipeline Note α) :
    (applyAll all pipeline).ordered = true ↔
      pipeline.ordered = true ∧ .unordered ∉ pipeline.stages := by
  have remaining : (applyAll all pipeline).ordered =
      (pipeline.ordered && !(pipeline.stages.filter fun stage => !stage.isPeek).any isUnordered) :=
    rfl
  rw [remaining, Bool.and_eq_true, Bool.not_eq_true', List.any_eq_false]
  refine and_congr_right fun _ => ⟨fun none present => ?_, fun absent stage member relaxes => ?_⟩
  · exact none .unordered (List.mem_filter.mpr ⟨present, rfl⟩) rfl
  · cases stage <;> cases relaxes
    exact absent (List.mem_filter.mp member).1

theorem normal_applyAll_all (pipeline : Pipeline Note α) : Normal (applyAll all pipeline).stages := by
  rw [stages_applyAll_all]
  have left : ∀ stage ∈ pipeline.stages.filter fun stage => stage.kind ∉ [.peek, .unordered],
      stage.kind ∉ [.peek, .unordered] :=
    fun stage member => of_decide_eq_true (List.mem_filter.mp member).2
  have each := forall_joinSlices (fun _ => nofun) (fun _ => nofun) left
  refine ⟨fun stage member peeks => ?_, fun stage member relaxes => ?_, apart_joinSlices _⟩
  · exact each stage member (peeks ▸ .head _)
  · exact each stage member (relaxes ▸ .tail _ (.head _))

/-- What the default simplifications leave as it is are the pipelines in normal form. -/
theorem applyAll_all_eq_self_iff {pipeline : Pipeline Note α} :
    applyAll all pipeline = pipeline ↔ Normal pipeline.stages := by
  constructor
  · intro same
    exact same ▸ normal_applyAll_all pipeline
  · intro normal
    unfold applyAll all
    rw [List.foldl_cons, removePeek_eq_self normal.unpeeked, List.foldl_cons,
      foldUnordered_eq_self normal.unrelaxed, List.foldl_cons,
      collapseSlices_eq_self normal.apart, List.foldl_nil]

/-- **Simplified pipelines are in normal form.** Making a simplification again changes nothing, nor
does making all of them in their default order again. These leave a pipeline in normal form, with
the stages that are neither dropped nor slices in their places, and with its order unless a stage
gives it up. Nothing else of a pipeline is changed, whichever simplifications are made. -/
theorem simplified_is_normal (pipeline : Pipeline Note α) :
    (∀ simplification, apply (apply pipeline simplification) simplification =
      apply pipeline simplification) ∧
    applyAll all (applyAll all pipeline) = applyAll all pipeline ∧
    Normal (applyAll all pipeline).stages ∧
    (applyAll all pipeline).stages.filter (fun stage => stage.kind ∉ [.skip, .limit]) =
      pipeline.stages.filter (fun stage => stage.kind ∉ [.peek, .unordered, .skip, .limit]) ∧
    ((applyAll all pipeline).ordered = true ↔
      pipeline.ordered = true ∧ .unordered ∉ pipeline.stages) ∧
    ∀ chosen, (applyAll chosen pipeline).terminal = pipeline.terminal ∧
      (applyAll chosen pipeline).parallel = pipeline.parallel ∧
      (applyAll chosen pipeline).closeHandlers = pipeline.closeHandlers ∧
      (applyAll chosen pipeline).state = pipeline.state := by
  have normal := normal_applyAll_all pipeline
  refine ⟨apply_apply pipeline, applyAll_all_eq_self_iff.mpr normal, normal, ?_,
    ordered_applyAll_all pipeline, fun chosen => ?_⟩
  · have sliceless (stage : Stage Note α) (slice : stage.kind = .limit ∨ stage.kind = .skip) :
        decide (stage.kind ∉ [.skip, .limit]) = false := by
      rcases slice with limits | skips
      · rw [limits]
        rfl
      · rw [skips]
        rfl
    rw [stages_applyAll_all, filter_joinSlices sliceless, List.filter_filter]
    refine List.filter_congr fun stage _ => ?_
    cases stage <;> rfl
  · rw [applyAll_eq chosen pipeline]
    exact ⟨rfl, rfl, rfl, rfl⟩

/-- Joined before the peek between them is dropped, two limits are left side by side. -/
example :
    let backwards : List Simplification := [.collapseSlices, .removePeek]
    let pipeline : Pipeline Unit Nat := { stages := [.limit 3, .peek fun _ => (), .limit 2] }
    (applyAll backwards pipeline).stages.length = 2 ∧
      (applyAll backwards (applyAll backwards pipeline)).stages.length = 1 := by
  decide

end Simplification

end Pushdown
