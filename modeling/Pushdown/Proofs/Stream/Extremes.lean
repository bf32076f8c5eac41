import Pushdown.Proofs.Flow.Lists
import Pushdown.Proofs.Plan.Running
import Pushdown.Proofs.Plan.Trailing
import Pushdown.Proofs.Record
import Pushdown.Proofs.Sorting.Extremes
import Pushdown.Proofs.Stream.Closing

/-! # Extremes and sorted streams

The minimum of a stream is the first element of the stream sorted by the same comparison, and the
maximum that of the stream sorted by the opposite one. The sort stands behind all stages, where it
changes neither the query nor what runs before it, and its first element is met with all notes.
-/

namespace Pushdown

variable {ρ κ ν μ Note α : Type}

namespace Terminal

/-- A terminal that finds the first of the least elements of a flow. -/
structure FindsLeast (compare : α → α → Ordering) (flow : Flow Note α)
    (terminal : Terminal Note α) : Prop where
  sorted : (terminal.consume flow).value = .optional (sortedBy compare flow.elements).head?
  none_iff : (terminal.consume flow).value = .optional none ↔ flow.elements = []
  found (element : α) : (terminal.consume flow).value = .optional (some element) →
    FirstOfLeast compare flow.elements element

theorem FindsLeast.of_sorted {compare : α → α → Ordering} [Std.TransCmp compare]
    {flow : Flow Note α} {terminal : Terminal Note α}
    (sorted : (terminal.consume flow).value =
      .optional (sortedBy compare flow.elements).head?) : FindsLeast compare flow terminal where
  sorted := sorted
  none_iff := by
    rw [sorted, Output.optional.injEq]
    exact head_sortedBy_eq_none_iff compare flow.elements
  found element found := by
    rw [sorted] at found
    exact .of_head_sortedBy (Output.optional.inj found)

variable (compare : α → α → Ordering) (flow : Flow Note α)

/-- The first of the sorted elements, with all notes. -/
theorem consume_findFirst_sorted :
    findFirst.consume (flow.sorted compare) =
      ⟨flow.notes, .optional (sortedBy compare flow.elements).head?⟩ := by
  rw [consume, Flow.pull_sorted]
  rfl

variable [Std.TransCmp compare]

theorem consume_min :
    (min compare).consume flow = ⟨flow.notes, .optional (sortedBy compare flow.elements).head?⟩ := by
  rw [consume, Flow.drain_eq, Noted.map, reduce?_smaller]

theorem consume_max :
    (max compare).consume flow =
      ⟨flow.notes,
        .optional (sortedBy (fun left right => compare right left) flow.elements).head?⟩ := by
  rw [consume, Flow.drain_eq, Noted.map, reduce?_larger]

theorem findsLeast_min : FindsLeast compare flow (min compare) :=
  .of_sorted (congrArg Noted.value (consume_min compare flow))

theorem findsLeast_max :
    FindsLeast (fun left right => compare right left) flow (max compare) :=
  .of_sorted (congrArg Noted.value (consume_max compare flow))

end Terminal

namespace Table

variable [Entity ρ]

/-- A run over a table asks for a count only where the terminal counts. -/
theorem uncounted_of_executed (table : Table ρ) (settings : Settings) (observed : Bool)
    (source : StreamSource) {pipeline : Pipeline Note (Element ρ μ)}
    {terminal : Terminal Note (Element ρ μ)} (ended : pipeline.terminal = some terminal)
    (uncounting : terminal.kind ≠ .count) {query : TableQuery}
    (executed : ((table.runner settings observed).run pipeline source).executed = [query]) :
    query.counting = false := by
  cases compiled : (table.runner settings observed).compile pipeline source with
  | error failure =>
      rw [Runner.run_of_failure compiled] at executed
      cases executed
  | ok plan =>
      rw [Runner.run_of_plan compiled] at executed
      obtain rfl := List.head_eq_of_cons_eq executed
      obtain ⟨-, merged⟩ := (Runner.compile_eq_ok_iff _).mp compiled
      rw [Bool.eq_false_iff]
      intro counts
      obtain ⟨-, asked⟩ := PushRule.askedToCount_of_applyAll rfl merged counts
      have counting := (Runner.terminal_of_compile compiled).symm.trans asked.terminal
      exact uncounting (congrArg Terminal.kind (Option.some.inj (ended.symm.trans counting)))

end Table

namespace RowStream

/-- Ends of streams that ask a backend for the same, make the same notes and come to the same. There
is one exception: where the backend answers a counting query with counts and nothing is left to run,
the terminal of the former refuses them, and a stage of the latter does before its terminal. -/
structure Matches [Entity ρ] [BackendQuery κ ν] {β : Type} (runner : Runner ρ κ ν)
    (kind : Terminal.Kind) (former latter : Conclusion κ Note β) : Prop where
  executed : latter.executed = former.executed
  notes : latter.notes = former.notes
  result : latter.result = former.result ∨
    runner.RefusedApart kind former.executed former.result latter.result

/-! ## Terminals in two parts -/

variable [Entity ρ]

namespace ValueTerminal

variable {β : Type}

/-- A terminal that does what a stage and another terminal behind it do together. -/
structure FactorsThrough (whole : ValueTerminal ρ μ Note β) (stage : Stage Note (Element ρ μ))
    (last : ValueTerminal ρ μ Note β) : Prop where
  stays : stage.InProcess
  uncounting : whole.terminal.kind ≠ .count
  same (flow : Flow Note (Element ρ μ)) :
    last.terminal.consume (stage.run flow) = whole.terminal.consume flow
  reads : last.read = whole.read

variable (compare : Element ρ μ → Element ρ μ → Ordering) [Std.TransCmp compare]

theorem min_factorsThrough :
    (min compare : ValueTerminal ρ μ Note _).FactorsThrough (.sortedBy compare) findFirst where
  stays := Stage.inProcess_sortedBy compare
  uncounting := nofun
  same flow :=
    (Terminal.consume_findFirst_sorted compare flow).trans (Terminal.consume_min compare flow).symm
  reads := funext fun output => by cases output <;> rfl

theorem max_factorsThrough :
    (max compare : ValueTerminal ρ μ Note _).FactorsThrough
      (.sortedBy fun left right => compare right left) findFirst where
  stays := Stage.inProcess_sortedBy _
  uncounting := nofun
  same flow :=
    (Terminal.consume_findFirst_sorted _ flow).trans (Terminal.consume_max compare flow).symm
  reads := funext fun output => by cases output <;> rfl

end ValueTerminal

namespace Fresh

variable {handlers : List (CloseHandler Note)} {β : Type}
  {whole last : ValueTerminal ρ μ Note β} {stage : Stage Note (Element ρ μ)}

/-- A stream ends in a terminal of two parts as it ends in those parts. -/
theorem matches_push [BackendQuery κ ν] {stream : RowStream ρ κ ν μ Note}
    (fresh : Fresh handlers stream) (parts : whole.FactorsThrough stage last) :
    Matches stream.runner whole.terminal.kind (whole.conclude stream)
      (last.conclude (stream.push stage)) := by
  have ran : (stream.push stage).runInto last.terminal =
      stream.runner.run ((stream.consumed whole.terminal).followedBy stage last.terminal)
        stream.source := by
    rw [fresh.push_eq]
    rfl
  have ends : Runner.SameEnd stream.runner whole.terminal.kind (stream.runInto whole.terminal)
      ((stream.push stage).runInto last.terminal) := by
    rw [ran]
    exact Runner.run_followedBy parts.stays rfl parts.uncounting parts.same
  rw [fresh.conclude_eq, (fresh.push stage).conclude_eq, parts.reads]
  refine ⟨ends.executed, congrArg (· ++ handlers.map CloseHandler.note) ends.notes, ?_⟩
  dsimp only
  rcases ends.value with equal | ⟨asked, refused, refused'⟩
  · rw [equal]
    exact .inl rfl
  · rw [refused, refused']
    exact .inr ⟨asked, rfl, rfl⟩

/-- Over a table both come to the same. -/
theorem result_push_of_table {stream : RowStream ρ TableQuery TableCondition μ Note}
    {table : Table ρ} {settings : Settings} {observed : Bool} (fresh : Fresh handlers stream)
    (onTable : stream.runner = table.runner settings observed)
    (parts : whole.FactorsThrough stage last) :
    (last.conclude (stream.push stage)).result = (whole.conclude stream).result := by
  rcases (fresh.matches_push parts).result with
    equal | ⟨⟨query, counts, executed, -, answered⟩, -⟩
  · exact equal
  · rw [onTable] at answered
    rw [fresh.conclude_eq, runInto, onTable] at executed
    have uncounted : query.counting = false :=
      table.uncounted_of_executed settings observed stream.source rfl parts.uncounting executed
    cases uncounted.symm.trans (table.counting_of_counts answered)

end Fresh

/-- **Extremes are what sorting puts in front.** Under a total preorder the minimum of a flow is
the first of its elements once they are sorted, the first of the least ones, and the maximum the
first of the elements in the opposite order; there is none only of an empty flow. However a stream
is built, ending it in its minimum or maximum asks for the same, makes the same notes and comes to
the same as sorting it and taking the first element. Only where a backend answers a counting query
with counts and nothing is left to run, the two refuse these counts differently; a table whose
queries ask for rows at first does no such thing. -/
theorem extremes_agree_with_sorting [DecidableEq ρ] [Hashable ρ] [DecidableEq μ]
    [Hashable μ] [Ord ρ] [Ord μ] :
    (∀ {α : Type} (compare : α → α → Ordering) [Std.TransCmp compare] (flow : Flow Note α),
      Terminal.FindsLeast compare flow (.min compare) ∧
        Terminal.FindsLeast (fun left right => compare right left) flow (.max compare)) ∧
    ∀ (compare : Element ρ μ → Element ρ μ → Ordering) [Std.TransCmp compare]
      (source : StreamSource) (buildings : List (Building ρ μ Note)),
      (∀ {κ ν : Type} [BackendQuery κ ν] (runner : Runner ρ κ ν),
        let stream := (build runner source buildings).value
        Matches runner .min (stream.min compare) (stream.sortedBy compare).findFirst ∧
          Matches runner .max (stream.max compare)
            (stream.sortedBy fun left right => compare right left).findFirst) ∧
      ∀ (table : Table ρ) (settings : Settings) (observed : Bool),
        let stream := (build (table.runner settings observed) source buildings).value
        (stream.sortedBy compare).findFirst.result = (stream.min compare).result ∧
          (stream.sortedBy fun left right => compare right left).findFirst.result =
            (stream.max compare).result := by
  refine ⟨fun compare _ flow =>
    ⟨Terminal.findsLeast_min compare flow, Terminal.findsLeast_max compare flow⟩, ?_⟩
  intro compare _ source buildings
  have least := @ValueTerminal.min_factorsThrough ρ μ Note _ compare _
  have greatest := @ValueTerminal.max_factorsThrough ρ μ Note _ compare _
  constructor
  · intro κ ν _ runner stream
    have fresh := build_fresh runner source buildings
    have kept : stream.runner = runner := runner_buildFrom _ buildings
    rw [← kept]
    exact ⟨fresh.matches_push least, fresh.matches_push greatest⟩
  · intro table settings observed stream
    have fresh := build_fresh (table.runner settings observed) source buildings
    have onTable : stream.runner = table.runner settings observed := runner_buildFrom _ buildings
    exact ⟨fresh.result_push_of_table onTable least, fresh.result_push_of_table onTable greatest⟩

/-- Ties are settled for the earliest element, at both ends: of pairs, and of records that a
backend answers whatever it is asked. -/
theorem extremes_agree_with_sorting_ties :
    let byNumber : Nat × String → Nat × String → Ordering := compareOn Prod.fst
    let pairs : Flow String (Nat × String) := .ofList [(2, "a"), (1, "b"), (2, "c"), (1, "d")]
    let width : Element Record Empty → Nat := fun element =>
      element.row?.elim 0 fun row => row.fields.length
    let rows : List Record := [⟨[("n", .int 2)]⟩, ⟨[("n", .int 1)]⟩]
    let table : Table Record := { rows := rows }
    let runner : Runner Record TableQuery TableCondition :=
      ⟨{ table.backend with execute := fun _ => .ok (.rows rows) }, .plain, true⟩
    let stream : RowStream Record TableQuery TableCondition Empty String :=
      (({ runner := runner } : RowStream _ _ _ _ _).peek fun _ => "seen").onClose ⟨"closed", none⟩
    ((Pushdown.sortedBy byNumber pairs.elements).head? = some (1, "b") ∧
        (Pushdown.sortedBy (fun left right => byNumber right left) pairs.elements).head? =
          some (2, "a")) ∧
      ((stream.sortedBy (compareOn width)).findFirst.result = .ok (rows.head?.map .row) ∧
        (stream.sortedBy (compareOn width)).findFirst.notes = ["seen", "seen", "closed"]) := by
  intro byNumber pairs width rows table runner stream
  let _ : Hashable Record := ⟨fun _ => 0⟩
  let _ : Ord Record := ⟨fun _ _ => .eq⟩
  let _ : Hashable Empty := ⟨Empty.elim⟩
  let _ : Ord Empty := ⟨Empty.elim⟩
  obtain ⟨flows, streams⟩ := @extremes_agree_with_sorting Record Empty String _ _ _ _ _ _ _
  obtain ⟨least, greatest⟩ := flows byNumber pairs
  obtain ⟨ends, -⟩ := streams (compareOn width) {} [.peek fun _ => "seen", .onClose ⟨"closed", none⟩]
  obtain ⟨same, -⟩ := ends runner
  have minimum : (stream.min (compareOn width)).result = .ok (rows.head?.map .row) := rfl
  refine ⟨⟨Output.optional.inj least.sorted.symm, Output.optional.inj greatest.sorted.symm⟩, ?_, ?_⟩
  · rcases same.result with equal | ⟨⟨query, counts, -, -, answered⟩, -⟩
    · exact equal.trans minimum
    · cases answered
  · exact same.notes

/-- The two refuse counts differently. Where the queries of a table ask for a count from the start
and a stream has no stages, its minimum is refused by the terminal, and the first of the sorted
elements for the sort in front of it. -/
theorem extremes_and_sorting_refuse_counts_apart :
    let width : Element Record Empty → Nat := fun element =>
      element.row?.elim 0 fun row => row.fields.length
    let table : Table Record := { rows := [⟨[("n", .int 1)]⟩] }
    let runner : Runner Record TableQuery TableCondition :=
      { backend :=
          { table.backend with
            newQuery := fun source =>
              { table.backend.newQuery source with counting := true } } }
    let stream : RowStream Record TableQuery TableCondition Empty String := { runner := runner }
    Std.TransCmp (compareOn width) ∧
      (stream.min (compareOn width)).result = .error (.countsForTerminal .min) ∧
      (stream.sortedBy (compareOn width)).findFirst.result = .error .countsForRows ∧
      (stream.min (compareOn width)).result ≠
        (stream.sortedBy (compareOn width)).findFirst.result := by
  intro width table runner stream
  have minimum : (stream.min (compareOn width)).result = .error (.countsForTerminal .min) := rfl
  have first : (stream.sortedBy (compareOn width)).findFirst.result = .error .countsForRows := rfl
  refine ⟨inferInstance, minimum, first, ?_⟩
  rw [minimum, first]
  exact nofun

end RowStream

end Pushdown
