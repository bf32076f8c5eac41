import Pushdown.Proofs.Predicate.TableConditions
import Pushdown.Proofs.Sorting.FieldOrder
import Pushdown.Proofs.Sorting.StableSort
import Pushdown.Proofs.Window
import Pushdown.Table

/-! # What a table query selects

A query filters, sorts and cuts, in this order. Each part may grow after the fact where the
parts behind it do nothing yet: a condition may be added under an order, since a stable sort
commutes with filtering, though not under a window.
-/

namespace Pushdown

namespace TableQuery

variable {ρ : Type} [Entity ρ] (query : TableQuery) (rows : List ρ)

/-- A condition may be added to a query that does not cut: the order does not matter. -/
theorem select_addCondition (loose : query.window.isBounded = false)
    (condition : TableCondition) :
    select (BackendQuery.addCondition query condition) rows =
      (query.select rows).filter fun row => (condition.evaluate row).holds := by
  have both : accepts (ρ := ρ) (BackendQuery.addCondition query condition) =
      fun row => (condition.evaluate row).holds && query.accepts row := by
    funext row
    change (query.conditions ++ [condition]).all _ = _
    rw [List.all_append, List.all_cons, List.all_nil, Bool.and_true, Bool.and_comm]
    rfl
  unfold select
  rw [Window.apply_of_not_isBounded loose, filter_sortedBy, List.filter_filter, ← both]
  exact Window.apply_of_not_isBounded loose _

/-- The query with all keys of an order. -/
theorem addKeys_eq (keys : List SortKey) :
    keys.foldl BackendQuery.addKey query = { query with keys := query.keys ++ keys } := by
  induction keys generalizing query with
  | nil => rw [List.foldl_nil, List.append_nil]
  | cons key rest hyp =>
      rw [List.foldl_cons, hyp]
      change { query with keys := query.keys ++ [key] ++ rest } = _
      rw [List.append_assoc, List.singleton_append]

/-- Without keys every row is level with every other, and sorting moves none. -/
theorem sortedBy_noKeys : sortedBy (SortKey.compareBy []) rows = rows :=
  sortedBy_of_level fun _ _ _ _ => rfl

omit [Entity ρ] in
theorem isOrdered_eq_false_iff : BackendQuery.isOrdered query = false ↔ query.keys = [] := by
  change (!query.keys.isEmpty) = false ↔ _
  rw [Bool.not_eq_false', List.isEmpty_iff]

/-- A query that neither sorts nor cuts takes over a sort. -/
theorem select_addKeys (unordered : BackendQuery.isOrdered query = false)
    (loose : query.window.isBounded = false) (order : SortOrder) :
    select (order.keys.foldl BackendQuery.addKey query) rows =
      sortedBy order.compare (query.select rows) := by
  have noKeys := (isOrdered_eq_false_iff query).mp unordered
  rw [addKeys_eq]
  unfold select
  rw [noKeys, sortedBy_noKeys, Window.apply_of_not_isBounded loose,
    Window.apply_of_not_isBounded loose, List.nil_append]
  rfl

/-- The rows that a query selects from, before it cuts. -/
def uncut : List ρ :=
  sortedBy (SortKey.compareBy query.keys) (rows.filter query.accepts)

theorem select_setWindow (window : Window) :
    select (BackendQuery.setWindow query window) rows = window.apply (query.uncut rows) := rfl

theorem length_uncut_le : (query.uncut rows).length ≤ rows.length := by
  rw [uncut, sortedBy, List.length_mergeSort]
  exact List.length_filter_le _ _

theorem length_select_le : (query.select rows).length ≤ rows.length :=
  Nat.le_trans (query.window.length_apply_le _) (query.length_uncut_le rows)

end TableQuery

namespace Table

variable {ρ : Type} [Entity ρ] (table : Table ρ) {query : TableQuery}

theorem execute_failing {message : String} (failing : table.failure = some message) :
    table.execute query = .error s!"memory engine failure: {message}" := by
  simp only [execute, failing]

/-- A table that works answers a query for rows with the selected ones. -/
theorem execute_rows (working : table.failure = none) (uncounted : query.counting = false) :
    table.execute query = .ok (.rows (query.select table.rows)) := by
  simp only [execute, working, uncounted, Bool.false_eq_true, if_false]

/-- A table that works answers a counting query with the number of the selected rows. -/
theorem execute_counts (working : table.failure = none) (counts : query.counting = true) :
    table.execute query = .ok (.counts [.ofNat (query.select table.rows).length]) := by
  simp only [execute, working, counts, if_true]

/-- A table answers with counts only where it is asked to count. -/
theorem counting_of_counts {counts : List Count}
    (answered : table.execute query = .ok (.counts counts)) : query.counting = true := by
  by_contra uncounted
  cases failing : table.failure with
  | some message =>
      rw [table.execute_failing failing] at answered
      cases answered
  | none =>
      rw [table.execute_rows failing (Bool.eq_false_iff.mpr uncounted)] at answered
      cases answered

end Table

end Pushdown
