import GridQuery.Proofs.Group.Sorted
import GridQuery.Proofs.Select.Names
import GridQuery.Proofs.Select.Whole
import Mathlib.Data.List.Perm.Basic

/-!
# Totals over groups

Each row is counted in one group. So the counts of groups add up to the number of rows, and
sums of integers over groups to the sum over all rows, where a blank cell adds nothing and
the sum of nothing is null.
-/

namespace GridQuery

/-! ### Sums of integers -/

namespace Cell

/-- The integer that a cell holds. -/
def int? : Cell → Option Int
  | .number (.int value) => some value
  | _ => none

def IsIntOrBlank (cell : Cell) : Prop :=
  cell.isBlank = true ∨ ∃ value, cell = .int value

/-- Whether a cell shows an integer, null being taken for zero. -/
def CountsFor (cell : Cell) (value : Int) : Prop :=
  cell = .int value ∨ cell = .null ∧ value = 0

/-- The sum of some integers, null if there are none. -/
def sumOfInts : List Int → Cell
  | [] => .null
  | values => .int values.sum

theorem countsFor_sumOfInts (values : List Int) : (sumOfInts values).CountsFor values.sum := by
  cases values with
  | nil => exact .inr ⟨rfl, rfl⟩
  | cons _ _ => exact .inl rfl

theorem int?_of_isBlank {cell : Cell} (blank : cell.isBlank = true) : cell.int? = none := by
  cases cell with
  | null | text _ => rfl
  | number _ | boolean _ | date _ => cases blank

theorem filterMap_int?_filter (cells : List Cell) :
    (cells.filter (!·.isBlank)).filterMap int? = cells.filterMap int? := by
  rw [List.filterMap_filter]
  refine List.filterMap_congr fun cell _ => ?_
  by_cases blank : cell.isBlank = true
  · simp [blank, int?_of_isBlank blank]
  · simp [blank]

end Cell

theorem sumOf_ints (values : List Int) :
    sumOf (values.map .int) = .ok (.int values.sum) := by
  have from' (start : Int) : (values.map .int).foldlM
      (fun total number => Number.within (total.add? number)) (.int start) =
        (.ok (.int (start + values.sum)) : Except DataFault Number) := by
    induction values generalizing start with
    | nil => simp
    | cons value values inductionHypothesis =>
        rw [List.map_cons, List.foldlM_cons, List.sum_cons, ← Int.add_assoc]
        exact inductionHypothesis (start + value)
  rw [sumOf, from', Int.zero_add]

/-- A sum is null where there is no number. -/
theorem sumOrNull_ints (values : List Int) :
    (match values.map Number.int with
      | [] => return Cell.null
      | found => return .number (← sumOf found) : Except DataFault Cell) =
        .ok (Cell.sumOfInts values) := by
  cases values with
  | nil => rfl
  | cons value values =>
      have total := sumOf_ints (value :: values)
      rw [List.map_cons] at total ⊢
      simp only [total]
      rfl

/-- The sum of integers and blank cells is that of the integers. -/
theorem Aggregate.apply_sum {cells : List Cell} (given : ∀ cell ∈ cells, cell.IsIntOrBlank) :
    Aggregate.sum.apply cells = .ok (Cell.sumOfInts (cells.filterMap Cell.int?)) := by
  have numeric (cell : Cell) (among : cell ∈ cells.filter (!·.isBlank)) :
      cell.asNumber? = .ok (cell.int?.map .int) := by
    obtain ⟨inCells, present⟩ := List.mem_filter.mp among
    rcases given cell inCells with blank | ⟨value, rfl⟩
    · simp [blank] at present
    · rfl
  have numbers : ((cells.filter (!·.isBlank)).map fun cell => cell.int?.map Number.int).filterMap
      id = (cells.filterMap Cell.int?).map .int := by
    rw [← Cell.filterMap_int?_filter, List.filterMap_map, List.map_filterMap]
    rfl
  rw [apply]
  simp only [mapM_eq_ok_of_forall numeric]
  rw [← sumOrNull_ints, ← numbers]
  rfl

/-! ### Rows of groups -/

/-- A query that shows each of its groups, in any order. -/
structure SelectQuery.ShowsEachGroup (query : SelectQuery) : Prop where
  grouping : query.groupBy ≠ []
  pivot : query.pivot = []
  having : query.having = none
  distinct : query.distinct = false
  limit : query.limit = none
  offset : query.offset = 0

/-- The cells of a result in one of its columns. -/
def SelectResult.cellsAt (shown : SelectResult) (place : Nat) : List Cell :=
  Table.columnCells place shown.cellRows

theorem exists_perm_of_perm_map {Item Seen : Type} {view : Item → Seen} {items : List Item}
    {seen : List Seen} (perm : seen.Perm (items.map view)) :
    ∃ others : List Item, seen = others.map view ∧ others.Perm items :=
  (congrFun₂ (List.eq_map_comp_perm view) seen items).mpr perm

theorem sum_filterMap_flatMap {Item : Type} (parts : Item → List Row) (items : List Item)
    (value? : Row → Option Int) :
    (items.map fun item => ((parts item).filterMap value?).sum).sum =
      ((items.flatMap parts).filterMap value?).sum := by
  induction items with
  | nil => rfl
  | cons item items inductionHypothesis =>
      rw [List.map_cons, List.sum_cons, inductionHypothesis, List.flatMap_cons,
        List.filterMap_append, List.sum_append]

namespace Evaluator

variable {evaluator : Evaluator} {table : Table} {query : SelectQuery} {exprs : List Expr}
  {columns : List OutputColumn} {rows : List Row} {groups : List Group} {shown : SelectResult}

/-- What a query that shows each of its groups has gone through, and the rows of its
result. -/
theorem cellRows_of_showsEachGroup (each : query.ShowsEachGroup)
    (shows : OutputColumn.ofItems table query.items = .ok columns)
    (passed : evaluator.passingRows query table = .ok rows)
    (done : evaluator.select query table = .ok shown) :
    query.IsChecked table columns ∧ ∃ listed : List Group,
      (listed.flatMap (·.rows)).Perm rows ∧
      shown.cellRows = listed.map fun group =>
        (columns.map (·.expr)).map (evaluator.shownAt table group.rows) := by
  have grouped : query.isAggregated columns = true := by
    simp [SelectQuery.isAggregated, each.grouping]
  simp only [select, bind_eq_ok_iff, lift_validation_eq_ok_iff, shows, passed, Except.ok.injEq,
    exists_eq_left', outputOf, grouped, if_true, aggregate, each.pivot, List.isEmpty_nil,
    arrange, distinctRows, each.distinct, Bool.not_false, each.limit, each.offset,
    pure_eq_ok] at done
  obtain ⟨_, checked, output, ⟨_, -, groups, made, outputs, projected, rfl⟩, arranged,
    ⟨sorted, sorts, rfl⟩, rendered⟩ := done
  refine ⟨SelectQuery.check_eq_ok_iff.mp checked, ?_⟩
  have cells := (sortRows_perm sorts).map (·.cells)
  rw [map_cells_of_groups each.having projected] at cells
  obtain ⟨listed, seen, perm⟩ := exists_perm_of_perm_map cells
  have whole := (perm.flatMap_right (·.rows)).trans (flatMap_groups_perm each.grouping made)
  refine ⟨listed, whole, ?_⟩
  rw [(cellRows_of_render rendered).1, page, List.drop_zero, seen]
  simp

theorem cellsAt_of_cellRows {place : Nat} {column : OutputColumn}
    (found : columns[place]? = some column)
    (cells : shown.cellRows = groups.map fun group =>
      (columns.map (·.expr)).map (evaluator.shownAt table group.rows)) :
    shown.cellsAt place =
      groups.map fun group => evaluator.shownAt table group.rows column.expr := by
  rw [SelectResult.cellsAt, Table.columnCells, cells, List.map_map]
  refine List.map_congr_left fun group _ => ?_
  rw [Function.comp_apply, List.getD_eq_getElem?_getD, List.getElem?_map, List.getElem?_map, found]
  rfl

/-- What a query shows of groups adds up to what it is of all rows that pass: the counts of
rows, and the sums of each column of integers and blank cells. -/
structure Conserves (evaluator : Evaluator) (query : SelectQuery) (table : Table)
    (rows : List Row) (columns : List OutputColumn) (shown : SelectResult) : Prop where
  counts : ∀ place column, columns[place]? = some column → column.expr = .countRows →
    ∃ counts : List Nat, shown.cellsAt place = counts.map (fun count : Nat => Cell.int count) ∧
      counts.sum = rows.length
  sums : ∀ place column reference, columns[place]? = some column →
    column.expr = .aggregate .sum (.column reference) →
    (∀ row ∈ rows, (evaluator.cellAt table row (.column reference)).IsIntOrBlank) →
    ∃ sums whole total, List.Forall₂ Cell.CountsFor (shown.cellsAt place) sums ∧
      evaluator.select (wholeQuery query.source query.joins query.filter .sum reference) table =
        .ok whole ∧
      whole.cellRows = [[total]] ∧ total.CountsFor sums.sum

theorem conserves_of_showsEachGroup (each : query.ShowsEachGroup)
    (shows : OutputColumn.ofItems table query.items = .ok columns)
    (passed : evaluator.passingRows query table = .ok rows)
    (done : evaluator.select query table = .ok shown) :
    evaluator.Conserves query table rows columns shown := by
  obtain ⟨checked, groups, whole, cells⟩ := cellRows_of_showsEachGroup each shows passed done
  constructor
  case counts =>
    intro place column found expr
    refine ⟨groups.map (·.rows.length), ?_, ?_⟩
    · rw [cellsAt_of_cellRows found cells, expr, List.map_map]
      rfl
    · rw [← whole.length_eq, List.length_flatMap]
  case sums =>
    intro place column reference found expr ints
    have among := List.mem_of_getElem? found
    have placeless : column.place = none :=
      OutputColumn.place_of_hasAggregate shows among (by rw [expr]; rfl)
    have known := checked.shown column among placeless
    rw [expr] at known
    obtain ⟨own, resolved⟩ := check_column.mp known
    simp only [cellAt_column resolved] at ints
    -- The sum of a part of the rows is that of the integers in it.
    let value? (row : Row) : Option Int := (row.cells.getD own .null).int?
    have summed {part : List Row} (within : part ⊆ rows) :
        Aggregate.sum.apply (part.map fun row => row.cells.getD own .null) =
          .ok (Cell.sumOfInts (part.filterMap value?)) := by
      rw [Aggregate.apply_sum, List.filterMap_map]
      · rfl
      · intro cell held
        obtain ⟨row, inPart, rfl⟩ := List.mem_map.mp held
        exact ints row (within inPart)
    have shownSum (group : Group) (inGroups : group ∈ groups) :
        evaluator.shownAt table group.rows column.expr =
          Cell.sumOfInts (group.rows.filterMap value?) := by
      have within : group.rows ⊆ rows := fun row held =>
        whole.subset (List.mem_flatMap.mpr ⟨group, inGroups, held⟩)
      rw [shownAt, expr, value_aggregate resolved, summed within]
      rfl
    have all : ∃ result, evaluator.select
        (wholeQuery query.source query.joins query.filter .sum reference) table = .ok result ∧
        result.cellRows = [[Cell.sumOfInts (rows.filterMap value?)]] :=
      select_wholeQuery resolved checked.filtered checked.filter passed
        (summed (List.Subset.refl rows))
    obtain ⟨result, selected, one⟩ := all
    refine ⟨groups.map fun group => (group.rows.filterMap value?).sum, result, _, ?_, selected,
      one, ?_⟩
    · rw [cellsAt_of_cellRows found cells, List.map_congr_left shownSum,
        List.forall₂_map_left_iff, List.forall₂_map_right_iff, List.forall₂_same]
      exact fun group _ => Cell.countsFor_sumOfInts _
    · rw [sum_filterMap_flatMap, (whole.filterMap value?).sum_eq]
      exact Cell.countsFor_sumOfInts _

/-- Rows are grouped whenever all their keys can be sorted, and then into groups that each
have all rows of one key, in the order of the keys. So nothing is counted twice or left out:
the counts and sums that a query shows of the groups add up to those of all rows. -/
theorem groups_partition_and_conserve (grouping : exprs ≠ [])
    (numbers : evaluator.NeverNaN table rows exprs) :
    ((∃ groups, evaluator.groups table rows exprs = .ok groups) ↔
      evaluator.Sortable table rows exprs) ∧
    (∀ groups, evaluator.groups table rows exprs = .ok groups →
      PartitionsInOrder (evaluator.keyAt table exprs) rows groups) ∧
    ∀ query columns shown, query.ShowsEachGroup → query.groupBy = exprs →
      OutputColumn.ofItems table query.items = .ok columns →
      evaluator.passingRows query table = .ok rows →
      evaluator.select query table = .ok shown →
        evaluator.Conserves query table rows columns shown :=
  ⟨exists_groups_iff grouping, fun _ made => partitionsInOrder_groups grouping numbers made,
    fun _ _ _ each _ shows passed done => conserves_of_showsEachGroup each shows passed done⟩

/-! ### A stock of which not all is counted -/

def stock : Table :=
  .ofHeader "stock" none [.text "item", .text "held"]
    [[.text "pen", .int 1], [.text "ink", .null], [.text "pen", .int 2]]

/-- How many rows there are of each item, and how much is held of it. -/
def heldQuery : SelectQuery :=
  groupQuery [.expr (named "item") none, .expr .countRows none,
    .expr (.aggregate .sum (named "held")) none] [named "item"]

def heldColumns : List OutputColumn :=
  [⟨named "item", "item", "item", none, none⟩, ⟨.countRows, "count", "count(*)", none, none⟩,
    ⟨.aggregate .sum (named "held"), "sum-held", "sum held", none, none⟩]

theorem stock_neverNaN : morning.NeverNaN stock stock.rows [named "item"] := by
  intro row among expr inExprs
  have rows : stock.rows = [⟨0, [.text "pen", .int 1]⟩, ⟨1, [.text "ink", .null]⟩,
    ⟨2, [.text "pen", .int 2]⟩] := rfl
  obtain rfl := List.mem_singleton.mp inExprs
  simp only [rows, List.mem_cons, List.not_mem_nil, or_false] at among
  rcases among with rfl | rfl | rfl <;> decide

set_option maxRecDepth 4000 in
theorem stock_totals :
    ∃ shown groups, morning.groups stock stock.rows [named "item"] = .ok groups ∧
      PartitionsInOrder (morning.keyAt stock [named "item"]) stock.rows groups ∧
      morning.select heldQuery stock = .ok shown ∧
      shown.cellRows = [[.text "ink", .int 1, .null], [.text "pen", .int 2, .int 3]] ∧
      morning.Conserves heldQuery stock stock.rows heldColumns shown := by
  obtain ⟨-, partitions, conserves⟩ :=
    groups_partition_and_conserve (List.cons_ne_nil _ _) stock_neverNaN
  let ink : Group := ⟨[.text "ink"], [⟨1, [.text "ink", .null]⟩]⟩
  let pen : Group := ⟨[.text "pen"], [⟨0, [.text "pen", .int 1]⟩, ⟨2, [.text "pen", .int 2]⟩]⟩
  have made : morning.groups stock stock.rows [named "item"] = .ok [ink, pen] := by cbv
  have selected : ∃ shown, morning.select heldQuery stock = .ok shown ∧
      shown.cellRows = [[.text "ink", .int 1, .null], [.text "pen", .int 2, .int 3]] := by
    refine ⟨⟨[⟨"item", "item", .string, none⟩, ⟨"count", "count(*)", .number, none⟩,
      ⟨"sum-held", "sum held", .number, none⟩],
      [[⟨.text "ink", none⟩, ⟨.int 1, none⟩, ⟨.null, none⟩],
        [⟨.text "pen", none⟩, ⟨.int 2, none⟩, ⟨.int 3, none⟩]], .null⟩, by cbv, rfl⟩
  obtain ⟨shown, done, cells⟩ := selected
  have each : heldQuery.ShowsEachGroup := by
    constructor <;> first | rfl | exact List.cons_ne_nil _ _
  have shows : OutputColumn.ofItems stock heldQuery.items = .ok heldColumns := by cbv
  exact ⟨shown, _, made, partitions _ made, done, cells,
    conserves _ _ _ each rfl shows rfl done⟩

end Evaluator

end GridQuery
