import GridQuery.Proofs.Select.Grouped
import GridQuery.Proofs.Select.Stages

/-!
# DISTINCT and GROUP BY

Rows that are thinned out by all their cells and then sorted by them are the groups of these
cells: the first row of each key is the first row of a bucket, and both are sorted by the same
keys. This holds of all cells, also of those that are the same as no other and of those that
are on a par without being the same.
-/

namespace GridQuery

/-! ### Columns of expressions -/

/-- Columns of expressions have no name and show no place of the table. -/
theorem plain_of_ofItems {table : Table} {exprs : List Expr} {columns : List OutputColumn}
    (shows : OutputColumn.ofItems table (exprs.map (.expr · none)) = .ok columns) :
    ∀ column ∈ columns, column.name = none ∧ column.place = none := by
  simp only [OutputColumn.ofItems, bind_eq_ok_iff, pure_eq_ok, Except.ok.injEq] at shows
  obtain ⟨parts, made, rfl⟩ := shows
  intro column among
  obtain ⟨part, inParts, inPart⟩ := List.mem_flatten.mp among
  obtain ⟨item, inItems, one⟩ := exists_of_mem_mapM made inParts
  obtain ⟨expr, -, rfl⟩ := List.mem_map.mp inItems
  simp only [OutputColumn.ofItem, OutputColumn.ofExpr, Option.filter_none, bind_eq_ok_iff,
    pure_eq_ok, Except.ok.injEq] at one
  obtain ⟨_, ⟨_, _, _, _, rfl⟩, rfl⟩ := one
  obtain rfl := List.mem_singleton.mp inPart
  exact ⟨rfl, rfl⟩

theorem Output.mapM_resultRow (patterns : List (Nat × String)) (rows : List OutputRow) :
    rows.mapM (resultRow patterns) = (rows.map (·.cells)).mapM fun cells =>
      cells.zipIdx.mapM fun (cell, index) => resultCell (patterns.lookup index) cell := by
  rw [List.mapM_map]
  rfl

/-- A result without LABEL and FORMAT has nothing but the columns and cells that it shows. -/
theorem Output.render_congr {output other : Output} (columns : output.columns = other.columns)
    (cells : output.rows.map (·.cells) = other.rows.map (·.cells)) (table : Table)
    (labels formats : List (Expr × String)) :
    output.render table labels formats = other.render table labels formats := by
  simp only [render, resultColumns, notes, mapM_resultRow, columns, cells]

namespace Evaluator

variable {evaluator : Evaluator} {table : Table} {exprs : List Expr} {rows : List Row}
  {columns : List OutputColumn} {query : SelectQuery}

/-- A query for the different values of expressions, in their order. -/
def distinctQuery (source : Option TableRef) (joins : List JoinClause) (filter : Option Expr)
    (exprs : List Expr) : SelectQuery :=
  { groupQuery (exprs.map (.expr · none)) [] with
    source, joins, filter, distinct := true, orderBy := exprs.map (⟨·, false⟩) }

/-- A query for the groups of rows by the values of expressions. -/
def groupedQuery (source : Option TableRef) (joins : List JoinClause) (filter : Option Expr)
    (exprs : List Expr) : SelectQuery :=
  { groupQuery (exprs.map (.expr · none)) exprs with source, joins, filter }

/-! ### Rows that are thinned out -/

/-- A row as it is shown by expressions. -/
def shownRow (evaluator : Evaluator) (table : Table) (exprs : List Expr) (row : Row) : OutputRow :=
  ⟨evaluator.keyAt table exprs row, Context.ofRow table row.cells⟩

/-- The first row of each key. -/
def firstRows (evaluator : Evaluator) (table : Table) (exprs : List Expr) (rows : List Row) :
    List (List Cell × Row) :=
  Buckets.firsts sameCells (rows.map fun row => (evaluator.keyAt table exprs row, row))

theorem mem_firstRows {entry : List Cell × Row}
    (among : entry ∈ evaluator.firstRows table exprs rows) :
    entry.2 ∈ rows ∧ entry.1 = evaluator.keyAt table exprs entry.2 := by
  obtain ⟨row, inRows, rfl⟩ := List.mem_map.mp (Buckets.firsts_subset _ among)
  exact ⟨inRows, rfl⟩

theorem project_eq_ok (plain : ∀ column ∈ columns, column.name = none ∧ column.place = none)
    {row : Row} {shown : OutputRow} (done : evaluator.project table columns row = .ok shown) :
    shown = evaluator.shownRow table (columns.map (·.expr)) row := by
  simp only [project, bind_eq_ok_iff, pure_eq_ok, Except.ok.injEq] at done
  obtain ⟨cells, evaluated, rfl⟩ := done
  rw [named_eq_nil fun column among => (plain column among).1, withNames_nil]
  have same : cells = evaluator.keyAt table (columns.map (·.expr)) row := by
    rw [(mapM_eq_ok .null evaluated).2, keyAt, List.map_map]
    refine List.map_congr_left fun column among => ?_
    rw [(plain column among).2]
    rfl
  rw [same]
  rfl

/-- Rows that are not grouped are shown one by one. -/
theorem outputOf_plain (ungrouped : query.isAggregated columns = false)
    (unfiltered : query.having = none)
    (plain : ∀ column ∈ columns, column.name = none ∧ column.place = none) {output : Output}
    (made : evaluator.outputOf query table columns rows = .ok output) :
    output = ⟨columns, rows.map (evaluator.shownRow table (columns.map (·.expr)))⟩ := by
  rw [outputOf, ungrouped] at made
  simp only [unfiltered, Option.isSome_none, Bool.false_eq_true, if_false, bind_eq_ok_iff,
    pure_eq_ok, Except.ok.injEq] at made
  obtain ⟨outputs, projected, rfl⟩ := made
  have each (row : Row) (shown : OutputRow)
      (done : evaluator.project table columns row = .ok shown) :
      id shown = evaluator.shownRow table (columns.map (·.expr)) row :=
    project_eq_ok plain done
  rw [← map_of_mapM_eq_ok each projected, List.map_id]

/-- Rows that are shown by expressions are thinned out to the first ones of their keys. -/
theorem distinctItems_shownRow (rows : List Row) :
    distinctItems ((rows.map (evaluator.shownRow table exprs)).map fun row => (row.cells, row)) =
      (evaluator.firstRows table exprs rows).map fun entry =>
        evaluator.shownRow table exprs entry.2 := by
  have kept : Buckets.firsts sameCells ((rows.map fun row =>
      (evaluator.keyAt table exprs row, row)).map fun entry =>
        (entry.1, evaluator.shownRow table exprs entry.2)) =
      (evaluator.firstRows table exprs rows).map fun entry =>
        (entry.1, evaluator.shownRow table exprs entry.2) :=
    Buckets.firsts_map _ _
  have thinned := congrArg (List.map Prod.snd) kept
  rw [List.map_map, List.map_map] at thinned
  rw [List.map_map]
  exact thinned

theorem distinctRows_all (thins : query.distinct = true) (whole : query.distinctOn = [])
    (rows : List OutputRow) :
    evaluator.distinctRows query rows =
      .ok (distinctItems (rows.map fun row => (row.cells, row))) := by
  have keyed : (rows.mapM fun row => do
      if query.distinctOn.isEmpty then return (row.cells, row)
      else return (← evaluator.values row.context query.distinctOn, row) :
        Except Error (List (List Cell × OutputRow))) =
      .ok (rows.map fun row => (row.cells, row)) := by
    refine mapM_eq_ok_of_forall fun row _ => ?_
    rw [whole]
    rfl
  rw [distinctRows, thins, keyed]
  rfl

/-! ### The keys of the first rows, in their order -/

/-- The keys of some rows, each of them once, in their order. -/
def ListsKeys (evaluator : Evaluator) (table : Table) (exprs : List Expr) (rows : List Row)
    (cells : List (List Cell)) : Prop :=
  ∃ places, sortPositions (exprs.map fun _ => false)
      ((evaluator.firstRows table exprs rows).map (·.1)) = .ok places ∧
    cells = pick ((evaluator.firstRows table exprs rows).map (·.1)) places

theorem ListsKeys.unique {cells others : List (List Cell)}
    (listed : evaluator.ListsKeys table exprs rows cells)
    (again : evaluator.ListsKeys table exprs rows others) : cells = others := by
  obtain ⟨places, ordered, rfl⟩ := listed
  obtain ⟨otherPlaces, otherOrdered, rfl⟩ := again
  rw [Except.ok.inj (ordered.symm.trans otherOrdered)]

variable {source : Option TableRef} {joins : List JoinClause} {filter : Option Expr}

theorem listsKeys_of_sortRows (some : exprs ≠ []) (valued : evaluator.Valued table rows exprs)
    {sorted : List OutputRow}
    (done : evaluator.sortRows (exprs.map (OrderKey.mk · false)) OutputRow.context
      ((evaluator.firstRows table exprs rows).map fun entry =>
        evaluator.shownRow table exprs entry.2) = .ok sorted) :
    evaluator.ListsKeys table exprs rows (sorted.map (·.cells)) := by
  have keys : (exprs.map (OrderKey.mk · false)).map (·.expr) = exprs := by
    simp [Function.comp_def]
  rw [sortRows_map, map_eq_ok_iff] at done
  obtain ⟨entries, done, rfl⟩ := done
  have values (entry : List Cell × Row) (among : entry ∈ evaluator.firstRows table exprs rows) :
      evaluator.values (evaluator.shownRow table exprs entry.2).context
        ((exprs.map (OrderKey.mk · false)).map (·.expr)) = .ok entry.1 := by
    obtain ⟨inRows, key⟩ := mem_firstRows among
    rw [keys, key]
    exact values_eq_keyAt valued inRows
  obtain ⟨places, ordered, rfl⟩ := (sortRows_eq_ok_iff (by simpa using some) values _).mp done
  rw [List.map_map] at ordered
  refine ⟨places, ordered, ?_⟩
  rw [← pick_map, ← pick_map, List.map_map]
  refine congrArg (pick · places) (List.map_congr_left fun entry among => ?_)
  exact (mem_firstRows among).2.symm

/-- DISTINCT shows the keys of the rows that pass. -/
theorem listsKeys_of_distinct (plain : ∀ expr ∈ exprs, expr.hasAggregate = false)
    (some : exprs ≠ []) (valued : evaluator.Valued table rows exprs)
    (listed : columns.map (·.expr) = exprs)
    (unnamed : ∀ column ∈ columns, column.name = none ∧ column.place = none)
    {output arranged : Output}
    (made : evaluator.outputOf (distinctQuery source joins filter exprs) table columns rows =
      .ok output)
    (ordered : evaluator.arrange (distinctQuery source joins filter exprs) output =
      .ok arranged) :
    arranged.columns = columns ∧
      evaluator.ListsKeys table exprs rows (arranged.rows.map (·.cells)) := by
  have ungrouped : (distinctQuery source joins filter exprs).isAggregated columns = false := by
    have shown (column : OutputColumn) (among : column ∈ columns) :
        column.expr.hasAggregate = false :=
      plain _ (listed ▸ List.mem_map_of_mem among)
    simpa [SelectQuery.isAggregated, distinctQuery, groupQuery] using And.intro shown plain
  obtain rfl := outputOf_plain ungrouped rfl unnamed made
  have thinned : evaluator.distinctRows (distinctQuery source joins filter exprs)
      (rows.map (evaluator.shownRow table (columns.map (·.expr)))) =
      .ok ((evaluator.firstRows table exprs rows).map fun entry =>
        evaluator.shownRow table exprs entry.2) := by
    rw [distinctRows_all rfl rfl, listed, distinctItems_shownRow]
  simp only [arrange, thinned, bind_eq_ok_iff, Except.ok.injEq, exists_eq_left',
    pure_eq_ok] at ordered
  obtain ⟨sorted, sorts, rfl⟩ := ordered
  have whole : page (distinctQuery source joins filter exprs).offset
      (distinctQuery source joins filter exprs).limit sorted = sorted :=
    List.drop_zero
  refine ⟨rfl, ?_⟩
  rw [whole]
  exact listsKeys_of_sortRows some valued sorts

/-- GROUP BY shows the keys of the rows that pass. -/
theorem listsKeys_of_grouped (some : exprs ≠ []) (listed : columns.map (·.expr) = exprs)
    {output : Output}
    (made : evaluator.outputOf (groupedQuery source joins filter exprs) table columns rows =
      .ok output) :
    output.columns = columns ∧ evaluator.Valued table rows exprs ∧
      evaluator.ListsKeys table exprs rows (output.rows.map (·.cells)) := by
  have grouped : (groupedQuery source joins filter exprs).isAggregated columns = true := by
    simp [SelectQuery.isAggregated, groupedQuery, groupQuery, some]
  rw [outputOf, grouped] at made
  simp only [if_true, aggregate, groupedQuery, groupQuery, List.isEmpty_nil, bind_eq_ok_iff,
    pure_eq_ok, Except.ok.injEq] at made
  obtain ⟨_, -, groups, made, outputs, projected, rfl⟩ := made
  obtain ⟨valued, places, ordered, rfl⟩ := groups_eq_pick some made
  have start : Buckets.StartWith (evaluator.bucketsOf table exprs rows)
      (evaluator.firstRows table exprs rows) :=
    Buckets.startWith_ofList _
  have keys : (evaluator.bucketsOf table exprs rows).map (·.1) =
      (evaluator.firstRows table exprs rows).map (·.1) := by
    have fronts := congrArg (List.map Prod.fst) start
    rwa [List.map_map, List.map_map] at fronts
  rw [keys] at ordered
  refine ⟨rfl, valued, places, ordered, ?_⟩
  rw [map_cells_of_groups rfl projected, listed, ← keys, ← pick_map, List.map_map]
  refine congrArg (pick · places) (List.map_congr_left fun bucket among => ?_)
  obtain ⟨entry, first, front⟩ := List.mem_map.mp (start ▸ List.mem_map_of_mem among)
  obtain ⟨inRows, key⟩ := mem_firstRows first
  obtain ⟨same, inFront⟩ := Prod.mk.inj front
  obtain ⟨rest, held⟩ := List.head?_eq_some_iff.mp inFront.symm
  simp only [Function.comp_apply, held, map_shownAt_eq_keyAt valued inRows, List.map_nil,
    List.append_nil]
  rw [← key, same]

/-- SELECT DISTINCT with ORDER BY shows what SELECT with GROUP BY shows, for expressions without
an aggregate. -/
theorem select_distinct_eq (some : exprs ≠ []) (plain : ∀ expr ∈ exprs, expr.hasAggregate = false)
    {distinct grouped : SelectResult}
    (thinned : evaluator.select (distinctQuery source joins filter exprs) table = .ok distinct)
    (bucketed : evaluator.select (groupedQuery source joins filter exprs) table = .ok grouped) :
    distinct = grouped := by
  simp only [select, bind_eq_ok_iff, lift_validation_eq_ok_iff] at thinned bucketed
  obtain ⟨columns, shows, _, -, rows, passed, output, made, arranged, ordered, rendered⟩ :=
    thinned
  obtain ⟨again, showsAgain, _, -, rowsAgain, passedAgain, flat, grouping, arrangedFlat, kept,
    renderedFlat⟩ := bucketed
  cases shows.symm.trans showsAgain
  cases passed.symm.trans passedAgain
  have unarranged : (groupedQuery source joins filter exprs).Unarranged := by
    constructor <;> rfl
  rw [arrange_of_unarranged unarranged] at kept
  cases kept
  have listed : columns.map (·.expr) = exprs :=
    exprs_of_ofItems (by simp [distinctQuery, groupQuery, SelectItem.expr?]) shows
  obtain ⟨sameColumns, valued, flatKeys⟩ := listsKeys_of_grouped some listed grouping
  obtain ⟨ownColumns, distinctKeys⟩ :=
    listsKeys_of_distinct plain some valued listed (plain_of_ofItems shows) made ordered
  rw [Output.render_congr (ownColumns.trans sameColumns.symm)
    (distinctKeys.unique flatKeys)] at rendered
  exact Except.ok.inj (rendered.symm.trans renderedFlat)

/-! ### The items of some sales, one of them sold twice -/

theorem sales_distinct :
    ∃ shown, shown.cellRows = [[.text "ink"], [.text "pen"]] ∧
      morning.select (distinctQuery none [] none [named "item"]) sales = .ok shown ∧
      morning.select (groupedQuery none [] none [named "item"]) sales = .ok shown := by
  let shown : SelectResult :=
    ⟨[⟨"item", "item", .string, none⟩], [[⟨.text "ink", none⟩], [⟨.text "pen", none⟩]], .null⟩
  have thinned : morning.select (distinctQuery none [] none [named "item"]) sales = .ok shown := by
    cbv
  have grouped : ∃ grouped, morning.select (groupedQuery none [] none [named "item"]) sales =
      .ok grouped :=
    ⟨shown, by cbv⟩
  obtain ⟨grouped, bucketed⟩ := grouped
  have plain : ∀ expr ∈ [named "item"], expr.hasAggregate = false := by decide
  obtain rfl := select_distinct_eq (by simp) plain thinned bucketed
  exact ⟨_, rfl, thinned, bucketed⟩

end Evaluator

end GridQuery
