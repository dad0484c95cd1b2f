import GridQuery.Proofs.Selection
import GridQuery.Proofs.Table.Names
import GridQuery.Proofs.Table.Place

/-!
# SELECT * with WHERE, ORDER BY and LIMIT

Such a query shows the rows of its table that a selection of rows picks, each as it is and
in the order of the selection.
-/

namespace GridQuery

/-- A query for all columns of the rows of a table that pass a condition. -/
def starQuery (source : Option TableRef) (filter : Option Expr) (orderBy : List OrderKey)
    (limit : Option Nat) : SelectQuery where
  items := [.star none]
  source := source
  joins := []
  filter := filter
  groupBy := []
  having := none
  orderBy := orderBy
  limit := limit
  offset := 0
  distinct := false
  distinctOn := []
  pivot := []
  labels := []
  formats := []

/-! ### Columns -/

/-- The columns of the table, each at its place, as they are and without a name of their
own. -/
def ShowsPlaces (width : Nat) (columns : List OutputColumn) : Prop :=
  columns.map (·.place) = (List.range width).map some ∧
    ∀ column ∈ columns, column.name = none ∧ column.expr.hasAggregate = false

theorem ofPlace_eq_ok {table : Table} {column : Column} {place : Nat} {shown : OutputColumn}
    (done : OutputColumn.ofPlace table column place = .ok shown) :
    shown.place = some place ∧ shown.name = none ∧ shown.expr.hasAggregate = false := by
  simp only [OutputColumn.ofPlace, bind_eq_ok_iff, pure_eq_ok, Except.ok.injEq] at done
  obtain ⟨_, _, _, _, rfl⟩ := done
  exact ⟨rfl, rfl, rfl⟩

theorem showsPlaces_of_ofItems {table : Table} {columns : List OutputColumn}
    (done : OutputColumn.ofItems table [.star none] = .ok columns) :
    ShowsPlaces table.columns.length columns := by
  simp only [OutputColumn.ofItems, List.mapM_cons, List.mapM_nil, OutputColumn.ofItem,
    bind_eq_ok_iff, pure_eq_ok, Except.ok.injEq] at done
  obtain ⟨_, ⟨shown, shows, _, rfl, rfl⟩, rfl⟩ := done
  split at shows
  · simp at shows
  · have : Inhabited OutputColumn := ⟨⟨.countRows, "", "", none, none⟩⟩
    obtain ⟨each, rfl⟩ := mapM_eq_ok default shows
    simp only [List.flatten_cons, List.flatten_nil, List.append_nil]
    constructor
    · rw [List.map_map, List.range_eq_range', ← List.zipIdx_map_snd 0 table.columns,
        List.map_map]
      refine List.map_congr_left fun pair membership => ?_
      exact (ofPlace_eq_ok (each pair membership)).1
    · intro column membership
      obtain ⟨pair, among, rfl⟩ := List.mem_map.mp membership
      exact (ofPlace_eq_ok (each pair among)).2

theorem withNames_nil (context : Context) : context.withNames [] = context := by
  cases context
  simp [Context.withNames]

theorem named_eq_nil {columns : List OutputColumn}
    (nameless : ∀ column ∈ columns, column.name = none) (cells : List Cell) :
    OutputColumn.named columns cells = [] := by
  rw [OutputColumn.named, List.filterMap_eq_nil_iff]
  rintro ⟨column, cell⟩ membership
  have unnamed := nameless column (List.of_mem_zip membership).1
  simp only [unnamed, Option.map_none]

/-! ### Rows -/

namespace Evaluator

variable {evaluator : Evaluator} {table : Table}

theorem map_getD_range (cells : List Cell) :
    ((List.range cells.length).map fun place => cells.getD place .null) = cells := by
  refine List.ext_getElem (by simp) fun place _ within => ?_
  simp [within]

variable (evaluator table) in
theorem cell_of_showsPlaces {columns : List OutputColumn} {row : Row}
    (shows : ShowsPlaces row.cells.length columns) (column : OutputColumn)
    (membership : column ∈ columns) :
    (match column.place with
      | some place => return row.cells.getD place .null
      | none => evaluator.value (.ofRow table row.cells) column.expr : Except Error Cell) =
      .ok ((column.place.map fun place => row.cells.getD place .null).getD .null) := by
  have among : column.place ∈ columns.map (·.place) := List.mem_map_of_mem membership
  rw [shows.1] at among
  obtain ⟨place, _, same⟩ := List.mem_map.mp among
  rw [← same]
  rfl

/-- Columns that show all places show a row as it is. -/
theorem project_of_showsPlaces {columns : List OutputColumn} {row : Row}
    (shows : ShowsPlaces row.cells.length columns) :
    evaluator.project table columns row = .ok ⟨row.cells, Context.ofRow table row.cells⟩ := by
  have cells : (columns.map fun column =>
      (column.place.map fun place => row.cells.getD place .null).getD .null) = row.cells := by
    have all := congrArg (List.map fun place : Option Nat =>
      (place.map fun place => row.cells.getD place .null).getD .null) shows.1
    rw [List.map_map, List.map_map] at all
    exact all.trans (map_getD_range row.cells)
  have shown := mapM_eq_ok_of_forall (cell_of_showsPlaces evaluator table shows)
  rw [cells] at shown
  rw [project, bind_eq_ok_iff]
  refine ⟨row.cells, shown, ?_⟩
  rw [named_eq_nil fun column membership => (shows.2 column membership).1, withNames_nil]
  rfl

theorem sortRows_nil {Item : Type} (keys : List OrderKey) (context : Item → Context) :
    evaluator.sortRows keys context [] = .ok [] := by
  rw [sortRows]
  split
  · rfl
  · simp [sortPositions, sortPlaces, pick]

/-- Sorting rows in another form is sorting the rows. -/
theorem sortRows_map {Item Other : Type} (convert : Item → Other) {keys : List OrderKey}
    {context : Other → Context} (rows : List Item) :
    evaluator.sortRows keys context (rows.map convert) =
      (evaluator.sortRows keys (fun row => context (convert row)) rows).map
        (List.map convert) := by
  rw [sortRows, sortRows]
  split
  · rfl
  · have evaluated : ((rows.map convert).mapM fun row =>
        evaluator.values (context row) (keys.map (·.expr))) =
          rows.mapM fun row => evaluator.values (context (convert row)) (keys.map (·.expr)) := by
      rw [List.mapM_map]
      rfl
    rw [evaluated]
    cases rows.mapM fun row => evaluator.values (context (convert row)) (keys.map (·.expr)) with
    | error error => rfl
    | ok cells =>
        cases positions : sortPositions (keys.map (·.descending)) cells with
        | error fault =>
            simp only [bind, Except.bind, positions]
            rfl
        | ok places =>
            simp only [bind, Except.bind, positions, pick_map]
            rfl

/-- A row as a query for all columns shows it. -/
def outputRow (table : Table) (row : Row) : OutputRow :=
  ⟨row.cells, Context.ofRow table row.cells⟩

variable {source : Option TableRef} {filter : Option Expr} {orderBy : List OrderKey}
  {limit : Option Nat} {columns : List OutputColumn}

theorem isAggregated_star (plain : ∀ key ∈ orderBy, key.expr.hasAggregate = false)
    {width : Nat} (shows : ShowsPlaces width columns) :
    (starQuery source filter orderBy limit).isAggregated columns = false := by
  have noColumn : (columns.any fun column => column.expr.hasAggregate) = false :=
    List.any_eq_false.mpr fun column membership => by
      simp [(shows.2 column membership).2]
  have noKey : (orderBy.any fun key => key.expr.hasAggregate) = false :=
    List.any_eq_false.mpr fun key membership => by
      simp [plain key membership]
  simp [SelectQuery.isAggregated, starQuery, noColumn, noKey]

theorem outputOf_star (plain : ∀ key ∈ orderBy, key.expr.hasAggregate = false)
    {width : Nat} (shows : ShowsPlaces width columns) {rows : List Row}
    (full : ∀ row ∈ rows, row.cells.length = width) :
    evaluator.outputOf (starQuery source filter orderBy limit) table columns rows =
      .ok ⟨columns, rows.map (outputRow table)⟩ := by
  have projected : rows.mapM (evaluator.project table columns) =
      .ok (rows.map (outputRow table)) :=
    mapM_eq_ok_of_forall fun row membership =>
      project_of_showsPlaces (by rw [full row membership]; exact shows)
  rw [outputOf, isAggregated_star plain shows]
  simp only [Bool.false_eq_true, if_false, starQuery, Option.isSome_none, projected]
  rfl

theorem page_map {Item Other : Type} (convert : Item → Other) (offset : Nat)
    (limit : Option Nat) (items : List Item) :
    page offset limit (items.map convert) = (page offset limit items).map convert := by
  cases limit with
  | none => exact List.map_drop.symm
  | some count => rw [page, page, ← List.map_drop, ← List.map_take]

theorem arrange_star (rows : List Row) :
    evaluator.arrange (starQuery source filter orderBy limit)
        ⟨columns, rows.map (outputRow table)⟩ =
      (evaluator.sortRows orderBy (fun row => Context.ofRow table row.cells) rows).map
        fun sorted => ⟨columns, (page 0 limit sorted).map (outputRow table)⟩ := by
  have sorting : evaluator.sortRows orderBy OutputRow.context (rows.map (outputRow table)) =
      (evaluator.sortRows orderBy (fun row => Context.ofRow table row.cells) rows).map
        (List.map (outputRow table)) :=
    sortRows_map (outputRow table) rows
  simp only [arrange, distinctRows, starQuery, Bool.not_false, if_true, pure_bind, sorting]
  cases evaluator.sortRows orderBy (fun row => Context.ofRow table row.cells) rows with
  | error error => rfl
  | ok sorted =>
      simp only [Except.map, bind, Except.bind, page_map]
      rfl

end Evaluator

/-- A result is shown when its columns are found that LABEL and FORMAT mean, and each of its
cells can be shown. -/
theorem Output.render_eq_ok_iff {output : Output} {table : Table}
    {labels formats : List (Expr × String)} {result : SelectResult} :
    output.render table labels formats = .ok result ↔
      ∃ labelled, output.notes table "LABEL" labels = .ok labelled ∧
        ∃ patterns, output.notes table "FORMAT" formats = .ok patterns ∧
          ∃ rows, output.rows.mapM (resultRow patterns) = .ok rows ∧
            ⟨output.resultColumns table labelled patterns, rows, .null⟩ = result := by
  simp only [render, bind_eq_ok_iff, lift_validation_eq_ok_iff, pure_eq_ok, Except.ok.injEq]

/-- Without LABEL and FORMAT the cells are shown as they are, in columns of their own
names. -/
theorem render_plain (output : Output) (table : Table) :
    ∃ result, output.render table [] [] = .ok result ∧
      result.columns.map (fun column => (column.id, column.label)) =
        output.columns.map (fun column => (column.id, column.label)) ∧
      result.rows.map (·.map (·.value)) = output.rows.map (·.cells) := by
  have each (row : OutputRow) (_ : row ∈ output.rows) : Output.resultRow [] row =
      .ok (row.cells.zipIdx.map fun placed => ⟨placed.1, none⟩) :=
    mapM_eq_ok_of_forall fun _ _ => rfl
  have rows := mapM_eq_ok_of_forall each
  refine ⟨⟨output.resultColumns table [] [], output.rows.map fun row =>
    row.cells.zipIdx.map fun placed => ⟨placed.1, none⟩, .null⟩, ?_, ?_, ?_⟩
  · exact Output.render_eq_ok_iff.mpr ⟨[], rfl, [], rfl, _, rows, rfl⟩
  · rw [Output.resultColumns, List.map_map]
    conv_rhs => rw [← List.zipIdx_map_fst 0 output.columns, List.map_map]
    rfl
  · simp only [List.map_map]
    refine List.map_congr_left fun row _ => ?_
    simp [Function.comp_def]

namespace Evaluator

variable {evaluator : Evaluator} {table : Table} {source : Option TableRef} {condition : Expr}
  {orderBy : List OrderKey} {limit : Option Nat}

/-- SELECT * shows the rows that it selects, by the same stages as a change selects its
rows. -/
theorem select_star_eq_ok (plain : ∀ key ∈ orderBy, key.expr.hasAggregate = false)
    (full : ∀ row ∈ table.rows, row.cells.length = table.columns.length)
    {shown : SelectResult}
    (done : evaluator.select (starQuery source (some condition) orderBy limit) table =
      .ok shown) :
    ∃ columns passing sorted,
      OutputColumn.ofItems table [.star none] = .ok columns ∧
      (starQuery source (some condition) orderBy limit).check table columns = .ok () ∧
      evaluator.filterRows table condition = .ok passing ∧
      evaluator.sortRows orderBy (fun row => Context.ofRow table row.cells) passing =
        .ok sorted ∧
      shown.rows.map (·.map (·.value)) = (page 0 limit sorted).map (·.cells) := by
  simp only [select, bind_eq_ok_iff, lift_validation_eq_ok_iff] at done
  obtain ⟨columns, shows, _, checked, passing, passed, output, made, arranged, ordered,
    rendered⟩ := done
  have filtered : evaluator.filterRows table condition = .ok passing := passed
  have within : ∀ row ∈ passing, row.cells.length = table.columns.length := by
    obtain ⟨passes, _, rfl⟩ := filterM_eq_ok filtered
    exact fun row membership => full row (List.mem_of_mem_filter membership)
  rw [outputOf_star plain (showsPlaces_of_ofItems shows) within] at made
  cases made
  rw [arrange_star, map_eq_ok_iff] at ordered
  obtain ⟨sorted, sorts, rfl⟩ := ordered
  obtain ⟨result, rendering, -, rows⟩ :=
    render_plain ⟨columns, (page 0 limit sorted).map (outputRow table)⟩ table
  cases rendering.symm.trans rendered
  refine ⟨columns, passing, sorted, shows, checked, filtered, sorts, ?_⟩
  rw [rows, List.map_map]
  rfl

/-- A query for all columns whose condition holds in no row has a result without rows. -/
theorem select_star_of_none (plain : ∀ key ∈ orderBy, key.expr.hasAggregate = false)
    {columns : List OutputColumn} (shows : OutputColumn.ofItems table [.star none] = .ok columns)
    (checked : (starQuery source (some condition) orderBy limit).check table columns = .ok ())
    (none : evaluator.filterRows table condition = .ok []) :
    ∃ shown, evaluator.select (starQuery source (some condition) orderBy limit) table =
      .ok shown ∧ shown.rows = [] := by
  have made : evaluator.outputOf (starQuery source (some condition) orderBy limit) table columns
      [] = .ok ⟨columns, ([] : List Row).map (outputRow table)⟩ :=
    outputOf_star plain (showsPlaces_of_ofItems shows) fun _ membership => by cases membership
  have ordered : evaluator.arrange (starQuery source (some condition) orderBy limit)
      ⟨columns, ([] : List Row).map (outputRow table)⟩ =
        .ok ⟨columns, (page 0 limit []).map (outputRow table)⟩ := by
    rw [arrange_star, sortRows_nil]
    rfl
  obtain ⟨result, rendering, -, rows⟩ :=
    render_plain ⟨columns, (page 0 limit []).map (outputRow table)⟩ table
  refine ⟨result, ?_, ?_⟩
  · simp only [select, bind_eq_ok_iff, lift_validation_eq_ok_iff]
    exact ⟨columns, shows, (), checked, [], none, _, made, _, ordered, rendering⟩
  · have empty : page 0 limit ([] : List Row) = [] := by cases limit <;> simp [page]
    simpa [empty] using rows

end Evaluator

end GridQuery
