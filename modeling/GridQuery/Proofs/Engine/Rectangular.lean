import GridQuery.Proofs.Engine.Step
import GridQuery.Proofs.Select.Pivot

/-!
# Results are rectangular

Every row of a result has a cell for each column. A query that is evaluated keeps its columns
and the cells of its rows in step through all its stages, also where a pivot gives way for
aggregates to columns that it makes. What a grid answers is brought to the width of its
columns, whatever rows it has.
-/

namespace GridQuery

def SelectResult.IsRectangular (result : SelectResult) : Prop :=
  ∀ row ∈ result.rows, row.length = result.columns.length

def Output.IsRectangular (output : Output) : Prop :=
  ∀ row ∈ output.rows, row.cells.length = output.columns.length

/-! ### Stages of a query -/

theorem distinctItems_subset {Item : Type} (items : List (List Cell × Item)) :
    distinctItems items ⊆ items.map Prod.snd :=
  List.map_subset _ (Buckets.firsts_subset items)

namespace Evaluator

variable {evaluator : Evaluator} {query : SelectQuery} {table : Table}
  {columns : List OutputColumn}

theorem length_cells_of_project {row : Row} {shown : OutputRow}
    (done : evaluator.project table columns row = .ok shown) :
    shown.cells.length = columns.length := by
  simp only [project, bind_eq_ok_iff, pure_eq_ok, Except.ok.injEq] at done
  obtain ⟨cells, evaluated, rfl⟩ := done
  exact length_of_mapM_eq_ok evaluated

/-- A group has the cells of the columns and then those that a pivot makes. -/
theorem length_cells_of_projectGroup {pivoted : List PivotColumn} {group : Group}
    {shown : OutputRow}
    (done : evaluator.projectGroup query table columns pivoted group = .ok (some shown)) :
    shown.cells.length = columns.length + pivoted.length := by
  simp only [projectGroup, bind_eq_ok_iff] at done
  obtain ⟨cells, evaluated, crossed, pivots, done⟩ := done
  have both : (cells ++ crossed).length = columns.length + pivoted.length := by
    rw [List.length_append, length_of_mapM_eq_ok evaluated, length_of_mapM_eq_ok pivots]
  split at done
  · cases done
    exact both
  · obtain ⟨holds, -, done⟩ := (bind_eq_ok_iff ..).mp done
    cases holds with
    | false => cases done
    | true =>
        cases done
        exact both

theorem isRectangular_aggregate {rows : List Row} {output : Output}
    (done : evaluator.aggregate query table columns rows = .ok output) :
    output.IsRectangular := by
  simp only [aggregate, bind_eq_ok_iff] at done
  obtain ⟨groups, -, done⟩ := done
  split at done
  · simp only [bind_eq_ok_iff, pure_eq_ok, Except.ok.injEq] at done
    obtain ⟨shown, projected, rfl⟩ := done
    intro row among
    obtain ⟨group, -, here⟩ := exists_of_mem_filterMapM projected among
    exact length_cells_of_projectGroup here
  · simp only [bind_eq_ok_iff, pure_eq_ok, Except.ok.injEq] at done
    obtain ⟨pivoted, -, shown, projected, rfl⟩ := done
    intro row among
    obtain ⟨group, -, here⟩ := exists_of_mem_filterMapM projected among
    rw [length_cells_of_projectGroup here, List.length_append, List.length_map]

theorem isRectangular_outputOf {rows : List Row} {output : Output}
    (done : evaluator.outputOf query table columns rows = .ok output) :
    output.IsRectangular := by
  unfold outputOf at done
  split at done
  · obtain ⟨_, -, aggregated⟩ := (bind_eq_ok_iff ..).mp done
    exact isRectangular_aggregate aggregated
  · split at done
    · simp at done
    · simp only [bind_eq_ok_iff, pure_eq_ok, Except.ok.injEq] at done
      obtain ⟨shown, projected, rfl⟩ := done
      intro row among
      obtain ⟨source, -, here⟩ := exists_of_mem_mapM projected among
      exact length_cells_of_project here

theorem distinctRows_subset {rows kept : List OutputRow}
    (done : evaluator.distinctRows query rows = .ok kept) : kept ⊆ rows := by
  unfold distinctRows at done
  split at done
  · cases done
    exact List.Subset.refl rows
  · simp only [bind_eq_ok_iff, pure_eq_ok, Except.ok.injEq] at done
    obtain ⟨keyed, made, rfl⟩ := done
    have items : keyed.map Prod.snd = rows.map id := by
      refine map_of_mapM_eq_ok (fun row entry keys => ?_) made
      split at keys
      · cases keys
        rfl
      · simp only [bind_eq_ok_iff, Except.ok.injEq] at keys
        obtain ⟨_, -, rfl⟩ := keys
        rfl
    rw [List.map_id] at items
    exact items ▸ distinctItems_subset keyed

/-- Thinning out, sorting and paging show rows that were there before. -/
theorem arrange_subset {output arranged : Output}
    (done : evaluator.arrange query output = .ok arranged) :
    arranged.columns = output.columns ∧ arranged.rows ⊆ output.rows := by
  simp only [arrange, bind_eq_ok_iff, pure_eq_ok, Except.ok.injEq] at done
  obtain ⟨kept, thinned, ordered, sorted, rfl⟩ := done
  refine ⟨rfl, fun row among => ?_⟩
  have inOrdered := (page_sublist query.offset query.limit ordered).subset among
  exact distinctRows_subset thinned ((sortRows_perm sorted).subset inOrdered)

end Evaluator

theorem Output.isRectangular_of_render {output : Output} {table : Table}
    {labels formats : List (Expr × String)} {result : SelectResult}
    (rectangular : output.IsRectangular)
    (done : output.render table labels formats = .ok result) : result.IsRectangular := by
  obtain ⟨labels, -, patterns, -, rows, made, rfl⟩ := render_eq_ok_iff.mp done
  intro row among
  obtain ⟨shown, inOutput, here⟩ := exists_of_mem_mapM made among
  have cells := length_of_mapM_eq_ok here
  rw [List.length_zipIdx, rectangular shown inOutput] at cells
  simpa [resultColumns] using cells

theorem Evaluator.isRectangular_of_select {evaluator : Evaluator} {query : SelectQuery}
    {table : Table} {result : SelectResult} (done : evaluator.select query table = .ok result) :
    result.IsRectangular := by
  simp only [select, bind_eq_ok_iff, lift_validation_eq_ok_iff] at done
  obtain ⟨columns, -, _, -, rows, -, output, made, arranged, ordered, rendered⟩ := done
  obtain ⟨sameColumns, within⟩ := arrange_subset ordered
  refine Output.isRectangular_of_render (fun row among => ?_) rendered
  rw [sameColumns]
  exact isRectangular_outputOf made row (within among)

/-! ### Answers of a grid -/

namespace Native

/-- The cells that a row of an answer has: those of its list, which may be missing or
null. -/
inductive HasCells : Datum → List Datum → Prop where
  | missing {fields : List (String × Datum)} :
      fields.lookup "c" = none → HasCells (.record fields) []
  | null {fields : List (String × Datum)} :
      fields.lookup "c" = some .null → HasCells (.record fields) []
  | list {fields : List (String × Datum)} {cells : List Datum} :
      fields.lookup "c" = some (.list cells) → HasCells (.record fields) cells

/-- An answer with columns and with rows of cells, of any lengths. A cell that stands under a
column has a value that can be read; nothing is said of the cells past the last column. -/
structure Readable (answer : Datum) (query : SelectQuery) (columns : List AnswerColumn)
    (rows : List (List Datum)) : Prop where
  hasColumns : ∃ data, answer.fieldOr "cols" (.list []) = .ok (.list data) ∧
    data.mapM (columnOf (formattedIds query)) = .ok columns
  hasRows : ∃ data, answer.fieldOr "rows" (.list []) = .ok (.list data) ∧
    List.Forall₂ HasCells data rows
  reads : ∀ cells ∈ rows, ∀ (place : Nat) (column : AnswerColumn) (cell : Datum),
    columns[place]? = some column → cells[place]? = some cell →
      ∃ shown, answerCell column cell = .ok shown

/-- The cells of a row of a result stand for those of a row of an answer: under each column
its cell is read, and where there is none, there is null. -/
structure Widened (columns : List AnswerColumn) (cells : List Datum)
    (shown : List ResultCell) : Prop where
  length : shown.length = columns.length
  read : ∀ (place : Nat) (column : AnswerColumn) (cell : Datum),
    columns[place]? = some column → cells[place]? = some cell →
      ∃ result, answerCell column cell = .ok result ∧ shown[place]? = some result
  filled : ∀ place : Nat, cells.length ≤ place → place < columns.length →
    shown[place]? = some ⟨.null, none⟩

variable {columns : List AnswerColumn} {cells : List Datum} {datum : Datum}

theorem length_of_answerRow {shown : List ResultCell}
    (done : answerRow columns datum = .ok shown) : shown.length = columns.length := by
  simp only [answerRow, bind_eq_ok_iff] at done
  obtain ⟨_, -, cells, -, made⟩ := done
  rw [length_of_mapM_eq_ok made, List.length_zipIdx]

theorem isRectangular_of_resultOf {answer : Datum} {query : SelectQuery} {result : SelectResult}
    (done : resultOf answer query = .ok result) : result.IsRectangular := by
  simp only [resultOf, bind_eq_ok_iff, pure_eq_ok, Except.ok.injEq] at done
  obtain ⟨_, -, _, -, columns, -, _, -, _, -, rows, made, rfl⟩ := done
  intro row among
  obtain ⟨datum, -, here⟩ := exists_of_mem_mapM made among
  rw [length_of_answerRow here, List.length_map]

theorem answerRow_eq (has : HasCells datum cells) :
    answerRow columns datum = columns.zipIdx.mapM fun (column, place) =>
      answerCell column (cells.getD place .null) := by
  cases has with
  | missing absent => simp [answerRow, Datum.fieldUnlessAbsent, Datum.fieldOr, absent]; rfl
  | null absent => simp [answerRow, Datum.fieldUnlessAbsent, Datum.fieldOr, absent]; rfl
  | list present =>
      cases cells with
      | nil => simp [answerRow, Datum.fieldUnlessAbsent, Datum.fieldOr, present]; rfl
      | cons first rest => simp [answerRow, Datum.fieldUnlessAbsent, Datum.fieldOr, present]; rfl

theorem answerCell_null (column : AnswerColumn) :
    answerCell column .null = .ok ⟨.null, none⟩ := rfl

theorem widened_of_answerRow {shown : List ResultCell} (has : HasCells datum cells)
    (done : answerRow columns datum = .ok shown) : Widened columns cells shown := by
  rw [answerRow_eq has] at done
  have width := length_of_mapM_eq_ok done
  rw [List.length_zipIdx] at width
  have at_place (place : Nat) (column : AnswerColumn) (here : columns[place]? = some column) :
      ∃ result, answerCell column (cells.getD place .null) = .ok result ∧
        shown[place]? = some result := by
    obtain ⟨result, made, shownHere⟩ := getElem?_of_mapM_eq_ok done
      (show columns.zipIdx[place]? = some (column, place) by simp [here])
    exact ⟨result, made, shownHere⟩
  refine ⟨width, fun place column cell here held => ?_, fun place short inside => ?_⟩
  · simpa [List.getD, held] using at_place place column here
  · obtain ⟨result, made, shownHere⟩ := at_place place _ (List.getElem?_eq_getElem inside)
    rw [List.getD, List.getElem?_eq_none short, Option.getD_none, answerCell_null,
      Except.ok.injEq] at made
    rw [shownHere, made]

theorem exists_answerRow (has : HasCells datum cells)
    (reads : ∀ (place : Nat) (column : AnswerColumn) (cell : Datum),
      columns[place]? = some column → cells[place]? = some cell →
        ∃ shown, answerCell column cell = .ok shown) :
    ∃ shown, answerRow columns datum = .ok shown := by
  rw [answerRow_eq has]
  refine exists_mapM_eq_ok fun (column, place) among => ?_
  have here : columns[place]? = some column := List.mem_zipIdx_iff_getElem?.mp among
  cases held : cells[place]? with
  | some cell => simpa [List.getD, held] using reads place column cell here held
  | none => exact ⟨⟨.null, none⟩, by simp [List.getD, held, answerCell_null]⟩

theorem exists_answerRows {data : List Datum} {rows : List (List Datum)}
    (has : List.Forall₂ HasCells data rows)
    (reads : ∀ cells ∈ rows, ∀ (place : Nat) (column : AnswerColumn) (cell : Datum),
      columns[place]? = some column → cells[place]? = some cell →
        ∃ shown, answerCell column cell = .ok shown) :
    ∃ shown, data.mapM (answerRow columns) = .ok shown ∧
      List.Forall₂ (Widened columns) rows shown := by
  induction has with
  | nil => exact ⟨[], rfl, .nil⟩
  | cons has _ inductionHypothesis =>
      obtain ⟨row, answered⟩ := exists_answerRow has (reads _ List.mem_cons_self)
      obtain ⟨shown, later, widened⟩ :=
        inductionHypothesis fun cells among => reads cells (List.mem_cons_of_mem _ among)
      exact ⟨row :: shown, by simp [answered, later],
        .cons (widened_of_answerRow has answered) widened⟩

/-- An answer of rows of any lengths has a result, with its rows brought to the width of its
columns. -/
theorem exists_resultOf {answer : Datum} {query : SelectQuery} {rows : List (List Datum)}
    (readable : Readable answer query columns rows) :
    ∃ result, resultOf answer query = .ok result ∧
      result.columns = columns.map (·.shown) ∧
      List.Forall₂ (Widened columns) rows result.rows := by
  obtain ⟨columnData, cols, made⟩ := readable.hasColumns
  obtain ⟨rowData, held, has⟩ := readable.hasRows
  obtain ⟨shown, answered, widened⟩ := exists_answerRows has readable.reads
  exact ⟨⟨columns.map (·.shown), shown, .null⟩,
    by simp [resultOf, cols, held, made, answered, Datum.items], rfl, widened⟩

end Native

/-! ### Results of statements -/

namespace Engine

variable {State : Type} {engine : Engine State} {query : SelectQuery}
  {before after : Session State} {result : SelectResult}

theorem isRectangular_of_evaluate
    (done : engine.evaluate query before = (.ok result, after)) : result.IsRectangular := by
  simp only [evaluate, Step.bind_eq_ok_iff] at done
  obtain ⟨_, _, -, table, middle, -, selected⟩ := done
  rw [Step.liftM_eq_ok_iff] at selected
  exact Evaluator.isRectangular_of_select selected.1

theorem isRectangular_of_answer {location : Option Location}
    (done : engine.answer query location before = (.ok result, after)) :
    result.IsRectangular := by
  cases location with
  | none => exact isRectangular_of_evaluate done
  | some location =>
      unfold answer at done
      cases native : engine.nativeText? query (some location) with
      | none =>
          rw [native] at done
          exact isRectangular_of_evaluate done
      | some text =>
          rw [native] at done
          obtain ⟨answered, middle, -, shaped⟩ := (Step.bind_eq_ok_iff ..).mp done
          rw [Step.lift_data_apply, Prod.mk.injEq, lift_data_eq_ok_iff] at shaped
          exact Native.isRectangular_of_resultOf shaped.1

theorem isRectangular_of_select {withMetadata : Bool}
    (done : engine.select query withMetadata before = (.ok result, after)) :
    result.IsRectangular := by
  simp only [select, Step.bind_eq_ok_iff] at done
  obtain ⟨location, _, -, answered, middle, done, shown⟩ := done
  have rectangular := isRectangular_of_answer done
  cases withMetadata with
  | false =>
      cases shown
      exact rectangular
  | true =>
      -- Metadata come beside the columns and rows, which stay.
      cases location with
      | none =>
          cases shown
          exact rectangular
      | some location =>
          simp only [if_true, addMetadata, Step.bind_eq_ok_iff] at shown
          obtain ⟨metadata, _, -, shown⟩ := shown
          cases shown
          exact rectangular

theorem isRectangular_of_run {withMetadata : Bool}
    (done : engine.run (.select query) withMetadata before = (.ok (.selected result), after)) :
    result.IsRectangular := by
  simp only [run, Step.bind_eq_ok_iff] at done
  obtain ⟨selected, _, done, same⟩ := done
  cases same
  exact isRectangular_of_select done

end Engine

/-- A result is rectangular, whatever way it was made: by evaluating a query over any table,
from any answer of a grid, and so by running any query. An answer with rows of any lengths
has a result. -/
theorem isRectangular_results :
    (∀ (evaluator : Evaluator) (query : SelectQuery) (table : Table) (result : SelectResult),
      evaluator.select query table = .ok result → result.IsRectangular) ∧
    (∀ (answer : Datum) (query : SelectQuery) (result : SelectResult),
      Native.resultOf answer query = .ok result → result.IsRectangular) ∧
    (∀ (answer : Datum) (query : SelectQuery) (columns : List Native.AnswerColumn)
      (rows : List (List Datum)), Native.Readable answer query columns rows →
      ∃ result, Native.resultOf answer query = .ok result ∧
        result.columns = columns.map (·.shown) ∧
        List.Forall₂ (Native.Widened columns) rows result.rows) ∧
    ∀ (State : Type) (engine : Engine State) (query : SelectQuery) (withMetadata : Bool)
      (before after : Session State) (result : SelectResult),
      engine.run (.select query) withMetadata before = (.ok (.selected result), after) →
        result.IsRectangular :=
  ⟨fun _ _ _ _ done => Evaluator.isRectangular_of_select done,
    fun _ _ _ done => Native.isRectangular_of_resultOf done,
    fun _ _ _ _ readable => Native.exists_resultOf readable,
    fun _ _ _ _ _ _ _ done => Engine.isRectangular_of_run done⟩

/-! ### Sales by place, and an answer with rows of four lengths -/

def salesEngine : Engine Unit :=
  ⟨fun _ grid => (.ok .null, grid),
    ⟨[("sales", .list [.list [.text "item", .text "place", .text "sold"],
      .list [.text "ink", .text "north", .int 10], .list [.text "pen", .text "south"]])],
      none, false, {}⟩, default⟩

def salesByPlace : SelectQuery :=
  { Evaluator.soldByPlace with source := some ⟨"sales", true, none⟩ }

namespace Native

def field (name : String) (value : Datum) : Datum :=
  .record [(name, value)]

def raggedAnswer : Datum :=
  .record [
    ("cols", .list [.record [("id", .text "A"), ("type", .text "string")],
      .record [("id", .text "B"), ("label", .text "count"), ("type", .text "number")]]),
    ("rows", .list [.record [], field "c" .null, field "c" (.list [field "v" (.text "ant")]),
      field "c" (.list [.null, field "v" (.int 2), field "v" (.text "past")])])]

def raggedColumns : List AnswerColumn :=
  [⟨⟨"A", "A", .string, none⟩, "string", false⟩,
    ⟨⟨"B", "count", .number, none⟩, "number", false⟩]

def raggedRows : List (List Datum) :=
  [[], [], [field "v" (.text "ant")],
    [.null, field "v" (.int 2), field "v" (.text "past")]]

theorem readable_raggedAnswer :
    Readable raggedAnswer Evaluator.soldByPlace raggedColumns raggedRows where
  hasColumns := ⟨_, rfl, by cbv⟩
  hasRows := ⟨_, rfl, .cons (.missing rfl) (.cons (.null rfl)
    (.cons (.list rfl) (.cons (.list rfl) .nil)))⟩
  reads := by
    intro cells among place column cell here held
    have inColumns := List.mem_of_getElem? here
    have inCells := List.mem_of_getElem? held
    simp only [raggedColumns, List.mem_cons, List.not_mem_nil, or_false] at inColumns
    simp only [raggedRows, List.mem_cons, List.not_mem_nil, or_false] at among
    rcases among with rfl | rfl | rfl | rfl
    · cases inCells
    · cases inCells
    all_goals
      simp only [List.mem_cons, List.not_mem_nil, or_false] at inCells
      rcases inColumns with rfl | rfl <;> rcases inCells with rfl | rfl | rfl <;>
        exact ⟨_, rfl⟩

end Native

set_option maxRecDepth 4000 in
theorem width_salesByPlace :
    (salesEngine.run (.select salesByPlace) false (Session.start ())).1.map
      (fun | .selected result => result.columns.length | .changed _ => 0) = .ok 3 := by
  cbv

theorem sales_isRectangular :
    (∃ result, Evaluator.morning.select Evaluator.soldByPlace Evaluator.placedSales =
      .ok result ∧ result.columns.length = 4 ∧ result.IsRectangular) ∧
    (∃ result, Native.resultOf Native.raggedAnswer Evaluator.soldByPlace = .ok result ∧
      result.columns = Native.raggedColumns.map (·.shown) ∧
      List.Forall₂ (Native.Widened Native.raggedColumns) Native.raggedRows result.rows ∧
      result.IsRectangular) ∧
    ∃ result after,
      salesEngine.run (.select salesByPlace) false (Session.start ()) =
        (.ok (.selected result), after) ∧
      result.columns.length = 3 ∧ result.IsRectangular := by
  obtain ⟨ofTables, ofAnswers, answered, ofRuns⟩ := isRectangular_results
  refine ⟨?_, ?_, ?_⟩
  · have columns : (Evaluator.morning.select Evaluator.soldByPlace Evaluator.placedSales).map
        (fun result => result.columns.length) = .ok 4 := by
      cbv
    obtain ⟨result, evaluated, four⟩ := (map_eq_ok_iff ..).mp columns
    exact ⟨result, evaluated, four, ofTables _ _ _ _ evaluated⟩
  · obtain ⟨result, shaped, columns, widened⟩ :=
      answered _ _ _ _ Native.readable_raggedAnswer
    exact ⟨result, shaped, columns, widened, ofAnswers _ _ _ shaped⟩
  · obtain ⟨shown, ran, three⟩ := (map_eq_ok_iff ..).mp width_salesByPlace
    cases shown with
    | changed result => cases three
    | selected result =>
        have done : salesEngine.run (.select salesByPlace) false (Session.start ()) =
          (.ok (.selected result), _) := Prod.ext ran rfl
        exact ⟨result, _, done, three, ofRuns _ _ _ _ _ _ _ done⟩

end GridQuery
