import GridQuery.Proofs.Native.Faults
import GridQuery.Proofs.Select.Grouped
import GridQuery.Proofs.Select.Stages

/-!
# What the translation of a query overlooks

A query whose columns are all in the range can be translated, and can still be invalid. Its
direct evaluation finds faults of five kinds that no part of the translation looks for:
aggregates out of place, columns that are not grouped, patterns that cannot be read, LABEL
and FORMAT of what is not shown, and column codes with a line break after them. It finds no
other fault.
-/

namespace GridQuery

/-- The faults of a query that its translation does not look for, each with what it comes
from in the query. -/
inductive Overlooked (query : SelectQuery) (table : Table) : ValidationError → Prop
  | lineBreak {expr : Expr} {reference : ColumnRef}
      (among : expr ∈ (Statement.select query).exprs) (used : reference ∈ expr.columns)
      (ends : reference.name.toList.getLast? = some '\n') :
      Overlooked query table (.unknownColumnOf reference.name table.describe)
  | aggregateInWhere (aggregates : query.filter.any Expr.hasAggregate = true) :
      Overlooked query table .aggregateInWhere
  | aggregateInKey {expr : Expr} {call : Aggregate × Expr}
      (among : expr ∈ query.groupBy ++ query.pivot) (called : call ∈ expr.calls) :
      Overlooked query table (.aggregateHere (Text.upper call.1.name))
  | aggregateInAggregate {expr : Expr} {call inner : Aggregate × Expr}
      (among : expr ∈ query.items.filterMap SelectItem.expr? ++ query.orderBy.map (·.expr))
      (called : call ∈ expr.calls) (calledInside : inner ∈ call.2.calls) :
      Overlooked query table (.aggregateHere (Text.upper inner.1.name))
  | badPattern {filter right : Expr} {pattern : String} (isFilter : query.filter = some filter)
      (among : right ∈ filter.patterns)
      (written : ∀ cell, right = .literal cell → cell.asText? = .ok (some pattern))
      (malformed : Pattern.read pattern = .error .malformed) :
      Overlooked query table (.badPattern pattern)
  | ungrouped {columns : List OutputColumn} {expr : Expr} {reference : ColumnRef}
      (shows : OutputColumn.ofItems table query.items = .ok columns)
      (aggregated : query.isAggregated columns = true)
      (among : expr ∈ query.groupedExprs columns)
      (unlike : ∀ key ∈ query.groupBy, expr.sameAs key = false)
      (bare : reference ∈ expr.bareColumns)
      (unnamed : reference.qualifier = none → reference.name ∉ columns.filterMap (·.name))
      (ungrouped : .column reference ∉ query.groupBy) :
      Overlooked query table (.ungroupedColumn reference.text)
  | unselected {columns : List OutputColumn} {clause shown : String} {entry : Expr × String}
      (shows : OutputColumn.ofItems table query.items = .ok columns)
      (among : clause = "LABEL" ∧ entry ∈ query.labels ∨
        clause = "FORMAT" ∧ entry ∈ query.formats)
      (absent : ∀ column ∈ columns, column.isShown table entry.1 = .ok true ∨
        (∃ name, column.name = some name ∧ entry.1 = .column ⟨none, name⟩) →
          query.pivot ≠ [] ∧ column.expr.hasAggregate = true) :
      Overlooked query table (.unselectedColumn clause shown)

/-! ### Translated queries -/

/-- What the translation of a query finds out about it, over the table of its range. -/
structure Covered (query : SelectQuery) (table : Table) : Prop where
  values : ∀ expr ∈ query.items.filterMap SelectItem.expr? ++ query.groupBy ++ query.pivot ++
    query.orderBy.map (·.expr), expr.IsValue
  items : query.items = [.star none] ∨
    ∃ exprs : List Expr, query.items.map SelectItem.expr? = exprs.map some
  filter : ∀ test ∈ query.filter, ∃ location caseSensitive text,
    Native.predicate? location caseSensitive test = some text
  having : query.having = none
  distinct : query.distinct = false
  distinctOn : query.distinctOn = []
  known : ∀ expr ∈ (Statement.select query).exprs, expr.Known table (Overlooked query table)
  ids : ∀ column ∈ table.columns, ∃ place, table.resolve ⟨none, column.id⟩ = .ok place
  joined : table.joined = false
  columns : table.columns ≠ []

theorem filterMap_expr?_eq {items : List SelectItem} {exprs : List Expr}
    (listed : items.map SelectItem.expr? = exprs.map some) :
    items.filterMap SelectItem.expr? = exprs := by
  have filtered := congrArg (List.filterMap id) listed
  rw [List.filterMap_map, List.filterMap_map] at filtered
  exact filtered.trans List.filterMap_some

theorem covered_of_queryText? {query : SelectQuery} {location : Location}
    {caseSensitive : Bool} {text : NativeText} {data : List Datum} {headerRows : Nat}
    {aliasName : Option String} {table : Table}
    (done : Native.queryText? query location caseSensitive = some text)
    (closed : location.IsClosed)
    (made : Table.ofGrid location data headerRows aliasName = .ok table) : Covered query table := by
  have translated := Native.translated_of_queryText? done
  obtain ⟨joined, one, count, -⟩ := Native.columns_ofGrid closed made
  have isValue {expr : Expr} (found : ∃ text, Native.value? location expr = some text) :
      expr.IsValue := by
    obtain ⟨text, found⟩ := found
    exact Native.isValue_of_value? found
  constructor
  case values =>
    intro expr among
    simp only [List.mem_append, List.mem_map] at among
    rcases among with ((isItem | isGroup) | isPivot) | ⟨key, isKey, rfl⟩
    · rcases translated.items with star | ⟨exprs, listed, valued⟩
      · rw [star] at isItem
        cases isItem
      · rw [filterMap_expr?_eq listed] at isItem
        exact isValue (valued expr isItem)
    · exact isValue (translated.groupBy expr isGroup)
    · exact isValue (translated.pivot expr isPivot)
    · exact isValue (translated.orderBy key isKey)
  case items => exact translated.items.imp_right fun ⟨exprs, listed, _⟩ => ⟨exprs, listed⟩
  case filter =>
    intro test isFilter
    exact ⟨location, caseSensitive, translated.filter test isFilter⟩
  case having => exact translated.having
  case distinct => exact translated.distinct
  case distinctOn => exact translated.distinctOn
  case known =>
    intro expr among reference used
    obtain ⟨text, found⟩ := translated.column? expr among reference used
    obtain ⟨unqualified, code, first, within, -⟩ := Native.inside_of_column? found
    rcases Native.isUpper_of_isColumnCode code with ⟨upper, given⟩ | ends
    · obtain ⟨place, column, isColumn, called⟩ :=
        Native.exists_column closed made upper given first within
      obtain ⟨place, resolved⟩ := Native.exists_resolve one isColumn called
      rw [← unqualified] at resolved
      exact .of_eq_ok resolved
    · exact Table.fails_resolve one unqualified (.lineBreak among used ends)
  case ids =>
    intro column among
    obtain ⟨place, found⟩ := List.getElem?_of_mem among
    exact Native.exists_resolve one found rfl
  case joined => exact joined
  case columns =>
    obtain ⟨last, isLast, ordered⟩ := closed
    simp only [Location.columnCount, isLast] at count
    refine List.ne_nil_of_length_pos ?_
    omega

/-- What can be evaluated in a group: a value, with nothing aggregated inside an aggregate. -/
structure Showable (query : SelectQuery) (table : Table) (expr : Expr) : Prop where
  value : expr.IsValue
  known : expr.Known table (Overlooked query table)
  flat : expr.Flat (Overlooked query table)

namespace Covered

variable {query : SelectQuery} {table : Table} {evaluator : Evaluator}

theorem mem_exprs_of_value {expr : Expr}
    (among : expr ∈ query.items.filterMap SelectItem.expr? ++ query.groupBy ++ query.pivot ++
      query.orderBy.map (·.expr)) : expr ∈ (Statement.select query).exprs := by
  simp only [Statement.exprs, List.mem_append] at among ⊢
  tauto

theorem known_of_value (covered : Covered query table) {expr : Expr}
    (among : expr ∈ query.items.filterMap SelectItem.expr? ++ query.groupBy ++ query.pivot ++
      query.orderBy.map (·.expr)) : expr.Known table (Overlooked query table) :=
  covered.known expr (mem_exprs_of_value among)

/-- A column that shows all columns of the table shows one that is there. -/
theorem expr_of_ofPlace (covered : Covered query table) {column : Column} {place : Nat}
    {shown : OutputColumn} (made : OutputColumn.ofPlace table column place = .ok shown) :
    shown.expr = .column ⟨none, column.id⟩ := by
  simp only [OutputColumn.ofPlace, covered.joined, bind_eq_ok_iff, pure_eq_ok,
    Except.ok.injEq] at made
  obtain ⟨_, -, _, -, rfl⟩ := made
  rfl

theorem star_of_ofItems {columns : List OutputColumn}
    (shows : OutputColumn.ofItems table [.star none] = .ok columns) :
    table.places.mapM (fun (column, place) => OutputColumn.ofPlace table column place) =
      .ok columns := by
  simp only [OutputColumn.ofItems, List.mapM_cons, List.mapM_nil, OutputColumn.ofItem,
    bind_eq_ok_iff, pure_eq_ok, Except.ok.injEq] at shows
  obtain ⟨_, ⟨shown, made, _, rfl, rfl⟩, rfl⟩ := shows
  split at made
  · simp at made
  · simpa using made

theorem showable_of_ofItems (covered : Covered query table) {columns : List OutputColumn}
    (shows : OutputColumn.ofItems table query.items = .ok columns) {shown : OutputColumn}
    (isShown : shown ∈ columns) : Showable query table shown.expr := by
  rcases covered.items with star | ⟨exprs, listed⟩
  · rw [star] at shows
    have exprs : columns.map (·.expr) =
        table.places.map fun (column, _) => .column ⟨none, column.id⟩ :=
      map_of_mapM_eq_ok (fun _ _ made => covered.expr_of_ofPlace made) (star_of_ofItems shows)
    have inPlaces : shown.expr ∈ columns.map (·.expr) := List.mem_map_of_mem isShown
    rw [exprs] at inPlaces
    obtain ⟨⟨column, place⟩, isPlace, same⟩ := List.mem_map.mp inPlaces
    have inTable := List.mem_of_getElem? (List.mem_zipIdx_iff_getElem?.mp isPlace)
    obtain ⟨found, resolved⟩ := covered.ids column inTable
    rw [← same]
    refine ⟨trivial, fun reference used => ?_, fun call called => by cases called⟩
    obtain rfl := List.mem_singleton.mp used
    exact .of_eq_ok resolved
  · have inExprs : shown.expr ∈ query.items.filterMap SelectItem.expr? := by
      rw [filterMap_expr?_eq listed, ← exprs_of_ofItems listed shows]
      exact List.mem_map_of_mem isShown
    have among : shown.expr ∈ query.items.filterMap SelectItem.expr? ++ query.groupBy ++
        query.pivot ++ query.orderBy.map (·.expr) := by
      simp only [List.mem_append]
      exact .inl (.inl (.inl inExprs))
    refine ⟨covered.values _ among, covered.known_of_value among, ?_⟩
    intro call called inner nested
    exact .aggregateInAggregate (List.mem_append_left _ inExprs) called nested

theorem fails_ofItems (covered : Covered query table) :
    FailsOnly (WhenInvalid (Overlooked query table)) (OutputColumn.ofItems table query.items) := by
  refine FailsOnly.bind (.mapM fun item isItem => ?_) fun _ _ => .pure _
  cases item with
  | expr expr aliasName =>
      have among : expr ∈ query.items.filterMap SelectItem.expr? ++ query.groupBy ++
          query.pivot ++ query.orderBy.map (·.expr) := by
        simp only [List.mem_append, List.mem_filterMap]
        exact .inl (.inl (.inl ⟨_, isItem, rfl⟩))
      have named (naming : Naming) := fails_text (covered.known_of_value among) naming
      refine FailsOnly.bind (FailsOnly.bind (named .id) fun _ _ => ?_) fun _ _ => .pure _
      dsimp only
      split
      · exact FailsOnly.bind (.pure _) fun _ _ => .pure _
      · exact FailsOnly.bind (named .label) fun _ _ => .pure _
  | star qualifier =>
      rcases covered.items with star | ⟨exprs, listed⟩
      · rw [star] at isItem
        cases List.mem_singleton.mp isItem
        have some : table.places.isEmpty = false := by
          simpa [Table.places] using covered.columns
        simp only [OutputColumn.ofItem, some, Bool.false_eq_true, if_false]
        refine .mapM fun pair isPlace => ?_
        have inTable := List.mem_of_getElem? (List.mem_zipIdx_iff_getElem?.mp isPlace)
        obtain ⟨found, resolved⟩ := covered.ids pair.1 inTable
        have named (naming : Naming) : FailsOnly (WhenInvalid (Overlooked query table))
            (liftM (naming.columnText table ⟨none, pair.1.id⟩) : Except Error String) :=
          .lift_validation (fails_columnText (.of_eq_ok resolved) naming)
        simp only [OutputColumn.ofPlace, covered.joined, Bool.false_eq_true, if_false]
        exact FailsOnly.bind (named .id) fun _ _ => FailsOnly.bind (named .label) fun _ _ => .pure _
      · have inExprs : (SelectItem.star qualifier).expr? ∈ exprs.map some := by
          rw [← listed]
          exact List.mem_map_of_mem isItem
        obtain ⟨_, -, impossible⟩ := List.mem_map.mp inExprs
        cases impossible

theorem fails_tableCheck {expr : Expr} (known : expr.Known table (Overlooked query table)) :
    FailsOnly (Overlooked query table) (table.check expr) :=
  .forM fun reference used => FailsOnly.bind (known reference used) fun _ _ => .pure _

theorem fails_check (covered : Covered query table) {columns : List OutputColumn}
    (shows : OutputColumn.ofItems table query.items = .ok columns) :
    FailsOnly (Overlooked query table) (query.check table columns) := by
  have known (expr : Expr) (among : expr ∈ query.groupBy ++ query.pivot ++ query.filter.toList ++
      query.orderBy.map (·.expr)) : expr.Known table (Overlooked query table) := by
    apply covered.known
    simp only [Statement.exprs, List.mem_append] at among ⊢
    tauto
  have ofShown : FailsOnly (Overlooked query table)
      ((columns.filter (·.place.isNone)).forM fun column => table.check column.expr) :=
    .forM fun column among => fails_tableCheck
      (covered.showable_of_ofItems shows (List.mem_of_mem_filter among)).known
  have ofList (exprs : List Expr) (within : exprs ⊆ query.groupBy ++ query.pivot ++
      query.filter.toList ++ query.orderBy.map (·.expr)) :
      FailsOnly (Overlooked query table) (exprs.forM table.check) :=
    .forM fun expr among => fails_tableCheck (known expr (within among))
  have ofLate : FailsOnly (Overlooked query table)
      (query.lateExprs.forM fun expr => expr.columns.forM fun reference => do
        if reference.qualifier.isNone && (columns.filterMap (·.name)).contains reference.name then
          return
        let _ ← table.resolve reference) := by
    refine .forM fun expr among => .forM fun reference used => ?_
    have isKey : expr ∈ query.orderBy.map (·.expr) := by
      simpa [SelectQuery.lateExprs, covered.distinctOn, covered.having] using among
    split
    · exact .pure _
    · exact FailsOnly.bind (known expr (List.mem_append_right _ isKey) reference used)
        fun _ _ => .pure _
  unfold SelectQuery.check
  split
  · next aggregates => exact .throw (.aggregateInWhere aggregates)
  · refine FailsOnly.bind ofShown fun _ _ => ?_
    refine FailsOnly.bind (ofList query.groupBy fun _ => by simp; tauto) fun _ _ => ?_
    refine FailsOnly.bind (ofList query.pivot fun _ => by simp; tauto) fun _ _ => ?_
    refine FailsOnly.bind (ofList query.filter.toList fun _ => by simp; tauto) fun _ _ => ?_
    exact ofLate

theorem fails_passingRows (covered : Covered query table) {columns : List OutputColumn}
    (checked : query.check table columns = .ok ()) :
    FailsOnly (WhenInvalid (Overlooked query table)) (evaluator.passingRows query table) := by
  unfold Evaluator.passingRows
  split
  · next condition isFilter =>
      obtain ⟨location, caseSensitive, text, translated⟩ := covered.filter condition isFilter
      refine .filterM fun row _ => .map _ ?_
      apply fails_predicate translated
      · apply covered.known
        simp [Statement.exprs, isFilter]
      · unfold SelectQuery.check at checked
        split at checked
        · simp at checked
        · next plain => simpa [isFilter] using plain
      · exact fun right among pattern written malformed =>
          .badPattern isFilter among written malformed
  · exact .ok _

/-! ### Groups -/

/-- The check of grouping fails at columns that are not grouped. -/
theorem fails_checkGrouping (covered : Covered query table) {columns : List OutputColumn}
    (shows : OutputColumn.ofItems table query.items = .ok columns)
    (aggregated : query.isAggregated columns = true) :
    FailsOnly (Overlooked query table)
      (table.checkGrouping query.groupBy (query.groupedExprs columns)
        (columns.filterMap (·.name))) := by
  have known (expr : Expr) (among : expr ∈ query.groupedExprs columns) :
      expr.Known table (Overlooked query table) := by
    simp only [SelectQuery.groupedExprs, covered.having, Option.toList_none, List.append_nil,
      List.mem_append, List.mem_map, List.mem_filter] at among
    rcases among with ⟨column, ⟨isShown, -⟩, rfl⟩ | ⟨key, isKey, rfl⟩
    · exact (covered.showable_of_ofItems shows isShown).known
    · apply covered.known_of_value
      exact List.mem_append_right _ (List.mem_map_of_mem isKey)
  have knownKey (key : Expr) (isKey : key ∈ query.groupBy) :
      key.Known table (Overlooked query table) := by
    apply covered.known_of_value
    simp only [List.mem_append]
    exact .inl (.inl (.inr isKey))
  unfold Table.checkGrouping
  refine FailsOnly.bind (.filterMapM fun key isKey => ?_) fun places resolved => ?_
  · cases key with
    | column reference =>
        exact FailsOnly.bind (knownKey _ isKey reference List.mem_cons_self) fun _ _ => .pure _
    | _ => exact .pure _
  · refine .forM fun expr among => ?_
    split
    · exact .pure _
    · next unlike =>
        refine .forM fun reference bare => ?_
        split
        · exact .pure _
        · next unnamed =>
            refine FailsOnly.bind (known expr among reference (expr.bareColumns_subset bare))
              fun place meant => ?_
            split
            · next ungrouped =>
                apply FailsOnly.throw
                refine .ungrouped shows aggregated among ?_ bare ?_ ?_
                · simpa using unlike
                · intro unqualified isName
                  exact unnamed (by simpa [unqualified] using isName)
                · intro isKey
                  have grouped : place ∈ places := by
                    rw [(filterMapM_eq_ok resolved).2]
                    refine List.mem_filterMap.mpr ⟨_, isKey, ?_⟩
                    simp only [meant]
                    rfl
                  simp [grouped] at ungrouped
            · exact .pure _

/-- Keys are evaluated in rows, where nothing can be aggregated. -/
theorem fails_values (covered : Covered query table) {exprs : List Expr}
    (within : exprs ⊆ query.groupBy ++ query.pivot) (cells : List Cell) :
    FailsOnly (WhenInvalid (Overlooked query table))
      (evaluator.values (.ofRow table cells) exprs) := by
  refine .mapM fun expr among => ?_
  have isKey := within among
  have isValue : expr ∈ query.items.filterMap SelectItem.expr? ++ query.groupBy ++ query.pivot ++
      query.orderBy.map (·.expr) := by
    simp only [List.mem_append] at isKey ⊢
    tauto
  apply fails_value_ofRow (covered.values expr isValue) (covered.known_of_value isValue)
  exact fun call called => .aggregateInKey isKey called

theorem fails_groups (covered : Covered query table) {rows : List Row} {exprs : List Expr}
    (within : exprs ⊆ query.groupBy ++ query.pivot) :
    FailsOnly (WhenInvalid (Overlooked query table)) (evaluator.groups table rows exprs) := by
  unfold Evaluator.groups
  split
  · exact .pure _
  · refine FailsOnly.bind (.mapM fun row _ => ?_) fun keyed _ => ?_
    · exact FailsOnly.bind (covered.fails_values within row.cells) fun _ _ => .pure _
    · exact FailsOnly.bind (.lift_data _ _) fun _ _ => .pure _

theorem fails_pivotColumns (covered : Covered query table) {rows : List Row}
    {aggregates : List (Expr × String)} :
    FailsOnly (WhenInvalid (Overlooked query table))
      (evaluator.pivotColumns table rows query.pivot aggregates) := by
  refine FailsOnly.bind (covered.fails_groups (List.subset_append_right _ _)) fun groups _ => ?_
  refine FailsOnly.bind (.mapM fun group _ => ?_) fun _ _ => .pure _
  exact FailsOnly.bind (.lift_data _ _) fun _ _ => .pure _

theorem showable_of_orderBy (covered : Covered query table) {key : OrderKey}
    (among : key ∈ query.orderBy) : Showable query table key.expr := by
  have isKey : key.expr ∈ query.orderBy.map (·.expr) := List.mem_map_of_mem among
  refine ⟨covered.values _ (List.mem_append_right _ isKey),
    covered.known_of_value (List.mem_append_right _ isKey), fun call called inner nested => ?_⟩
  exact .aggregateInAggregate (List.mem_append_right _ isKey) called nested

end Covered

namespace Showable

variable {query : SelectQuery} {table : Table} {evaluator : Evaluator} {expr : Expr}

theorem fails_value (showable : Showable query table expr) (rows : List Row) :
    FailsOnly (WhenInvalid (Overlooked query table))
      (evaluator.value (.ofGroup evaluator table rows) expr) :=
  fails_value_ofGroup showable.value showable.known showable.flat

theorem fails_value_withNames (showable : Showable query table expr) (rows : List Row)
    (names : List (String × Cell)) :
    FailsOnly (WhenInvalid (Overlooked query table))
      (evaluator.value ((Context.ofGroup evaluator table rows).withNames names) expr) := by
  apply GridQuery.fails_value showable.value
  · intro reference bare
    apply fails_column_withNames
    exact fails_column_ofGroup (showable.known reference (expr.bareColumns_subset bare))
  · intro call among
    obtain ⟨inner, within⟩ := argument_of_mem_calls showable.value among
    exact fails_aggregate_ofGroup inner
      (fun reference used => showable.known reference (within used)) (showable.flat call among)

/-- In a row a value without an aggregate fails as its columns do. -/
theorem fails_value_row (showable : Showable query table expr)
    (plain : expr.hasAggregate = false) (cells : List Cell) (names : List (String × Cell)) :
    FailsOnly (WhenInvalid (Overlooked query table))
      (evaluator.value ((Context.ofRow table cells).withNames names) expr) := by
  apply GridQuery.fails_value showable.value
  · intro reference bare
    apply fails_column_withNames
    exact fails_column_ofRow (showable.known reference (expr.bareColumns_subset bare))
  · intro call among
    rw [calls_eq_nil plain] at among
    cases among

end Showable

/-- Rows whose keys can be evaluated, under all columns that do not depend on the data. -/
structure Presentable (evaluator : Evaluator) (query : SelectQuery) (table : Table)
    (columns : List OutputColumn) (output : Output) : Prop where
  keys : ∀ row ∈ output.rows, ∀ key ∈ query.orderBy,
    FailsOnly (WhenInvalid (Overlooked query table)) (evaluator.value row.context key.expr)
  shown : ∀ column ∈ columns, (query.pivot ≠ [] → column.expr.hasAggregate = false) →
    column ∈ output.columns
  known : ∀ column ∈ output.columns, ∀ reference, column.expr = .column reference →
    FailsOnly (Overlooked query table) (table.resolve reference)

namespace Covered

variable {query : SelectQuery} {table : Table} {evaluator : Evaluator}
  {columns : List OutputColumn} {rows : List Row}

theorem fails_pivotCell (covered : Covered query table) {group : Group} {column : PivotColumn}
    (showable : Showable query table column.aggregate) :
    FailsOnly (WhenInvalid (Overlooked query table))
      (evaluator.pivotCell table group query.pivot column) := by
  unfold Evaluator.pivotCell
  refine FailsOnly.bind (.mapM fun row _ => ?_) fun keyed _ => ?_
  · exact FailsOnly.bind (covered.fails_values (List.subset_append_right _ _) row.cells)
      fun _ _ => .pure _
  · dsimp only
    split
    · exact .pure _
    · exact showable.fails_value _

/-- The aggregates of pivot columns are projections. -/
theorem exists_aggregate {pivoted : List PivotColumn}
    (made : evaluator.pivotColumns table rows query.pivot
      ((columns.filter (·.expr.hasAggregate)).map fun column => (column.expr, column.label)) =
        .ok pivoted) {column : PivotColumn} (among : column ∈ pivoted) :
    ∃ shown ∈ columns, shown.expr.hasAggregate = true ∧ shown.expr = column.aggregate := by
  obtain ⟨keyed, -, pairs⟩ := Evaluator.pivotColumns_eq_ok made
  have pair : (column.key, column.aggregate) ∈
      pivoted.map fun column => (column.key, column.aggregate) := List.mem_map_of_mem among
  rw [pairs, List.map_map] at pair
  obtain ⟨key, -, found⟩ := List.mem_flatMap.mp pair
  obtain ⟨expr, isExpr, same⟩ := List.mem_map.mp found
  obtain ⟨shown, isShown, rfl⟩ := List.mem_map.mp isExpr
  have same : shown.expr = column.aggregate := congrArg Prod.snd same
  exact ⟨shown, List.mem_of_mem_filter isShown, (List.mem_filter.mp isShown).2, same⟩

theorem fails_projectGroup (covered : Covered query table) {pivoted : List PivotColumn}
    {group : Group} (showable : ∀ column ∈ columns, Showable query table column.expr)
    (pivots : ∀ column ∈ pivoted, Showable query table column.aggregate) :
    FailsOnly (WhenInvalid (Overlooked query table))
      (evaluator.projectGroup query table columns pivoted group) := by
  unfold Evaluator.projectGroup
  refine FailsOnly.bind (.mapM fun column among => (showable column among).fails_value _)
    fun shown _ => ?_
  refine FailsOnly.bind (.mapM fun column among => covered.fails_pivotCell (pivots column among))
    fun crossed _ => ?_
  rw [covered.having]
  exact .pure _

theorem keys_of_projectGroup (covered : Covered query table) {pivoted : List PivotColumn}
    {group : Group} {row : OutputRow}
    (made : evaluator.projectGroup query table columns pivoted group = .ok (some row)) :
    ∀ key ∈ query.orderBy,
      FailsOnly (WhenInvalid (Overlooked query table)) (evaluator.value row.context key.expr) := by
  simp only [Evaluator.projectGroup, covered.having, bind_eq_ok_iff, pure_eq_ok, Except.ok.injEq,
    Option.some.injEq] at made
  obtain ⟨shown, -, crossed, -, rfl⟩ := made
  intro key isKey
  exact (covered.showable_of_orderBy isKey).fails_value_withNames group.rows _

theorem fails_aggregate (covered : Covered query table)
    (shows : OutputColumn.ofItems table query.items = .ok columns) :
    FailsOnly (WhenInvalid (Overlooked query table))
      (evaluator.aggregate query table columns rows) := by
  have showable (column : OutputColumn) (among : column ∈ columns) :=
    covered.showable_of_ofItems shows among
  unfold Evaluator.aggregate
  refine FailsOnly.bind (covered.fails_groups (List.subset_append_left _ _)) fun groups _ => ?_
  split
  · exact FailsOnly.bind (.filterMapM fun group _ => covered.fails_projectGroup showable nofun)
      fun _ _ => .pure _
  · refine FailsOnly.bind covered.fails_pivotColumns fun pivoted made => ?_
    refine FailsOnly.bind (.filterMapM fun group _ => ?_) fun _ _ => .pure _
    apply covered.fails_projectGroup
    · exact fun column among => showable column (List.mem_of_mem_filter among)
    · intro column among
      obtain ⟨shown, isShown, -, same⟩ := exists_aggregate made among
      exact same ▸ showable shown isShown

theorem presentable_of_aggregate (covered : Covered query table)
    (shows : OutputColumn.ofItems table query.items = .ok columns) {output : Output}
    (made : evaluator.aggregate query table columns rows = .ok output) :
    Presentable evaluator query table columns output := by
  have known (column : OutputColumn) (among : column ∈ columns) (reference : ColumnRef)
      (same : column.expr = .column reference) :
      FailsOnly (Overlooked query table) (table.resolve reference) := by
    apply (covered.showable_of_ofItems shows among).known
    rw [same]
    exact List.mem_cons_self
  simp only [Evaluator.aggregate, bind_eq_ok_iff] at made
  obtain ⟨groups, -, made⟩ := made
  split at made
  · next unpivoted =>
      simp only [bind_eq_ok_iff, pure_eq_ok, Except.ok.injEq] at made
      obtain ⟨shown, projected, rfl⟩ := made
      refine ⟨fun row among => ?_, fun column among _ => among, known⟩
      obtain ⟨group, -, found⟩ := exists_of_mem_filterMapM projected among
      exact covered.keys_of_projectGroup found
  · next pivots =>
      simp only [bind_eq_ok_iff, pure_eq_ok, Except.ok.injEq] at made
      obtain ⟨pivoted, crossed, shown, projected, rfl⟩ := made
      refine ⟨fun row among => ?_, fun column among plain => ?_, fun column among => ?_⟩
      · obtain ⟨group, -, found⟩ := exists_of_mem_filterMapM projected among
        exact covered.keys_of_projectGroup found
      · refine List.mem_append_left _ (List.mem_filter.mpr ⟨among, ?_⟩)
        simpa using plain (by simpa using pivots)
      · rcases List.mem_append.mp among with inColumns | isMade
        · exact known column (List.mem_of_mem_filter inColumns)
        · obtain ⟨pivotColumn, isPivot, rfl⟩ := List.mem_map.mp isMade
          obtain ⟨shown, -, aggregates, same⟩ := exists_aggregate crossed isPivot
          intro reference isColumn
          rw [same, show pivotColumn.aggregate = .column reference from isColumn] at aggregates
          cases aggregates

/-- Without a group nothing is aggregated, neither in a column nor in a key. -/
theorem plain_of_not_isAggregated (rowwise : query.isAggregated columns = false) :
    (∀ column ∈ columns, column.expr.hasAggregate = false) ∧
      ∀ key ∈ query.orderBy, key.expr.hasAggregate = false := by
  simp only [SelectQuery.isAggregated, Bool.or_eq_false_iff, List.any_eq_false,
    Bool.not_eq_true] at rowwise
  exact ⟨rowwise.1.1.2, rowwise.2⟩

theorem fails_outputOf (covered : Covered query table)
    (shows : OutputColumn.ofItems table query.items = .ok columns) :
    FailsOnly (WhenInvalid (Overlooked query table))
      (evaluator.outputOf query table columns rows) := by
  unfold Evaluator.outputOf
  split
  · next aggregated =>
      refine FailsOnly.bind (.lift_validation (covered.fails_checkGrouping shows aggregated))
        fun _ _ => ?_
      exact covered.fails_aggregate shows
  · next rowwise =>
      obtain ⟨plain, -⟩ := plain_of_not_isAggregated (Bool.eq_false_iff.mpr rowwise)
      rw [covered.having]
      refine FailsOnly.bind (.mapM fun row _ => ?_) fun _ _ => .pure _
      refine FailsOnly.bind (.mapM fun column among => ?_) fun _ _ => .pure _
      have showable := covered.showable_of_ofItems shows among
      split
      · exact .pure _
      · exact fails_plainValue showable.value showable.known (plain column among)

theorem presentable_of_outputOf (covered : Covered query table)
    (shows : OutputColumn.ofItems table query.items = .ok columns) {output : Output}
    (made : evaluator.outputOf query table columns rows = .ok output) :
    Presentable evaluator query table columns output := by
  unfold Evaluator.outputOf at made
  split at made
  · simp only [bind_eq_ok_iff] at made
    obtain ⟨_, -, made⟩ := made
    exact covered.presentable_of_aggregate shows made
  · next rowwise =>
      obtain ⟨-, plain⟩ := plain_of_not_isAggregated (Bool.eq_false_iff.mpr rowwise)
      simp only [covered.having, Option.isSome_none, Bool.false_eq_true, if_false,
        bind_eq_ok_iff, pure_eq_ok, Except.ok.injEq] at made
      obtain ⟨shown, projected, rfl⟩ := made
      refine ⟨fun row among key isKey => ?_, fun column among _ => among,
        fun column among reference same => ?_⟩
      · obtain ⟨source, -, found⟩ := exists_of_mem_mapM projected among
        simp only [Evaluator.project, bind_eq_ok_iff, pure_eq_ok, Except.ok.injEq] at found
        obtain ⟨cells, -, rfl⟩ := found
        exact (covered.showable_of_orderBy isKey).fails_value_row (plain key isKey) _ _
      · apply (covered.showable_of_ofItems shows among).known
        rw [same]
        exact List.mem_cons_self

/-! ### Order and notes -/

theorem fails_arrange (covered : Covered query table) {output : Output}
    (presentable : Presentable evaluator query table columns output) :
    FailsOnly (WhenInvalid (Overlooked query table)) (evaluator.arrange query output) := by
  unfold Evaluator.arrange
  refine FailsOnly.bind ?_ fun kept thinned => FailsOnly.bind ?_ fun _ _ => .pure _
  · simp only [Evaluator.distinctRows, covered.distinct, Bool.not_false, if_true]
    exact .pure _
  · simp only [Evaluator.distinctRows, covered.distinct, Bool.not_false, if_true, pure_eq_ok,
      Except.ok.injEq] at thinned
    obtain rfl := thinned
    unfold Evaluator.sortRows
    split
    · exact .pure _
    · refine FailsOnly.bind (.mapM fun row isRow => .mapM fun expr isKey => ?_) fun _ _ => ?_
      · obtain ⟨key, among, rfl⟩ := List.mem_map.mp isKey
        exact presentable.keys row isRow key among
      · exact FailsOnly.bind (.lift_data _ _) fun _ _ => .pure _

end Covered

/-! ### Labels and formats -/

namespace OutputColumn

variable {table : Table} {allowed : ValidationError → Prop}

theorem fails_isShown {expr : Expr} (known : expr.Known table allowed) {column : OutputColumn}
    (ofColumn : ∀ reference, column.expr = .column reference →
      FailsOnly allowed (table.resolve reference)) :
    FailsOnly allowed (column.isShown table expr) := by
  unfold isShown
  split
  · exact .pure _
  · split
    · next reference same _ =>
        refine FailsOnly.bind (known _ List.mem_cons_self) fun _ _ => ?_
        exact FailsOnly.bind (ofColumn reference same) fun _ _ => .pure _
    · exact .pure _

theorem fails_placeOf {expr : Expr} (known : expr.Known table allowed)
    {columns : List OutputColumn}
    (ofColumns : ∀ column ∈ columns, ∀ reference, column.expr = .column reference →
      FailsOnly allowed (table.resolve reference)) :
    FailsOnly allowed (placeOf table expr columns) := by
  induction columns with
  | nil => exact .pure _
  | cons column rest inductionHypothesis =>
      refine FailsOnly.bind (fails_isShown known (ofColumns column List.mem_cons_self))
        fun _ _ => ?_
      have later := inductionHypothesis fun other among =>
        ofColumns other (List.mem_cons_of_mem column among)
      split
      · exact .pure _
      · exact FailsOnly.bind later fun _ _ => .pure _

theorem isShown_of_placeOf_none {expr : Expr} {columns : List OutputColumn}
    (missing : placeOf table expr columns = .ok none) {column : OutputColumn}
    (among : column ∈ columns) : column.isShown table expr = .ok false := by
  induction columns with
  | nil => cases among
  | cons first rest inductionHypothesis =>
      simp only [placeOf, bind_eq_ok_iff] at missing
      obtain ⟨shown, tested, missing⟩ := missing
      split at missing
      · cases missing
      · next differs =>
          simp only [bind_eq_ok_iff, pure_eq_ok, Except.ok.injEq, Option.map_eq_none_iff]
            at missing
          obtain ⟨_, later, rfl⟩ := missing
          rcases List.mem_cons.mp among with rfl | inRest
          · rw [tested, Bool.eq_false_iff.mpr differs]
          · exact inductionHypothesis later inRest

end OutputColumn

namespace Covered

variable {query : SelectQuery} {table : Table} {evaluator : Evaluator}
  {columns : List OutputColumn}

/-- The column of a note is found, or nothing that is shown is what the note is about. -/
theorem fails_find (covered : Covered query table)
    (shows : OutputColumn.ofItems table query.items = .ok columns) {output : Output}
    (presentable : Presentable evaluator query table columns output) {clause : String}
    {entry : Expr × String} (isNote : clause = "LABEL" ∧ entry ∈ query.labels ∨
      clause = "FORMAT" ∧ entry ∈ query.formats) :
    FailsOnly (Overlooked query table)
      (OutputColumn.find table clause output.columns entry.1) := by
  have among : entry.1 ∈ (Statement.select query).exprs := by
    simp only [Statement.exprs, List.mem_append, List.mem_map]
    rcases isNote with ⟨-, isLabel⟩ | ⟨-, isFormat⟩
    · exact .inl (.inr ⟨entry, isLabel, rfl⟩)
    · exact .inr ⟨entry, isFormat, rfl⟩
  unfold OutputColumn.find
  dsimp only
  split
  · exact .pure _
  · next unnamed =>
      refine FailsOnly.bind (OutputColumn.fails_placeOf (covered.known _ among) presentable.known)
        fun place missing => ?_
      cases place with
      | some place => exact .pure _
      | none =>
          refine .throw (.unselected shows isNote fun column isColumn shown => ?_)
          by_contra stays
          have inOutput : column ∈ output.columns := by
            apply presentable.shown column isColumn
            intro pivots
            apply Bool.eq_false_iff.mpr
            exact fun aggregates => stays ⟨pivots, aggregates⟩
          rcases shown with meant | ⟨name, called, isName⟩
          · rw [OutputColumn.isShown_of_placeOf_none missing inOutput] at meant
            cases meant
          · rw [isName] at unnamed
            simp only [List.findIdx?_eq_none_iff, beq_eq_false_iff_ne] at unnamed
            exact unnamed column inOutput called

theorem fails_render (covered : Covered query table)
    (shows : OutputColumn.ofItems table query.items = .ok columns) {output arranged : Output}
    (presentable : Presentable evaluator query table columns output)
    (same : arranged.columns = output.columns) :
    FailsOnly (WhenInvalid (Overlooked query table))
      (arranged.render table query.labels query.formats) := by
  have noted {clause : String} {entries : List (Expr × String)}
      (isNote : ∀ entry ∈ entries, clause = "LABEL" ∧ entry ∈ query.labels ∨
        clause = "FORMAT" ∧ entry ∈ query.formats) :
      FailsOnly (Overlooked query table) (arranged.notes table clause entries) := by
    refine FailsOnly.bind (.mapM fun entry among => ?_) fun _ _ => .pure _
    rw [same]
    exact FailsOnly.bind (covered.fails_find shows presentable (isNote entry among))
      fun _ _ => .pure _
  unfold Output.render
  refine FailsOnly.bind (.lift_validation (noted fun _ among => .inl ⟨rfl, among⟩))
    fun _ _ => ?_
  refine FailsOnly.bind (.lift_validation (noted fun _ among => .inr ⟨rfl, among⟩))
    fun patterns _ => ?_
  refine FailsOnly.bind (.mapM fun row _ => .mapM fun pair _ => ?_) fun _ _ => .pure _
  dsimp only [Output.resultCell]
  split
  · exact FailsOnly.bind (.lift_data _ _) fun _ _ => .pure _
  · exact .pure _

/-- A query whose translation found its columns evaluates without a fault of its own, other
than one that the translation overlooks. -/
theorem fails_select (covered : Covered query table) :
    FailsOnly (WhenInvalid (Overlooked query table)) (evaluator.select query table) := by
  unfold Evaluator.select
  refine FailsOnly.bind covered.fails_ofItems fun columns shows => ?_
  refine FailsOnly.bind (.lift_validation (covered.fails_check shows)) fun _ checked => ?_
  rw [lift_validation_eq_ok_iff] at checked
  refine FailsOnly.bind (covered.fails_passingRows checked) fun rows _ => ?_
  refine FailsOnly.bind (covered.fails_outputOf shows) fun output made => ?_
  have presentable := covered.presentable_of_outputOf shows made
  refine FailsOnly.bind (covered.fails_arrange presentable) fun arranged ordered => ?_
  apply covered.fails_render shows presentable
  simp only [Evaluator.arrange, bind_eq_ok_iff, pure_eq_ok, Except.ok.injEq] at ordered
  obtain ⟨_, -, _, -, rfl⟩ := ordered
  rfl

end Covered

/-- The evaluation of a translated query over the table of its range, whatever is in the
cells, finds no other fault of the query than one that the translation does not look for. -/
theorem overlooked_of_select {query : SelectQuery} {location : Location} {caseSensitive : Bool}
    {text : NativeText} {data : List Datum} {headerRows : Nat} {aliasName : Option String}
    {table : Table} {evaluator : Evaluator} {cause : ValidationError}
    (closed : location.IsClosed)
    (translated : Native.queryText? query location caseSensitive = some text)
    (made : Table.ofGrid location data headerRows aliasName = .ok table)
    (failed : evaluator.select query table = .error (.invalid cause)) :
    Overlooked query table cause := by
  have covered := covered_of_queryText? translated closed made
  exact covered.fails_select (.invalid cause) failed

/-! ### A query with a sum in its WHERE clause -/

open Evaluator (groupQuery named morning)

def whereSum : SelectQuery :=
  { groupQuery [.expr (named "A") none] [] with
    filter := some (.condition (.compare .gt) (.aggregate .sum (named "B")) (.literal (.int 1))) }

def fourColumns : Location where
  spreadsheet := "1BxiMVs0XRA5nFMdKvBdBZjgmUUqptlbs74OgvE2upms"
  range := "Sheet1!A:D"
  sheet := "Sheet1"
  firstColumn := "A"
  lastColumn := some "D"
  firstRow := 1
  lastRow := none

theorem fourColumns_isClosed : fourColumns.IsClosed :=
  ⟨"D", rfl, by decide⟩

def emptyFourColumns : Except Error Table :=
  Table.ofGrid fourColumns [] 0 none

theorem whereSum_overlooked :
    ∃ table, emptyFourColumns = .ok table ∧
      morning.select whereSum table = .error (.invalid .aggregateInWhere) ∧
      Overlooked whereSum table .aggregateInWhere := by
  have made : emptyFourColumns.toOption.isSome = true := by
    cbv
  have failed : (emptyFourColumns.bind fun table => morning.select whereSum table) =
      .error (.invalid .aggregateInWhere) := by
    cbv
  cases done : emptyFourColumns with
  | error failure => rw [done] at made; cases made
  | ok table =>
      rw [done] at failed
      have translated : (Native.queryText? whereSum fourColumns true).isSome = true := by
        decide
      obtain ⟨text, translated⟩ := Option.isSome_iff_exists.mp translated
      refine ⟨table, rfl, failed, ?_⟩
      exact overlooked_of_select fourColumns_isClosed translated done failed

/-- The sum is sent to the grid as it stands, though the query is not valid. -/
theorem whereSum_translated_not_valid :
    (Native.queryText? whereSum fourColumns true).map NativeText.text =
        some "select A where sum(B) > 1" ∧
      (emptyFourColumns.bind fun table => morning.select whereSum table) =
        .error (.invalid .aggregateInWhere) := by
  constructor
  · decide
  · cbv

end GridQuery
