import GridQuery.Proofs.Engine.Rectangular
import GridQuery.Proofs.Select.Grouped
import GridQuery.Proofs.Select.Names

/-!
# ORDER BY the name of an expression

A name of the SELECT list stands in ORDER BY for the cell of its column, which has been found
by then. The expression itself is evaluated once more, in a context that knows the names. If
no other column has the name, and no column that the expression reads is hidden by a name,
both are one value in every row, whether it is aggregated or not. Nor does it matter to the
checks, for the expression has passed them in the SELECT list.
-/

namespace GridQuery

/-! ### Names in a row of a result -/

theorem lookup_eq_some_of_nodup {Value : Type} {entries : List (String × Value)}
    (distinct : (entries.map (·.1)).Nodup) {name : String} {value : Value}
    (among : (name, value) ∈ entries) : entries.reverse.lookup name = some value := by
  obtain ⟨before, after, rfl⟩ := List.append_of_mem among
  rw [List.map_append, List.map_cons, List.nodup_append] at distinct
  have fresh := (List.nodup_cons.mp distinct.2.1).1
  refine List.lookup_eq_some_iff.mpr ⟨after.reverse, before.reverse, by simp, ?_⟩
  intro entry later
  rw [bne_iff_ne]
  intro same
  have known := List.mem_map_of_mem (f := Prod.fst) (List.mem_reverse.mp later)
  exact fresh (same ▸ known)

namespace Context

variable {context : Context} {names : List (String × Cell)} {reference : ColumnRef}

theorem column_withNames_of_lookup {cell : Cell} (unqualified : reference.qualifier = none)
    (found : names.reverse.lookup reference.name = some cell) :
    (context.withNames names).column reference = .ok cell := by
  simp only [withNames, unqualified, found]

/-- A name that is not given hides no column, and one that is hides no qualified one. -/
theorem column_withNames_of_notMem
    (hidden : reference.qualifier = none → reference.name ∉ names.map (·.1)) :
    (context.withNames names).column reference = context.column reference := by
  cases qualifier : reference.qualifier with
  | some owner => simp only [withNames, qualifier]
  | none =>
      have unknown : names.reverse.lookup reference.name = none := by
        refine List.lookup_eq_none_iff.mpr fun entry among => ?_
        rw [bne_iff_ne]
        intro same
        exact hidden qualifier (same ▸ List.mem_map_of_mem (List.mem_reverse.mp among))
      simp only [withNames, qualifier, unknown]

end Context

namespace OutputColumn

variable {columns : List OutputColumn} {cellOf : OutputColumn → Cell}

theorem named_map (columns : List OutputColumn) (cellOf : OutputColumn → Cell) :
    named columns (columns.map cellOf) =
      columns.filterMap fun column => column.name.map (·, cellOf column) := by
  have pairs : columns.zip (columns.map cellOf) =
      columns.map fun column => (column, cellOf column) := by
    rw [← List.zip_map', List.map_id']
  rw [named, pairs, List.filterMap_map]
  rfl

theorem map_fst_named :
    (named columns (columns.map cellOf)).map (·.1) = columns.filterMap (·.name) := by
  rw [named_map, List.map_filterMap]
  refine List.filterMap_congr fun column _ => ?_
  rw [Option.map_map]
  exact Option.map_id' (x := column.name)

end OutputColumn

/-- An expression has a name in a SELECT list that no other has, and no column that it reads
outside an aggregate is hidden by a name. -/
structure SelectQuery.Names (query : SelectQuery) (expr : Expr) (name : String) : Prop where
  named : (expr, name) ∈ query.named
  unique : query.names.Nodup
  unhidden : ∀ reference ∈ expr.bareColumns, reference.qualifier = none →
    reference.name ∉ query.names

/-- The query with a key of ORDER BY between others. -/
def SelectQuery.withKey (query : SelectQuery) (before : List OrderKey) (key : OrderKey)
    (after : List OrderKey) : SelectQuery :=
  { query with orderBy := before ++ key :: after }

namespace Evaluator

variable {evaluator : Evaluator} {table : Table} {query : SelectQuery}
  {columns : List OutputColumn} {expr : Expr} {name : String}

/-- The column of the name. -/
theorem exists_column_of_names (names : query.Names expr name)
    (shows : OutputColumn.ofItems table query.items = .ok columns) :
    ∃ column ∈ columns, column.expr = expr ∧ column.name = some name ∧ column.place = none := by
  have among : (expr, name) ∈ columns.filterMap OutputColumn.named? := by
    rw [OutputColumn.filterMap_named shows]
    exact names.named
  obtain ⟨column, inColumns, named⟩ := List.mem_filterMap.mp among
  obtain ⟨own, ownName, same⟩ := Option.map_eq_some_iff.mp named
  obtain ⟨rfl, rfl⟩ := Prod.mk.inj same
  exact ⟨column, inColumns, rfl, ownName,
    (OutputColumn.label_place_of_name shows inColumns ownName).2⟩

theorem contains_of_names (names : query.Names expr name)
    (shows : OutputColumn.ofItems table query.items = .ok columns) :
    (columns.filterMap (·.name)).contains name = true := by
  rw [OutputColumn.filterMap_name shows, List.contains_iff_mem]
  exact List.mem_map_of_mem names.named

/-- Where each column has its value, the name of an expression stands for that value. -/
theorem value_name (names : query.Names expr name)
    (shows : OutputColumn.ofItems table query.items = .ok columns) {context : Context}
    {cellOf : OutputColumn → Cell}
    (valued : ∀ column ∈ columns, column.place = none →
      evaluator.value context column.expr = .ok (cellOf column)) :
    evaluator.value (context.withNames (OutputColumn.named columns (columns.map cellOf)))
        (.column ⟨none, name⟩) =
      evaluator.value (context.withNames (OutputColumn.named columns (columns.map cellOf)))
        expr := by
  obtain ⟨column, inColumns, rfl, ownName, placeless⟩ := exists_column_of_names names shows
  have entry : (name, cellOf column) ∈ OutputColumn.named columns (columns.map cellOf) := by
    rw [OutputColumn.named_map]
    exact List.mem_filterMap.mpr ⟨column, inColumns, by rw [ownName]; rfl⟩
  have given : (OutputColumn.named columns (columns.map cellOf)).map (·.1) = query.names := by
    rw [OutputColumn.map_fst_named, OutputColumn.filterMap_name shows]
  have byName : evaluator.value
      (context.withNames (OutputColumn.named columns (columns.map cellOf)))
      (.column ⟨none, name⟩) = .ok (cellOf column) := by
    rw [value, Context.column_withNames_of_lookup rfl]
    exact lookup_eq_some_of_nodup (given ▸ names.unique) entry
  have byExpr : evaluator.value
      (context.withNames (OutputColumn.named columns (columns.map cellOf))) column.expr =
        evaluator.value context column.expr := by
    refine value_congr_of_alike (fun _ => ⟨rfl, rfl⟩) fun reference bare => ?_
    apply Context.column_withNames_of_notMem
    rw [given]
    exact names.unhidden reference bare
  rw [byName, byExpr, valued column inColumns placeless]

/-! ### The checks -/

theorem SelectQuery.lateExprs_withKey (query : SelectQuery) (before after : List OrderKey)
    (key : OrderKey) :
    (query.withKey before key after).lateExprs = before.map (·.expr) ++
      key.expr :: (after.map (·.expr) ++ query.distinctOn ++ query.having.toList) := by
  simp [SelectQuery.lateExprs, SelectQuery.withKey]

theorem check_withKey_name (names : query.Names expr name)
    (shows : OutputColumn.ofItems table query.items = .ok columns) (before after : List OrderKey)
    (descending : Bool) :
    (query.withKey before ⟨.column ⟨none, name⟩, descending⟩ after).check table columns =
      (query.withKey before ⟨expr, descending⟩ after).check table columns := by
  by_cases aggregates : query.filter.any (·.hasAggregate) = true
  · simp only [SelectQuery.check, SelectQuery.withKey, aggregates, if_true]
    rfl
  · simp only [SelectQuery.check, SelectQuery.lateExprs_withKey]
    simp only [SelectQuery.withKey, aggregates, Bool.false_eq_true, if_false]
    refine bind_congr_of_ok fun _ shown => bind_congr_of_ok fun _ _ => bind_congr_of_ok fun _ _ =>
      bind_congr_of_ok fun _ _ => ?_
    rw [forM_insert_of_ok, forM_insert_of_ok]
    · refine fun _ => forM_eq_ok_iff.mpr fun reference among => ?_
      obtain ⟨column, inColumns, rfl, -, placeless⟩ := exists_column_of_names names shows
      have checked := forM_eq_ok_iff.mp shown column
        (List.mem_filter.mpr ⟨inColumns, by rw [placeless]; rfl⟩)
      have resolved := forM_eq_ok_iff.mp checked reference among
      split_ifs
      · rfl
      · exact resolved
    · refine fun _ => forM_eq_ok_iff.mpr fun reference among => ?_
      obtain rfl := List.mem_singleton.mp among
      simp only [contains_of_names names shows, Option.isNone_none, Bool.and_self, if_true]
      rfl

/-- The check of grouping takes no notice of which of the two is a key. -/
theorem checkGrouping_withKey_name (names : query.Names expr name)
    (shows : OutputColumn.ofItems table query.items = .ok columns) (unpivoted : query.pivot = [])
    (before after : List OrderKey) (descending : Bool) :
    table.checkGrouping query.groupBy ((query.withKey before
      ⟨.column ⟨none, name⟩, descending⟩ after).groupedExprs columns)
        (columns.filterMap (·.name)) =
      table.checkGrouping query.groupBy ((query.withKey before
        ⟨expr, descending⟩ after).groupedExprs columns) (columns.filterMap (·.name)) := by
  have grouped (key : OrderKey) : (query.withKey before key after).groupedExprs columns =
      (columns.map (·.expr) ++ before.map (·.expr)) ++
        key.expr :: (after.map (·.expr) ++ query.having.toList) := by
    simp [SelectQuery.groupedExprs, SelectQuery.withKey, unpivoted]
  simp only [Table.checkGrouping, grouped]
  refine bind_congr_of_ok fun places _ => ?_
  rw [forM_insert_of_ok, forM_insert_of_ok]
  · intro passed
    obtain ⟨column, inColumns, rfl, -⟩ := exists_column_of_names names shows
    exact forM_eq_ok_iff.mp passed _ (List.mem_append_left _ (List.mem_map_of_mem inColumns))
  · intro _
    split_ifs
    · rfl
    · refine forM_eq_ok_iff.mpr fun reference among => ?_
      obtain rfl := List.mem_singleton.mp among
      simp only [contains_of_names names shows, Option.isNone_none, Bool.and_self, if_true]
      rfl

theorem isAggregated_withKey_name (names : query.Names expr name)
    (shows : OutputColumn.ofItems table query.items = .ok columns) (before after : List OrderKey)
    (descending : Bool) :
    (query.withKey before ⟨.column ⟨none, name⟩, descending⟩ after).isAggregated columns =
      (query.withKey before ⟨expr, descending⟩ after).isAggregated columns := by
  obtain ⟨column, inColumns, rfl, -⟩ := exists_column_of_names names shows
  have shown : column.expr.hasAggregate = true → columns.any (·.expr.hasAggregate) = true :=
    fun aggregates => List.any_eq_true.mpr ⟨column, inColumns, aggregates⟩
  simp only [SelectQuery.isAggregated, SelectQuery.withKey, List.any_append, List.any_cons,
    show (Expr.column ⟨none, name⟩).hasAggregate = false from rfl, Bool.false_or]
  cases aggregates : column.expr.hasAggregate with
  | false => rfl
  | true => simp [shown aggregates]

theorem outputOf_withKey_name (unpivoted : query.pivot = []) (names : query.Names expr name)
    (shows : OutputColumn.ofItems table query.items = .ok columns) (before after : List OrderKey)
    (descending : Bool) (rows : List Row) :
    evaluator.outputOf (query.withKey before ⟨.column ⟨none, name⟩, descending⟩ after) table
        columns rows =
      evaluator.outputOf (query.withKey before ⟨expr, descending⟩ after) table columns rows := by
  have grouping := checkGrouping_withKey_name names shows unpivoted before after descending
  rw [outputOf, outputOf, isAggregated_withKey_name names shows]
  cases (query.withKey before ⟨expr, descending⟩ after).isAggregated columns with
  | false => rfl
  | true => exact congrArg (fun step => liftM step >>= _) grouping

/-! ### Rows under the names of their cells -/

/-- The names of columns stand for what the columns' expressions are somewhere. -/
def NamesItsCells (evaluator : Evaluator) (columns : List OutputColumn) (row : OutputRow) : Prop :=
  ∃ context cellOf, row.context =
      Context.withNames context (OutputColumn.named columns (columns.map cellOf)) ∧
    ∀ column ∈ columns, column.place = none →
      evaluator.value context column.expr = .ok (cellOf column)

theorem namesItsCells_of_project {source : Row} {row : OutputRow}
    (done : evaluator.project table columns source = .ok row) :
    evaluator.NamesItsCells columns row := by
  simp only [project, bind_eq_ok_iff, pure_eq_ok, Except.ok.injEq] at done
  obtain ⟨cells, evaluated, rfl⟩ := done
  obtain ⟨each, rfl⟩ := mapM_eq_ok .null evaluated
  refine ⟨_, _, rfl, fun column among placeless => ?_⟩
  have here := each column among
  rw [placeless] at here ⊢
  exact here

theorem namesItsCells_of_projectGroup {group : Group} {row : OutputRow}
    (done : evaluator.projectGroup query table columns [] group = .ok (some row)) :
    evaluator.NamesItsCells columns row := by
  simp only [projectGroup, List.mapM_nil, pure_eq_ok, bind_eq_ok_iff, Except.ok.injEq,
    exists_eq_left', List.append_nil] at done
  obtain ⟨shown, evaluated, done⟩ := done
  obtain ⟨each, rfl⟩ := mapM_eq_ok .null evaluated
  refine ⟨_, _, ?_, fun column among _ => each column among⟩
  split at done
  · cases done
    rfl
  · simp only [bind_eq_ok_iff] at done
    obtain ⟨passes, -, done⟩ := done
    cases passes <;> cases done
    rfl

theorem namesItsCells_of_outputOf (unpivoted : query.pivot = []) {rows : List Row}
    {output : Output} (made : evaluator.outputOf query table columns rows = .ok output) :
    ∀ row ∈ output.rows, evaluator.NamesItsCells columns row := by
  intro row among
  unfold outputOf at made
  split_ifs at made
  · simp only [aggregate, unpivoted, List.isEmpty_nil, if_true, bind_eq_ok_iff, pure_eq_ok,
      Except.ok.injEq] at made
    obtain ⟨_, -, groups, -, shown, projected, rfl⟩ := made
    obtain ⟨group, -, done⟩ := exists_of_mem_filterMapM projected among
    exact namesItsCells_of_projectGroup done
  · simp at made
  · simp only [bind_eq_ok_iff, pure_eq_ok, Except.ok.injEq] at made
    obtain ⟨shown, projected, rfl⟩ := made
    obtain ⟨source, -, done⟩ := exists_of_mem_mapM projected among
    exact namesItsCells_of_project done

/-! ### Sorting -/

theorem sortRows_congr {Item : Type} {keys others : List OrderKey} {context : Item → Context}
    {rows : List Item} (directions : keys.map (·.descending) = others.map (·.descending))
    (same : ∀ row ∈ rows, evaluator.values (context row) (keys.map (·.expr)) =
      evaluator.values (context row) (others.map (·.expr))) :
    evaluator.sortRows keys context rows = evaluator.sortRows others context rows := by
  have some : keys.isEmpty = others.isEmpty := by
    rw [← List.isEmpty_map, directions, List.isEmpty_map]
  rw [sortRows, sortRows, some, directions, mapM_congr_of_mem same]

theorem arrange_withKey_name (names : query.Names expr name)
    (shows : OutputColumn.ofItems table query.items = .ok columns) {output : Output}
    (named : ∀ row ∈ output.rows, evaluator.NamesItsCells columns row)
    (before after : List OrderKey) (descending : Bool) :
    evaluator.arrange (query.withKey before ⟨.column ⟨none, name⟩, descending⟩ after) output =
      evaluator.arrange (query.withKey before ⟨expr, descending⟩ after) output := by
  have alike (kept : List OutputRow)
      (thinned : evaluator.distinctRows (query.withKey before ⟨expr, descending⟩ after)
        output.rows = .ok kept) :
      evaluator.sortRows (before ++ ⟨.column ⟨none, name⟩, descending⟩ :: after)
          OutputRow.context kept =
        evaluator.sortRows (before ++ ⟨expr, descending⟩ :: after) OutputRow.context kept := by
    refine sortRows_congr (by simp) fun row inKept => ?_
    obtain ⟨context, cellOf, known, valued⟩ := named row (distinctRows_subset thinned inKept)
    have same := value_name names shows valued
    simp only [values, List.map_append, List.map_cons, List.mapM_append, List.mapM_cons, known,
      same]
  rw [arrange, arrange]
  exact bind_congr_of_ok fun kept thinned => congrArg (· >>= _) (alike kept thinned)

/-- A name of the SELECT list and the expression that it names are one key of ORDER BY. -/
theorem select_withKey_name (unpivoted : query.pivot = []) (names : query.Names expr name)
    (before after : List OrderKey) (descending : Bool) :
    evaluator.select (query.withKey before ⟨.column ⟨none, name⟩, descending⟩ after) table =
      evaluator.select (query.withKey before ⟨expr, descending⟩ after) table := by
  rw [select, select]
  refine bind_congr_of_ok fun columns shows => ?_
  rw [check_withKey_name names shows]
  refine bind_congr_of_ok fun _ _ => bind_congr_of_ok fun rows _ => ?_
  rw [outputOf_withKey_name unpivoted names shows]
  refine bind_congr_of_ok fun output made => ?_
  have alone : (query.withKey before ⟨expr, descending⟩ after).pivot = [] := unpivoted
  rw [arrange_withKey_name names shows (namesItsCells_of_outputOf alone made)]
  rfl

/-! ### Sales in the order of the last of their items -/

def lastItem : Expr :=
  .aggregate .max (named "item")

def lastItemQuery : SelectQuery :=
  groupQuery [.expr lastItem (some "last"), .expr .countRows none] [named "item"]

theorem lastItemQuery_names : lastItemQuery.Names lastItem "last" := by
  constructor <;> decide

set_option maxRecDepth 4000 in
theorem sales_orderedByName :
    ∃ shown, shown.cellRows = [[.text "pen", .int 1], [.text "ink", .int 2]] ∧
      morning.select (lastItemQuery.withKey [] ⟨.column ⟨none, "last"⟩, true⟩ []) sales =
        .ok shown ∧
      morning.select (lastItemQuery.withKey [] ⟨lastItem, true⟩ []) sales = .ok shown := by
  let shown : SelectResult :=
    ⟨[⟨"max-item", "last", .string, none⟩, ⟨"count", "count(*)", .number, none⟩],
      [[⟨.text "pen", none⟩, ⟨.int 1, none⟩], [⟨.text "ink", none⟩, ⟨.int 2, none⟩]], .null⟩
  have byName : morning.select
      (lastItemQuery.withKey [] ⟨.column ⟨none, "last"⟩, true⟩ []) sales = .ok shown := by
    cbv
  refine ⟨shown, rfl, byName, ?_⟩
  rw [← byName, select_withKey_name rfl lastItemQuery_names]

end Evaluator

end GridQuery
