import GridQuery.Proofs.Order
import GridQuery.Proofs.Select.Grouped
import GridQuery.Proofs.Select.Star

/-!
# ORDER BY in the other directions

What comes before sorting takes no notice of directions, and what comes after it shows each
row on its own. Only the types of columns are found from all rows, and these do not depend on
the order of the rows. So with all directions turned round a query has the same columns, and
its rows the other way round, those on a par included.
-/

namespace GridQuery

/-! ### Types of columns -/

theorem eraseDups_eq_singleton_iff {Item : Type} [DecidableEq Item] {items : List Item}
    {single : Item} : items.eraseDups = [single] ↔ items ≠ [] ∧ ∀ item ∈ items, item = single := by
  cases items with
  | nil => simp
  | cons first rest =>
      rw [List.eraseDups_cons]
      constructor
      · intro shown
        obtain ⟨rfl, nothing⟩ := List.cons.inj shown
        refine ⟨List.cons_ne_nil _ _, fun item among => ?_⟩
        by_contra other
        have left : item ∈ (rest.filter fun item => !item == first).eraseDups := by
          rw [List.mem_eraseDups, List.mem_filter]
          exact ⟨(List.mem_cons.mp among).resolve_left other, by simpa using other⟩
        rw [nothing] at left
        cases left
      · rintro ⟨-, same⟩
        obtain rfl := same first List.mem_cons_self
        have nothing : rest.filter (fun item => !item == first) = [] :=
          List.filter_eq_nil_iff.mpr fun item among => by
            simp [same item (List.mem_cons_of_mem first among)]
        rw [nothing, List.eraseDups_nil]

namespace CellType

/-- Those of some types that are found most often. -/
def mostFrequent (types : List CellType) : List CellType :=
  types.filter fun kind =>
    types.count kind == types.foldl (fun best kind => max best (types.count kind)) 0

/-- The only one of some types, if there is only one. -/
def onlyOne (types : List CellType) : CellType :=
  match types.eraseDups with
  | [winner] => winner
  | _ => .string

variable {left right : List CellType}

theorem mostFrequent_perm (perm : left.Perm right) :
    (mostFrequent left).Perm (mostFrequent right) := by
  have commutes : RightCommutative fun (best : Nat) kind => max best (right.count kind) :=
    ⟨fun best kind other => by omega⟩
  have best : left.foldl (fun best kind => max best (right.count kind)) 0 =
      right.foldl (fun best kind => max best (right.count kind)) 0 :=
    perm.foldl_eq 0
  simp only [mostFrequent, perm.count_eq, best]
  exact perm.filter _

theorem onlyOne_perm (perm : left.Perm right) : onlyOne left = onlyOne right := by
  have single (winner : CellType) : left.eraseDups = [winner] ↔ right.eraseDups = [winner] := by
    simp only [eraseDups_eq_singleton_iff, perm.mem_iff, ne_eq, ← List.length_eq_zero_iff,
      perm.length_eq]
  unfold onlyOne
  split
  case h_1 winner one => rw [(single winner).mp one]
  case h_2 several =>
    split
    case h_1 winner one => exact absurd ((single winner).mpr one) (several winner)
    case h_2 => rfl

end CellType

/-- The type of most cells does not depend on their order. -/
theorem Cell.majorityType_perm {left right : List Cell} (perm : left.Perm right) :
    majorityType left = majorityType right :=
  CellType.onlyOne_perm (CellType.mostFrequent_perm ((perm.filter _).map _))

theorem Output.columnType_perm (table : Table) (column : OutputColumn) {left right : List Cell}
    (perm : left.Perm right) : columnType table column left = columnType table column right := by
  have blank : left.all Cell.isBlank = right.all Cell.isBlank := perm.all_eq
  rw [columnType, columnType, blank, Cell.majorityType_perm perm]

/-! ### The stages of a query -/

theorem mapM_reverse_eq_ok {Failure Item Result : Type} {step : Item → Except Failure Result}
    {items : List Item} {results : List Result} (done : items.mapM step = .ok results) :
    items.reverse.mapM step = .ok results.reverse := by
  rw [mapM_eq_ok_iff] at done ⊢
  exact List.forall₂_reverse_iff.mpr done

/-- The key in the other direction. -/
def OrderKey.turned (key : OrderKey) : OrderKey :=
  { key with descending := !key.descending }

/-- The query with all its keys in the other direction. -/
def SelectQuery.turned (query : SelectQuery) : SelectQuery :=
  { query with orderBy := query.orderBy.map OrderKey.turned }

/-- The result with its rows the other way round. -/
def SelectResult.turned (result : SelectResult) : SelectResult :=
  { result with rows := result.rows.reverse }

theorem OrderKey.turned_turned (key : OrderKey) : key.turned.turned = key := by
  simp [turned]

theorem SelectQuery.turned_turned (query : SelectQuery) : query.turned.turned = query := by
  simp [turned, List.map_map, Function.comp_def, OrderKey.turned_turned]

theorem SelectResult.turned_turned (result : SelectResult) : result.turned.turned = result := by
  simp [turned]

theorem map_expr_turned (keys : List OrderKey) :
    (keys.map OrderKey.turned).map (·.expr) = keys.map (·.expr) := by
  simp [OrderKey.turned]

theorem map_descending_turned (keys : List OrderKey) :
    (keys.map OrderKey.turned).map (·.descending) = (keys.map (·.descending)).map (!·) := by
  simp [OrderKey.turned]

namespace SelectQuery

variable (query : SelectQuery) (table : Table) (columns : List OutputColumn)

theorem check_turned : query.turned.check table columns = query.check table columns := by
  simp only [check, lateExprs, turned, map_expr_turned]

theorem isAggregated_turned : query.turned.isAggregated columns = query.isAggregated columns := by
  simp [isAggregated, turned, OrderKey.turned, Function.comp_def]

theorem groupedExprs_turned : query.turned.groupedExprs columns = query.groupedExprs columns := by
  simp only [groupedExprs, turned, map_expr_turned]

end SelectQuery

namespace Evaluator

variable {evaluator : Evaluator} {query : SelectQuery} {table : Table}

theorem outputOf_turned (columns : List OutputColumn) (rows : List Row) :
    evaluator.outputOf query.turned table columns rows =
      evaluator.outputOf query table columns rows := by
  rw [outputOf, outputOf, query.isAggregated_turned, query.groupedExprs_turned]
  rfl

/-- Values by which rows are sorted that are all numbers where they are numeric have keys
that can be set in order. -/
theorem isKeyRow_of_values {context : Context} {keys : List OrderKey} {cells : List Cell}
    (given : ∀ key ∈ keys, evaluator.value context key.expr ≠ .ok (.number (.float .nan)))
    (evaluated : evaluator.values context (keys.map (·.expr)) = .ok cells) {row : List SortKey}
    (read : cells.mapM Cell.sortKey = .ok row) : IsKeyRow (keys.map (·.descending)) row := by
  refine isKeyRow_of_cells ?_ (fun cell inCells isNaN => ?_) read
  · rw [length_of_mapM_eq_ok evaluated, List.length_map, List.length_map]
  · obtain ⟨expr, inExprs, valued⟩ := exists_of_mem_mapM evaluated inCells
    obtain ⟨key, inKeys, rfl⟩ := List.mem_map.mp inExprs
    exact given key inKeys (valued.trans (congrArg Except.ok isNaN))

/-- Rows sorted by the same keys in the other directions are the other way round. -/
theorem sortRows_turned {Item : Type} {keys : List OrderKey} (some : keys ≠ [])
    {context : Item → Context} {rows sorted : List Item}
    (given : ∀ row ∈ rows, ∀ key ∈ keys,
      evaluator.value (context row) key.expr ≠ .ok (.number (.float .nan)))
    (done : evaluator.sortRows keys context rows = .ok sorted) :
    evaluator.sortRows (keys.map OrderKey.turned) context rows = .ok sorted.reverse := by
  have keyed : keys.isEmpty = false := by simpa using some
  simp only [sortRows, keyed, Bool.false_eq_true, if_false, sortPositions, bind_eq_ok_iff,
    lift_data_eq_ok_iff, pure_eq_ok, Except.ok.injEq] at done
  obtain ⟨cells, evaluated, _, ⟨sortKeys, read, rfl⟩, rfl⟩ := done
  have all : ∀ row ∈ sortKeys, IsKeyRow (keys.map (·.descending)) row := by
    intro sortKeyRow among
    obtain ⟨row, inCells, found⟩ := exists_of_mem_mapM read among
    obtain ⟨item, inRows, valued⟩ := exists_of_mem_mapM evaluated inCells
    exact isKeyRow_of_values (given item inRows) valued found
  have turned := sortPlaces_map_not (by simpa using some) all
  simp only [sortRows, List.isEmpty_map, keyed, Bool.false_eq_true, if_false, sortPositions,
    map_expr_turned, map_descending_turned, bind_eq_ok_iff, lift_data_eq_ok_iff, pure_eq_ok,
    Except.ok.injEq]
  exact ⟨cells, evaluated, _, ⟨sortKeys, read, rfl⟩, by rw [turned, pick_reverse]⟩

/-- The rows that a query sorts: those that it shows, after DISTINCT. -/
def Sorts (evaluator : Evaluator) (query : SelectQuery) (table : Table) (kept : List OutputRow) :
    Prop :=
  ∃ columns rows output, OutputColumn.ofItems table query.items = .ok columns ∧
    evaluator.passingRows query table = .ok rows ∧
    evaluator.outputOf query table columns rows = .ok output ∧
    evaluator.distinctRows query output.rows = .ok kept

/-- None of the values by which a query sorts its rows is what is not a number. -/
def SortsNumbers (evaluator : Evaluator) (query : SelectQuery) (table : Table) : Prop :=
  ∀ kept, evaluator.Sorts query table kept → ∀ row ∈ kept, ∀ key ∈ query.orderBy,
    evaluator.value row.context key.expr ≠ .ok (.number (.float .nan))

theorem sorts_turned (kept : List OutputRow) :
    evaluator.Sorts query.turned table kept ↔ evaluator.Sorts query table kept := by
  simp only [Sorts, outputOf_turned]
  rfl

theorem sortsNumbers_turned (numbers : evaluator.SortsNumbers query table) :
    evaluator.SortsNumbers query.turned table := by
  intro kept sorts row among key inKeys
  obtain ⟨original, inOriginal, rfl⟩ := List.mem_map.mp inKeys
  exact numbers kept ((sorts_turned kept).mp sorts) row among original inOriginal

end Evaluator

/-- Rows the other way round are shown so, in the same columns. -/
theorem Output.render_reverse {output : Output} {table : Table}
    {labels formats : List (Expr × String)} {shown : SelectResult}
    (done : output.render table labels formats = .ok shown) :
    Output.render ⟨output.columns, output.rows.reverse⟩ table labels formats =
      .ok shown.turned := by
  obtain ⟨labels, labelled, patterns, formatted, rows, made, rfl⟩ := render_eq_ok_iff.mp done
  refine render_eq_ok_iff.mpr
    ⟨labels, labelled, patterns, formatted, rows.reverse, mapM_reverse_eq_ok made, ?_⟩
  have columns : Output.resultColumns ⟨output.columns, output.rows.reverse⟩ table labels patterns =
      output.resultColumns table labels patterns := by
    simp only [resultColumns]
    refine List.map_congr_left fun pair _ => ?_
    have same : (Table.columnCells pair.2 (output.rows.reverse.map (·.cells))).Perm
        (Table.columnCells pair.2 (output.rows.map (·.cells))) :=
      ((List.reverse_perm output.rows).map _).map _
    rw [columnType_perm table pair.1 same]
  rw [columns]
  rfl

namespace Evaluator

variable {evaluator : Evaluator} {query : SelectQuery} {table : Table}

theorem select_turned_of_select (some : query.orderBy ≠ []) (unlimited : query.limit = none)
    (unskipped : query.offset = 0) (numbers : evaluator.SortsNumbers query table)
    {shown : SelectResult} (done : evaluator.select query table = .ok shown) :
    evaluator.select query.turned table = .ok shown.turned := by
  simp only [select, arrange, bind_eq_ok_iff, lift_validation_eq_ok_iff, pure_eq_ok,
    Except.ok.injEq] at done
  obtain ⟨columns, shows, _, checked, rows, passed, output, made, _,
    ⟨kept, distinct, sorted, sorts, rfl⟩, rendered⟩ := done
  have given := numbers kept ⟨columns, rows, output, shows, passed, made, distinct⟩
  have turned := sortRows_turned some given sorts
  simp only [select, arrange, bind_eq_ok_iff, lift_validation_eq_ok_iff, pure_eq_ok,
    Except.ok.injEq, query.check_turned, outputOf_turned]
  refine ⟨columns, shows, (), checked, rows, passed, output, made, _,
    ⟨kept, distinct, sorted.reverse, turned, rfl⟩, ?_⟩
  have whole (items : List OutputRow) : page query.offset query.limit items = items := by
    rw [unlimited, unskipped, page, List.drop_zero]
  have pages : page query.turned.offset query.turned.limit sorted.reverse =
      (page query.offset query.limit sorted).reverse := by
    rw [whole]
    exact whole _
  rw [pages]
  exact Output.render_reverse rendered

/-- A query without LIMIT and OFFSET that has all its directions turned round has the same
columns as before, and the same rows the other way round. -/
theorem select_turned (some : query.orderBy ≠ []) (unlimited : query.limit = none)
    (unskipped : query.offset = 0) (numbers : evaluator.SortsNumbers query table)
    (shown : SelectResult) :
    evaluator.select query.turned table = .ok shown.turned ↔
      evaluator.select query table = .ok shown := by
  refine ⟨fun done => ?_, select_turned_of_select some unlimited unskipped numbers⟩
  have keyed : query.turned.orderBy ≠ [] := by simpa [SelectQuery.turned] using some
  have back := select_turned_of_select keyed unlimited unskipped (sortsNumbers_turned numbers) done
  rwa [SelectQuery.turned_turned, SelectResult.turned_turned] at back

/-! ### Sales by their items, two of them on a par -/

def salesByItem : SelectQuery :=
  { groupQuery [.expr (named "item") none, .expr (named "sold") none] [] with
    orderBy := [⟨named "item", false⟩] }

theorem sortsNumbers_salesByItem : morning.SortsNumbers salesByItem sales := by
  rintro kept ⟨columns, rows, output, shows, passed, made, distinct⟩ row among key inKeys
  obtain rfl := List.mem_singleton.mp inKeys
  have shown : OutputColumn.ofItems sales salesByItem.items =
      .ok [⟨named "item", "item", "item", none, none⟩,
        ⟨named "sold", "sold", "sold", none, none⟩] := by
    cbv
  cases shows.symm.trans shown
  cases passed
  cases made
  cases distinct
  change row ∈ [_, _, _] at among
  simp only [List.mem_cons, List.not_mem_nil, or_false] at among
  rcases among with rfl | rfl | rfl <;> intro isNaN <;> cases isNaN

theorem salesByItem_turned :
    ∃ shown, morning.select salesByItem sales = .ok shown ∧
      shown.rows.map (·.map (·.value)) =
        [[.text "ink", .int 10], [.text "ink", .int 30], [.text "pen", .int 20]] ∧
      morning.select salesByItem.turned sales = .ok shown.turned := by
  let shown : SelectResult :=
    ⟨[⟨"item", "item", .string, none⟩, ⟨"sold", "sold", .number, none⟩],
      [[⟨.text "ink", none⟩, ⟨.int 10, none⟩], [⟨.text "ink", none⟩, ⟨.int 30, none⟩],
        [⟨.text "pen", none⟩, ⟨.int 20, none⟩]], .null⟩
  have done : morning.select salesByItem sales = .ok shown := by
    cbv
  refine ⟨shown, done, rfl, ?_⟩
  exact (select_turned (by decide) rfl rfl sortsNumbers_salesByItem shown).mpr done

end Evaluator

end GridQuery
