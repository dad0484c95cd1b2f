import GridQuery.Proofs.Select.Stages

/-!
# Names of columns

A SELECT list names some of its expressions. A column with a name has it as its label, and
shows the expression that the list gives the name to. Only the columns of a table that are
shown all together have their places.
-/

namespace GridQuery

/-- The names that a query gives. -/
def SelectQuery.names (query : SelectQuery) : List String :=
  query.named.map (·.2)

namespace OutputColumn

variable {table : Table} {items : List SelectItem} {columns : List OutputColumn}
  {column : OutputColumn}

/-- A column's expression with its name. -/
def named? (column : OutputColumn) : Option (Expr × String) :=
  column.name.map (column.expr, ·)

theorem of_mem_star {qualifier : Option String}
    (made : ofItem table (.star qualifier) = .ok columns) (among : column ∈ columns) :
    ∃ own place, ofPlace table own place = .ok column := by
  simp only [ofItem] at made
  split_ifs at made
  · simp at made
  · obtain ⟨⟨own, place⟩, -, given⟩ := exists_of_mem_mapM made among
    exact ⟨own, place, given⟩

/-- A column comes from an expression of the SELECT list, or shows a column of the table. -/
theorem of_mem_ofItems (shows : ofItems table items = .ok columns) (among : column ∈ columns) :
    (∃ expr aliasName, SelectItem.expr expr aliasName ∈ items ∧
      ofExpr table expr aliasName = .ok column) ∨
    ∃ own place, ofPlace table own place = .ok column := by
  simp only [ofItems, bind_eq_ok_iff, pure_eq_ok, Except.ok.injEq] at shows
  obtain ⟨parts, made, rfl⟩ := shows
  obtain ⟨part, inParts, inPart⟩ := List.mem_flatten.mp among
  obtain ⟨item, inItems, one⟩ := exists_of_mem_mapM made inParts
  cases item with
  | expr expr aliasName =>
      simp only [ofItem, bind_eq_ok_iff, pure_eq_ok, Except.ok.injEq] at one
      obtain ⟨only, given, rfl⟩ := one
      obtain rfl := List.mem_singleton.mp inPart
      exact .inl ⟨expr, aliasName, inItems, given⟩
  | star qualifier => exact .inr (of_mem_star one inPart)

/-- A column with a name has it as its label, and its expression is evaluated. -/
theorem label_place_of_name (shows : ofItems table items = .ok columns) (among : column ∈ columns)
    {name : String} (named : column.name = some name) :
    column.label = name ∧ column.place = none := by
  rcases of_mem_ofItems shows among with ⟨expr, aliasName, -, made⟩ | ⟨own, place, made⟩
  · obtain ⟨-, -, placeless, label⟩ := ofExpr_eq_ok made
    exact ⟨label name named, placeless⟩
  · rw [(ofPlace_eq_ok made).2.1] at named
    cases named

theorem place_of_hasAggregate (shows : ofItems table items = .ok columns)
    (among : column ∈ columns) (aggregates : column.expr.hasAggregate = true) :
    column.place = none := by
  rcases of_mem_ofItems shows among with ⟨expr, aliasName, -, made⟩ | ⟨own, place, made⟩
  · exact (ofExpr_eq_ok made).2.2.1
  · rw [(ofPlace_eq_ok made).2.2] at aggregates
    cases aggregates

theorem filterMap_named_ofItem {item : SelectItem} (made : ofItem table item = .ok columns) :
    columns.filterMap named? = item.named?.toList := by
  cases item with
  | expr expr aliasName =>
      simp only [ofItem, bind_eq_ok_iff, pure_eq_ok, Except.ok.injEq] at made
      obtain ⟨column, given, rfl⟩ := made
      obtain ⟨same, name, -⟩ := ofExpr_eq_ok given
      rw [List.filterMap_cons, List.filterMap_nil, named?, same, name, SelectItem.named?]
      cases aliasName.filter (!·.isEmpty) <;> rfl
  | star qualifier =>
      refine List.filterMap_eq_nil_iff.mpr fun column among => ?_
      obtain ⟨own, place, given⟩ := of_mem_star made among
      rw [named?, (ofPlace_eq_ok given).2.1]
      rfl

/-- Columns have the names that their items give. -/
theorem filterMap_named (shows : ofItems table items = .ok columns) :
    columns.filterMap named? = items.filterMap SelectItem.named? := by
  simp only [ofItems, bind_eq_ok_iff, pure_eq_ok, Except.ok.injEq] at shows
  obtain ⟨parts, made, rfl⟩ := shows
  rw [List.filterMap_flatten, map_of_mapM_eq_ok (fun _ _ => filterMap_named_ofItem) made]
  simp [List.filterMap_eq_flatMap_toList, List.flatMap_def]

theorem filterMap_name {query : SelectQuery} (shows : ofItems table query.items = .ok columns) :
    columns.filterMap (·.name) = query.names := by
  rw [SelectQuery.names, SelectQuery.named, ← filterMap_named shows, List.map_filterMap]
  refine List.filterMap_congr fun column _ => ?_
  rw [named?, Option.map_map]
  exact (Option.map_id' (x := column.name)).symm

end OutputColumn

/-! ### The check of a query -/

namespace SelectQuery

/-- What the check of a query asks for: WHERE aggregates nothing, and every column is there
that the query refers to, by a name of the SELECT list where these can be used. -/
structure IsChecked (query : SelectQuery) (table : Table) (columns : List OutputColumn) : Prop
    where
  filtered : query.filter.any (·.hasAggregate) = false
  shown : ∀ column ∈ columns, column.place = none → table.check column.expr = .ok ()
  groupBy : ∀ expr ∈ query.groupBy, table.check expr = .ok ()
  pivot : ∀ expr ∈ query.pivot, table.check expr = .ok ()
  filter : ∀ expr ∈ query.filter, table.check expr = .ok ()
  late : ∀ expr ∈ query.lateExprs, ∀ reference ∈ expr.columns,
    (reference.qualifier = none ∧ some reference.name ∈ columns.map (·.name)) ∨
      ∃ place, table.resolve reference = .ok place

theorem check_eq_ok_iff {query : SelectQuery} {table : Table} {columns : List OutputColumn} :
    query.check table columns = .ok () ↔ query.IsChecked table columns := by
  have late (reference : ColumnRef) :
      (do
        if reference.qualifier.isNone && (columns.filterMap (·.name)).contains reference.name then
          return
        let _ ← table.resolve reference : Except ValidationError Unit) = .ok () ↔
      (reference.qualifier = none ∧ some reference.name ∈ columns.map (·.name)) ∨
        ∃ place, table.resolve reference = .ok place := by
    have named : (columns.filterMap (·.name)).contains reference.name = true ↔
        some reference.name ∈ columns.map (·.name) := by
      simp [List.mem_filterMap]
    split_ifs with known
    · rw [Bool.and_eq_true, Option.isNone_iff_eq_none, named] at known
      simp [known]
    · rw [Bool.and_eq_true, Option.isNone_iff_eq_none, named] at known
      rw [or_iff_right known]
      simp
  by_cases filtered : query.filter.any (·.hasAggregate) = true
  · have refused : query.check table columns = .error .aggregateInWhere := by
      simp only [check, filtered, if_true]
      rfl
    rw [refused]
    constructor
    · intro done
      cases done
    · intro checked
      cases filtered.symm.trans checked.filtered
  · have steps : query.check table columns = .ok () ↔
        (∀ column ∈ columns, column.place = none → table.check column.expr = .ok ()) ∧
          (∀ expr ∈ query.groupBy, table.check expr = .ok ()) ∧
          (∀ expr ∈ query.pivot, table.check expr = .ok ()) ∧
          (∀ expr ∈ query.filter, table.check expr = .ok ()) ∧
          ∀ expr ∈ query.lateExprs, ∀ reference ∈ expr.columns,
            (reference.qualifier = none ∧ some reference.name ∈ columns.map (·.name)) ∨
              ∃ place, table.resolve reference = .ok place := by
      simp only [check, filtered, Bool.false_eq_true, if_false, bind_eq_ok_iff, forM_eq_ok_iff,
        Unique.exists_iff, PUnit.default_eq_unit, late, List.mem_filter, Option.isNone_iff_eq_none,
        Option.mem_toList, Option.mem_def, and_imp]
    rw [steps]
    constructor
    · rintro ⟨shown, groupBy, pivot, filter, later⟩
      exact ⟨Bool.eq_false_iff.mpr filtered, shown, groupBy, pivot, filter, later⟩
    · rintro ⟨-, shown, groupBy, pivot, filter, later⟩
      exact ⟨shown, groupBy, pivot, filter, later⟩

end SelectQuery

end GridQuery
