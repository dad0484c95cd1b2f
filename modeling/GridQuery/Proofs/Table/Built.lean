import GridQuery.Proofs.Engine.Step
import GridQuery.Proofs.Location.ColumnCode
import GridQuery.Proofs.Table.Join
import GridQuery.Proofs.Table.Virtual

/-!
# Tables that statements run over

A table comes from virtual data, from the rows of a range, or from joining two such tables.
Its rows are all as wide as it has columns, and its columns are those of the tables that it
was joined from, one after the other.
-/

namespace GridQuery

namespace Table

/-- A table is loaded, or joined from others. -/
inductive Built : Table → Prop where
  | virtual {name : String} {data : List Datum} {aliasName : Option String} {table : Table} :
      ofVirtual name data aliasName = .ok table → Built table
  | grid {location : Location} {data : List Datum} {headerRows : Nat}
      {aliasName : Option String} {table : Table} :
      ofGrid location data headerRows aliasName = .ok table → Built table
  | join {left right table : Table} {clause : JoinClause} :
      Built left → Built right → left.join right clause = .ok table → Built table

theorem built_ofHeader {name : String} {aliasName : Option String} {header : List Datum}
    {raw : List (List Datum)} : (ofHeader name aliasName header raw).Built :=
  .virtual (ofVirtual_eq (mapM_rowItems_list (header :: raw)))

/-- Every row has a cell for each column. -/
def IsFull (table : Table) : Prop :=
  ∀ row ∈ table.rows, row.cells.length = table.columns.length

/-- What a table is that has not been joined: its columns have one name of a table, and those
of one id have one label. -/
structure IsSingle (table : Table) : Prop where
  unjoined : table.joined = false
  owned : ∃ owner, ∀ column ∈ table.columns, column.aliasName = owner
  labelled : ∀ column ∈ table.columns, ∀ other ∈ table.columns,
    column.id = other.id → column.label = other.label
  full : table.IsFull

theorem isSingle_ofVirtual {name : String} {data : List Datum} {aliasName : Option String}
    {table : Table} (made : ofVirtual name data aliasName = .ok table) : table.IsSingle := by
  obtain ⟨header, raw, rfl⟩ := ofVirtual_eq_ok made
  have shape : ∀ column ∈ (ofHeader name aliasName header raw).columns,
      column.aliasName = (ofHeader name aliasName header raw).aliasName ∧
        column.label = column.id := by
    intro column among
    obtain ⟨pair, -, rfl⟩ := List.mem_map.mp among
    exact ⟨rfl, rfl⟩
  refine ⟨rfl, ⟨_, fun column among => (shape column among).1⟩, ?_, ?_⟩
  · intro column among other inTable same
    rw [(shape column among).2, (shape other inTable).2, same]
  · exact fun row among => length_cells_ofHeader among

theorem columnLetters_injective {index other : Nat}
    (same : columnLetters index = columnLetters other) : index = other := by
  have indices := congrArg columnIndex same
  rwa [columnIndex_columnLetters, columnIndex_columnLetters, Int.natCast_inj] at indices

theorem isSingle_ofGrid {location : Location} {data : List Datum} {headerRows : Nat}
    {aliasName : Option String} {table : Table}
    (made : ofGrid location data headerRows aliasName = .ok table) : table.IsSingle := by
  simp only [ofGrid, bind_eq_ok_iff, lift_data_eq_ok_iff, pure_eq_ok, Except.ok.injEq] at made
  obtain ⟨raw, -, rfl⟩ := made
  refine ⟨rfl, ⟨aliasName, ?_⟩, ?_, ?_⟩
  · intro column among
    obtain ⟨pair, -, rfl⟩ := List.mem_map.mp among
    rfl
  · intro column among other inTable same
    obtain ⟨⟨label, index⟩, here, rfl⟩ := List.mem_map.mp among
    obtain ⟨⟨otherLabel, place⟩, there, rfl⟩ := List.mem_map.mp inTable
    obtain rfl : index = place := by
      have indices := columnLetters_injective same
      omega
    rw [List.mem_zipIdx_iff_getElem?] at here there
    exact Option.some.inj (here.symm.trans there)
  · intro row among
    have found := mem_numbered.mp among
    rw [List.getElem?_map] at found
    obtain ⟨items, -, same⟩ := Option.map_eq_some_iff.mp found
    rw [← same, fit]
    simp only [List.length_append, List.length_take, List.length_replicate, List.length_map,
      List.length_zipIdx, length_labelsOf]
    omega

/-! ### Joins -/

theorem length_of_mem_nestedRows {kind : JoinKind} {leftWidth rightWidth : Nat}
    {joins : List Cell → List Cell → Bool} {leftRows rightRows : List (List Cell)}
    (leftFull : ∀ cells ∈ leftRows, cells.length = leftWidth)
    (rightFull : ∀ cells ∈ rightRows, cells.length = rightWidth) {cells : List Cell}
    (among : cells ∈ nestedRows kind leftWidth rightWidth joins leftRows rightRows) :
    cells.length = leftWidth + rightWidth := by
  have beside {left right : List Cell} (inLeft : left ∈ leftRows) (inRight : right ∈ rightRows) :
      (left ++ right).length = leftWidth + rightWidth := by
    rw [List.length_append, leftFull left inLeft, rightFull right inRight]
  cases kind with
  | inner =>
      obtain ⟨left, inLeft, found⟩ := List.mem_flatMap.mp among
      obtain ⟨right, partner, rfl⟩ := List.mem_map.mp found
      exact beside inLeft (List.mem_filter.mp partner).1
  | left =>
      obtain ⟨left, inLeft, found⟩ := List.mem_flatMap.mp among
      split at found
      · obtain rfl := List.mem_singleton.mp found
        rw [List.length_append, List.length_replicate, leftFull left inLeft]
      · obtain ⟨right, partner, rfl⟩ := List.mem_map.mp found
        exact beside inLeft (List.mem_filter.mp partner).1
  | right =>
      obtain ⟨right, inRight, found⟩ := List.mem_flatMap.mp among
      split at found
      · obtain rfl := List.mem_singleton.mp found
        rw [List.length_append, List.length_replicate, rightFull right inRight]
      · obtain ⟨left, partner, rfl⟩ := List.mem_map.mp found
        exact beside (List.mem_filter.mp partner).1 inRight

theorem isFull_iff {table : Table} :
    table.IsFull ↔ ∀ cells ∈ table.cellRows, cells.length = table.columns.length := by
  simp [IsFull, cellRows]

theorem isFull_of_join {left right table : Table} {clause : JoinClause} (leftFull : left.IsFull)
    (rightFull : right.IsFull) (made : left.join right clause = .ok table) : table.IsFull := by
  obtain ⟨places, leftRows, rightRows, -, onLeft, onRight, rfl⟩ := (join_eq_ok_iff _).mp made
  have leftKeyed := keyedRows_eq (keyed_of_keyedRows onLeft)
  have rightKeyed := keyedRows_eq (keyed_of_keyedRows onRight)
  obtain rfl := Except.ok.inj (leftKeyed.symm.trans onLeft)
  obtain rfl := Except.ok.inj (rightKeyed.symm.trans onRight)
  rw [isFull_iff, cellRows_sideBySide]
  intro cells among
  rw [sideBySide, List.length_append]
  exact length_of_mem_nestedRows (isFull_iff.mp leftFull) (isFull_iff.mp rightFull) among

theorem isFull_of_built {table : Table} (built : table.Built) : table.IsFull := by
  induction built with
  | virtual made => exact (isSingle_ofVirtual made).full
  | grid made => exact (isSingle_ofGrid made).full
  | join _ _ made leftFull rightFull => exact isFull_of_join leftFull rightFull made

/-- A table that is not joined is a single one. -/
theorem isSingle_of_unjoined {table : Table} (built : table.Built)
    (unjoined : table.joined = false) : table.IsSingle := by
  cases built with
  | virtual made => exact isSingle_ofVirtual made
  | grid made => exact isSingle_ofGrid made
  | join _ _ made =>
      obtain ⟨_, _, _, -, -, -, rfl⟩ := (join_eq_ok_iff _).mp made
      exact absurd unjoined (by simp [sideBySide])

/-- The columns of a table are those of the single tables that it was joined from. -/
theorem sources_of_built {table : Table} (built : table.Built) :
    ∃ sources : List Table, (∀ source ∈ sources, source.IsSingle) ∧
      table.columns = sources.flatMap (·.columns) := by
  induction built with
  | @virtual _ _ _ table made => exact ⟨[table], by simpa using isSingle_ofVirtual made, by simp⟩
  | @grid _ _ _ _ table made => exact ⟨[table], by simpa using isSingle_ofGrid made, by simp⟩
  | join _ _ made leftHypothesis rightHypothesis =>
      obtain ⟨leftSources, leftSingle, leftColumns⟩ := leftHypothesis
      obtain ⟨rightSources, rightSingle, rightColumns⟩ := rightHypothesis
      obtain ⟨_, _, _, -, -, -, rfl⟩ := (join_eq_ok_iff _).mp made
      refine ⟨leftSources ++ rightSources, List.forall_mem_append.mpr ⟨leftSingle, rightSingle⟩, ?_⟩
      rw [sideBySide, List.flatMap_append, leftColumns, rightColumns]

end Table

/-! ### The tables of a statement -/

namespace Engine

variable {State : Type} {engine : Engine State} {before after : Session State} {table : Table}

theorem built_of_readTable {location : Location} {aliasName : Option String}
    (done : engine.readTable location aliasName before = (.ok table, after)) : table.Built := by
  rw [readTable, Step.bind_eq_ok_iff] at done
  obtain ⟨cells, middle, -, made⟩ := done
  cases cells with
  | list rows => exact .grid ((Step.liftM_eq_ok_iff ..).mp made).1
  | _ => cases made

theorem built_of_loadTable {target : Option TableRef}
    (done : engine.loadTable target before = (.ok table, after)) : table.Built := by
  unfold loadTable at done
  split at done
  · next name aliasName =>
      cases found : engine.workspace.virtualRows name with
      | error cause =>
          rw [found] at done
          cases done
      | ok rows =>
          rw [found] at done
          exact .virtual ((Step.liftM_eq_ok_iff ..).mp done).1
  · rw [Step.bind_eq_ok_iff] at done
    obtain ⟨location, middle, -, loaded⟩ := done
    exact built_of_readTable loaded

/-- Joining tables to a built one makes a built one. -/
theorem built_of_joinAll {first : Table} {clauses : List JoinClause} (built : first.Built)
    (done : engine.joinAll first clauses before = (.ok table, after)) : table.Built := by
  induction clauses generalizing first before with
  | nil =>
      cases done
      exact built
  | cons clause rest inductionHypothesis =>
      simp only [joinAll, Step.bind_eq_ok_iff] at done
      obtain ⟨other, middle, loaded, joined, later, made, continued⟩ := done
      have both := Table.Built.join built (built_of_loadTable loaded)
        ((Step.liftM_eq_ok_iff ..).mp made).1
      exact inductionHypothesis both continued

/-- A query that is evaluated is evaluated over a built table. -/
theorem built_of_evaluate {query : SelectQuery} {shown : SelectResult}
    (done : engine.evaluate query before = (.ok shown, after)) :
    ∃ table : Table, table.Built ∧ engine.evaluator.select query table = .ok shown := by
  simp only [evaluate, Step.bind_eq_ok_iff] at done
  obtain ⟨first, middle, loaded, table, later, joined, selected⟩ := done
  exact ⟨table, built_of_joinAll (built_of_loadTable loaded) joined,
    ((Step.liftM_eq_ok_iff ..).mp selected).1⟩

end Engine

end GridQuery
