import GridQuery.Proofs.Grid.Memory
import GridQuery.Proofs.Mutation

/-!
# Changes of a sheet

A change of a range finds its rows in the table of the range and writes by row numbers and
column letters of the sheet. The addresses meet: the row that a condition picks is the row
that is written or goes.
-/

namespace GridQuery

/-! ### What a change may do -/

/-- A column of a sheet, counted from zero, is the one that an assignment is for. -/
def Assignment.IsFor (table : Table) (assignment : Assignment) (column : Nat) : Prop :=
  ∃ place shown, table.resolve assignment.column = .ok place ∧
    table.columns[place]? = some shown ∧ column = (columnIndex shown.id).toNat

/-- The cells of a row of a table are those of the sheet's row of its number. -/
def Row.StandsOn (sheet : SheetRows) (location : Location) (headerRows width : Nat)
    (row : Row) : Prop :=
  ∃ cells, sheet[sheetRow location headerRows row.ordinal - 1]? = some cells ∧
    row.cells = Table.fit width ((SheetRows.cut location cells).map Table.placeCell)

/-- The rows of a sheet after an UPDATE of the picked rows of a range of it. -/
structure UpdatedRows (evaluator : Evaluator) (location : Location) (headerRows : Nat)
    (assignments : List Assignment) (table : Table) (picked : List Row)
    (before after : SheetRows) : Prop where
  size : after.length = before.length
  columns : ∀ assignment ∈ assignments, ∃ column, assignment.IsFor table column
  /-- The last assignment for a column counts. -/
  assigned : ∀ row ∈ picked, ∀ earlier assignment later,
    assignments = earlier ++ assignment :: later →
    ∀ column, assignment.IsFor table column →
      (∀ other ∈ later, ¬ other.IsFor table column) →
      ∃ cell, evaluator.value (.ofRow table row.cells) assignment.value = .ok cell ∧
        after.cell? (sheetRow location headerRows row.ordinal) column =
          some (writtenValue cell.toDatum)
  /-- No other cell changes, but a row that is too short for a written column is filled up. -/
  others : ∀ number column,
    (∀ row ∈ picked, number = sheetRow location headerRows row.ordinal →
      ∀ assignment ∈ assignments, ¬ assignment.IsFor table column) →
    after.cell? number column = before.cell? number column ∨
      before.cell? number column = none ∧ after.cell? number column = some (.text "") ∧
        ∃ row ∈ picked, number = sheetRow location headerRows row.ordinal ∧
          ∃ assignment ∈ assignments, ∃ written,
            assignment.IsFor table written ∧ column < written

/-- The rows of a sheet after a DELETE of the picked rows of a range of it. -/
def DeletedRows (location : Location) (headerRows : Nat) (picked : List Row)
    (before after : SheetRows) : Prop :=
  after = SheetRows.keeping (fun number =>
    !(picked.map fun row => sheetRow location headerRows row.ordinal).contains number) before

/-! ### Addresses -/

namespace SheetRows

variable {location : Location} {headerRows : Nat} {sheet : SheetRows} {table : Table}
  {aliasName : Option String}

/-- The rows of a range's table stand on the sheet where they are written to. -/
theorem standsOn_of_mem (firstRow : 1 ≤ location.firstRow)
    (made : Table.ofGrid location ((window location sheet).map .list) headerRows aliasName =
      .ok table) {row : Row} (membership : row ∈ table.rows) :
    row.StandsOn sheet location headerRows table.columns.length := by
  obtain ⟨items, read, cells⟩ := Table.getElem?_of_mem_ofGrid made membership
  obtain ⟨whole, found, rfl⟩ := getElem?_window read
  refine ⟨whole, ?_, cells⟩
  have same : sheetRow location headerRows row.ordinal - 1 =
      location.firstRow - 1 + (headerRows + row.ordinal) := by
    rw [sheetRow]
    omega
  rw [same, found]

theorem isFor_target
    (made : Table.ofGrid location ((window location sheet).map .list) headerRows aliasName =
      .ok table) {assignment : Assignment}
    (resolved : table.resolve assignment.column = .ok (Evaluator.target table assignment))
    (column : Nat) :
    assignment.IsFor table column ↔
      column = location.start + Evaluator.target table assignment := by
  have ids := (Table.ofGrid_eq_ok made).2
  constructor
  · rintro ⟨place, shown, here, found, rfl⟩
    rw [resolved] at here
    cases here
    rw [ids _ _ found, columnIndex_columnLetters, Int.toNat_natCast]
  · rintro rfl
    have found := List.getElem?_eq_getElem (Table.resolve_lt resolved)
    refine ⟨_, _, resolved, found, ?_⟩
    rw [ids _ _ found, columnIndex_columnLetters, Int.toNat_natCast]

theorem sheetRow_inside (firstRow : 1 ≤ location.firstRow) {row : Row} {width : Nat}
    (stands : row.StandsOn sheet location headerRows width) :
    1 ≤ sheetRow location headerRows row.ordinal ∧
      sheetRow location headerRows row.ordinal ≤ sheet.length := by
  obtain ⟨_, found, _⟩ := stands
  have bound := (List.getElem?_eq_some_iff.mp found).1
  have positive : 1 ≤ sheetRow location headerRows row.ordinal := by
    rw [sheetRow]
    omega
  exact ⟨positive, by omega⟩

theorem nodup_ordinals_of_subperm
    (made : Table.ofGrid location ((window location sheet).map .list) headerRows aliasName =
      .ok table) {picked : List Row} (chosen : picked.Subperm table.rows) :
    (picked.map (·.ordinal)).Nodup := by
  rw [(Table.ofGrid_eq_ok made).1] at chosen
  exact Table.nodup_of_subperm_numbered chosen

/-! ### UPDATE -/

/-- The cells that an UPDATE sets in one row. -/
def rowWrites (evaluator : Evaluator) (table : Table) (location : Location) (headerRows : Nat)
    (assignments : List Assignment) (row : Row) : List CellWrite :=
  assignments.map fun assignment =>
    ⟨sheetRow location headerRows row.ordinal,
      location.start + Evaluator.target table assignment,
      writtenValue (evaluator.assigned table row assignment).toDatum⟩

/-- The cells that an UPDATE sets, row by row. -/
def updateWrites (evaluator : Evaluator) (table : Table) (location : Location)
    (headerRows : Nat) (assignments : List Assignment) (picked : List Row) :
    List CellWrite :=
  picked.flatMap (rowWrites evaluator table location headerRows assignments)

variable {evaluator : Evaluator} {assignments : List Assignment} {picked : List Row}

theorem mem_updateWrites {write : CellWrite} :
    write ∈ updateWrites evaluator table location headerRows assignments picked ↔
      ∃ row ∈ picked, ∃ assignment ∈ assignments, write =
        ⟨sheetRow location headerRows row.ordinal,
          location.start + Evaluator.target table assignment,
          writtenValue (evaluator.assigned table row assignment).toDatum⟩ := by
  simp only [updateWrites, rowWrites, List.mem_flatMap, List.mem_map, eq_comm]

/-- What an UPDATE asks of the grid is its writes, each by the letters of its column. -/
theorem cellUpdates_updatePlan
    (made : Table.ofGrid location ((window location sheet).map .list) headerRows aliasName =
      .ok table)
    (resolved : ∀ assignment ∈ assignments,
      table.resolve assignment.column = .ok (Evaluator.target table assignment)) :
    cellUpdates table location headerRows (evaluator.updatePlan table assignments picked) =
      (updateWrites evaluator table location headerRows assignments picked).map
        (CellWrite.update location) := by
  have letters (assignment : Assignment) (membership : assignment ∈ assignments) :
      ((table.columns[Evaluator.target table assignment]?).map (·.id)).getD "" =
        columnLetters (location.start + Evaluator.target table assignment) := by
    have found := List.getElem?_eq_getElem (Table.resolve_lt (resolved assignment membership))
    rw [found, Option.map_some, Option.getD_some]
    exact (Table.ofGrid_eq_ok made).2 _ _ found
  rw [cellUpdates, updateWrites, List.map_flatMap]
  simp only [Evaluator.updatePlan, List.flatMap_map, List.map_map, List.zip_map']
  congr 1
  funext row
  rw [rowWrites, List.map_map]
  refine List.map_congr_left fun assignment membership => ?_
  simp only [Function.comp_apply, CellWrite.update, letters assignment membership]

theorem updateWrites_inside (firstRow : 1 ≤ location.firstRow)
    (stand : ∀ row ∈ picked, row.StandsOn sheet location headerRows table.columns.length) :
    ∀ write ∈ updateWrites evaluator table location headerRows assignments picked,
      write.Inside sheet := by
  intro write membership
  obtain ⟨row, picked, _, _, rfl⟩ := mem_updateWrites.mp membership
  exact sheetRow_inside firstRow (stand row picked)

/-- The writes of an UPDATE after the last assignment for a cell of a row leave it alone. -/
theorem updateWrites_split {row : Row} {before after : List Row}
    {earlier later : List Assignment} {assignment : Assignment} :
    updateWrites evaluator table location headerRows (earlier ++ assignment :: later)
        (before ++ row :: after) =
      (updateWrites evaluator table location headerRows (earlier ++ assignment :: later) before ++
          rowWrites evaluator table location headerRows earlier row) ++
        ⟨sheetRow location headerRows row.ordinal,
          location.start + Evaluator.target table assignment,
          writtenValue (evaluator.assigned table row assignment).toDatum⟩ ::
        (rowWrites evaluator table location headerRows later row ++
          updateWrites evaluator table location headerRows (earlier ++ assignment :: later)
            after) := by
  simp only [updateWrites, rowWrites, List.flatMap_append, List.flatMap_cons, List.map_append,
    List.map_cons, List.append_assoc, List.cons_append]

theorem updatedRows_applyAll (firstRow : 1 ≤ location.firstRow)
    (made : Table.ofGrid location ((window location sheet).map .list) headerRows aliasName =
      .ok table)
    (distinct : (picked.map (·.ordinal)).Nodup)
    (stand : ∀ row ∈ picked, row.StandsOn sheet location headerRows table.columns.length)
    (resolved : ∀ assignment ∈ assignments,
      table.resolve assignment.column = .ok (Evaluator.target table assignment))
    (valued : ∀ row ∈ picked, ∀ assignment ∈ assignments,
      evaluator.value (.ofRow table row.cells) assignment.value =
        .ok (evaluator.assigned table row assignment)) :
    UpdatedRows evaluator location headerRows assignments table picked sheet
      (applyAll sheet (updateWrites evaluator table location headerRows assignments picked)) := by
  have inside : ∀ write ∈ updateWrites evaluator table location headerRows assignments picked,
      write.Inside sheet := updateWrites_inside firstRow stand
  constructor
  case size => exact length_applyAll inside
  case columns =>
    intro assignment membership
    exact ⟨_, (isFor_target made (resolved assignment membership) _).mpr rfl⟩
  case assigned =>
    intro row membership earlier assignment later split column here final
    subst split
    have among : assignment ∈ earlier ++ assignment :: later := by simp
    refine ⟨_, valued row membership assignment among, ?_⟩
    have target := (isFor_target made (resolved assignment among) column).mp here
    rw [target]
    obtain ⟨before, after, rfl⟩ := List.append_of_mem membership
    rw [updateWrites_split] at inside ⊢
    refine cell?_applyAll_last inside ?_
    intro write writes same
    rcases List.mem_append.mp writes with sameRow | otherRow
    · obtain ⟨other, afterwards, rfl⟩ := List.mem_map.mp sameRow
      have known := resolved other (by simp [afterwards])
      exact final other afterwards
        ((isFor_target made known column).mpr (target.trans same.2))
    · obtain ⟨other, otherPicked, _, _, rfl⟩ := mem_updateWrites.mp otherRow
      have apart : row.ordinal ∉ after.map (·.ordinal) := by
        rw [List.map_append, List.map_cons] at distinct
        exact (List.nodup_cons.mp distinct.of_append_right).1
      have equal : row.ordinal = other.ordinal := Nat.add_left_cancel same.1
      exact apart (List.mem_map.mpr ⟨other, otherPicked, equal.symm⟩)
  case others =>
    intro number column untouched
    have elsewhere :
        ∀ write ∈ updateWrites evaluator table location headerRows assignments picked,
          ¬ (number = write.row ∧ column = write.column) := by
      intro write writes same
      obtain ⟨row, chosen, assignment, among, rfl⟩ := mem_updateWrites.mp writes
      exact untouched row chosen same.1 assignment among
        ((isFor_target made (resolved assignment among) column).mpr same.2)
    rcases cell?_applyAll_of_forall_ne inside elsewhere with
      same | ⟨missing, filled, write, writes, atRow, beyond⟩
    · exact .inl same
    · obtain ⟨row, chosen, assignment, among, rfl⟩ := mem_updateWrites.mp writes
      exact .inr ⟨missing, filled, row, chosen, atRow, assignment, among, _,
        (isFor_target made (resolved assignment among) _).mpr rfl, beyond⟩

end SheetRows

end GridQuery
