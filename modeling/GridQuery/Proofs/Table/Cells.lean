import GridQuery.Proofs.Table.Built

/-!
# Cells of columns

Rows are numbered as they stand, and each has a cell for every column, however the table was
loaded and however many joins it comes from. So a reference that means a column of the table
means a cell of each of its rows.
-/

namespace GridQuery.Table

variable {table : Table}

/-- The rows have the numbers from zero on, in their order. -/
def IsNumbered (table : Table) : Prop :=
  table.rows.map (·.ordinal) = List.range table.rows.length

theorem isNumbered_of_eq {rows : List (List Cell)} (made : table.rows = numbered rows) :
    table.IsNumbered := by
  have length : (numbered rows).length = rows.length := by
    rw [numbered, List.length_map, List.length_zipIdx]
  rw [IsNumbered, made, map_ordinal_numbered, length]

theorem isNumbered_of_built (built : table.Built) : table.IsNumbered := by
  cases built with
  | virtual made =>
      obtain ⟨header, raw, rfl⟩ := ofVirtual_eq_ok made
      exact isNumbered_of_eq rfl
  | grid made =>
      simp only [ofGrid, bind_eq_ok_iff, lift_data_eq_ok_iff, pure_eq_ok, Except.ok.injEq] at made
      obtain ⟨raw, -, rfl⟩ := made
      exact isNumbered_of_eq rfl
  | join _ _ made =>
      obtain ⟨_, _, _, -, -, -, rfl⟩ := (join_eq_ok_iff _).mp made
      exact isNumbered_of_eq rfl

/-- A column that a reference means has a cell in each row, and the reference stands for it
there. -/
theorem exists_cell_of_resolve (full : table.IsFull) {reference : ColumnRef} {place : Nat}
    (resolved : table.resolve reference = .ok place) {row : Row} (among : row ∈ table.rows) :
    ∃ cell, row.cells[place]? = some cell ∧
      (Context.ofRow table row.cells).column reference = .ok cell := by
  have inside : place < row.cells.length := by
    rw [full row among]
    exact resolve_lt resolved
  have read : (Context.ofRow table row.cells).column reference =
      .ok (row.cells.getD place .null) := by
    simp only [Context.ofRow, resolved]
    rfl
  rw [List.getD_eq_getElem _ _ inside] at read
  exact ⟨row.cells[place], List.getElem?_eq_getElem inside, read⟩

/-- Whatever a table was loaded and joined from, its rows are numbered and have a cell for each
column, and so for each reference that means one. -/
theorem cells_of_built (built : table.Built) :
    table.IsFull ∧ table.IsNumbered ∧
      ∀ reference place, table.resolve reference = .ok place → ∀ row ∈ table.rows,
        ∃ cell, row.cells[place]? = some cell ∧
          (Context.ofRow table row.cells).column reference = .ok cell := by
  have full := isFull_of_built built
  refine ⟨full, isNumbered_of_built built, ?_⟩
  intro reference place resolved row among
  exact exists_cell_of_resolve full resolved among

/-! ### Orders beside a range of prices, and all customers beside them -/

def priceRange : Location :=
  ⟨"book", "Prices!A:C", "Prices", "A", some "C", 1, none⟩

def onItemOf (kind : JoinKind) : JoinClause :=
  ⟨kind, ⟨"Prices!A:C", false, some "p"⟩, ⟨none, "item"⟩, ⟨some "p", "A"⟩⟩

def pricedOrders : Except Error Table := do
  let prices ← ofGrid priceRange
    [.list [.text "item", .text "price"], .list [.text "ink", .int 3], .list [.text "pen"]] 1
    (some "p")
  let priced ← orders.join prices (onItemOf .left)
  priced.join customers (orderedBy .right)

/-- The price, which one row of the range lacks, has a cell in each row of the joins. -/
theorem pricedOrders_cells :
    ∃ table, pricedOrders = .ok table ∧ table.Built ∧ table.rows.length = 4 ∧
      table.resolve ⟨some "P", "price"⟩ = .ok 3 ∧ table.IsFull ∧ table.IsNumbered ∧
      ∀ row ∈ table.rows, ∃ cell, row.cells[3]? = some cell ∧
        (Context.ofRow table row.cells).column ⟨some "P", "price"⟩ = .ok cell := by
  have shape : pricedOrders.map (fun table => (table.rows.length,
      table.resolve ⟨some "P", "price"⟩)) = .ok (4, .ok 3) := by decide +kernel
  obtain ⟨table, made, seen⟩ := (map_eq_ok_iff ..).mp shape
  obtain ⟨rows, resolved⟩ := Prod.mk.inj seen
  have built : table.Built := by
    obtain ⟨prices, loaded, joins⟩ := (bind_eq_ok_iff ..).mp made
    obtain ⟨priced, beside, joined⟩ := (bind_eq_ok_iff ..).mp joins
    exact .join (.join built_ofHeader (.grid loaded) beside) built_ofHeader joined
  obtain ⟨full, isNumbered, cells⟩ := cells_of_built built
  exact ⟨table, made, built, rows, resolved, full, isNumbered, cells _ _ resolved⟩

end GridQuery.Table
