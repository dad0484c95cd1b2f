import GridQuery.Proofs.Grid.Sheet
import GridQuery.Proofs.Location.CellReference

/-!
# Replies of a grid in memory

A read that succeeds shows the window of its sheet and changes nothing; a write that
succeeds changes the rows of its sheet alone. A cell that is written by its reference is
the cell of that row and column.
-/

namespace GridQuery

namespace MemoryGrid

variable {grid after : MemoryGrid} {datum : Datum}

theorem getElem?_of_sheetPlace? {location : Location} {place : Nat}
    (found : grid.sheetPlace? location = some place) :
    ∃ name rows, grid.sheets[place]? = some (name, rows) := by
  have bound : place < grid.sheets.length := by
    rw [sheetPlace?] at found
    split at found
    · split at found
      · cases found
      · next nonempty =>
          cases found
          exact List.length_pos_iff.mpr (by simpa using nonempty)
    · exact (List.findIdx?_eq_some_iff_findIdx_eq.mp found).1
  exact ⟨_, _, List.getElem?_eq_getElem bound⟩

theorem source_eq_ok {call : GridCall} (done : source call grid = (.ok datum, after)) :
    grid.reply call = (.ok datum, after) := by
  rw [source] at done
  split at done
  · split at done
    · cases done
    · exact done
  · exact done

theorem source_readRange_eq_ok {location : Location}
    (done : source (.readRange location) grid = (.ok datum, after)) :
    ∃ place name rows, grid.sheetPlace? location = some place ∧
      grid.sheets[place]? = some (name, rows) ∧
      datum = .list ((SheetRows.window location rows).map .list) ∧ after = grid := by
  have replied := source_eq_ok done
  simp only [reply, GridCall.location] at replied
  split at replied
  · cases replied
  · next place found =>
      obtain ⟨name, rows, sheet⟩ := getElem?_of_sheetPlace? found
      simp only [sheet, Option.map_some, Option.getD_some] at replied
      cases replied
      exact ⟨place, name, rows, found, sheet, rfl, rfl⟩

theorem modify_eq_set {Item : Type} {items : List Item} {place : Nat} {item : Item}
    (found : items[place]? = some item) (change : Item → Item) :
    items.modify place change = items.set place (change item) := by
  obtain ⟨bound, rfl⟩ := List.getElem?_eq_some_iff.mp found
  exact List.modify_eq_set_getElem? change place items |>.trans (by simp [bound])

theorem source_write_eq_ok {call : GridCall} (write : call.isWrite = true)
    (done : source call grid = (.ok datum, after)) :
    ∃ place name rows, grid.sheetPlace? call.location = some place ∧
      grid.sheets[place]? = some (name, rows) ∧
      after = { grid with sheets := grid.sheets.set place (name, written call rows) } := by
  have replied := source_eq_ok done
  cases call with
  | readRange location => cases write
  | query location text => cases write
  | readMetadata location => cases write
  | updateCells _ _ | appendRows _ _ | deleteRows _ _ =>
      simp only [reply] at replied
      split at replied
      · cases replied
      · next place found =>
          obtain ⟨name, rows, sheet⟩ := getElem?_of_sheetPlace? found
          rw [modify_eq_set sheet] at replied
          cases replied
          exact ⟨place, name, rows, found, sheet, rfl⟩

end MemoryGrid

namespace SheetRows

/-- A write as it is asked of a grid. -/
def CellWrite.update (location : Location) (write : CellWrite) : CellUpdate :=
  ⟨location.cell (columnLetters write.column) write.row, [[write.value]]⟩

/-- A write that is asked for by its reference reaches its cell. -/
theorem applyUpdate_update (location : Location) (rows : SheetRows) {write : CellWrite}
    (short : digitCount write.row ≤ Numeral.digitLimit) :
    MemoryGrid.applyUpdate location rows (write.update location) = write.apply rows := by
  have parsed := Location.ofRange_cell location location.spreadsheet
    (fun _ => isUpper_of_mem_columnLetters) (columnLetters_ne_nil write.column)
    short
  simp only [MemoryGrid.applyUpdate, CellWrite.update, parsed, CellWrite.apply,
    Location.start, columnIndex_columnLetters, Int.toNat_natCast]

theorem foldl_applyUpdate (location : Location) (rows : SheetRows) {writes : List CellWrite}
    (short : ∀ write ∈ writes, digitCount write.row ≤ Numeral.digitLimit) :
    (writes.map (CellWrite.update location)).foldl (MemoryGrid.applyUpdate location) rows =
      applyAll rows writes := by
  induction writes generalizing rows with
  | nil => rfl
  | cons write writes inductionHypothesis =>
      have first := applyUpdate_update location rows (short write List.mem_cons_self)
      have later := inductionHypothesis (write.apply rows) fun other membership =>
        short other (List.mem_cons_of_mem write membership)
      rw [List.map_cons, List.foldl_cons, first, later]
      rfl

end SheetRows

end GridQuery
