import GridQuery.Grid

/-!
A grid that is held in memory: sheets of rows from row 1 and column A on, and prepared
answers to what is not computed from them.
-/

namespace GridQuery

/-- A failure of some calls: of all, or of those of one name. -/
structure PlannedFailure where
  failure : GridFailure
  callName : Option String

def GridCall.name : GridCall → String
  | readRange _ => "read_range"
  | query _ _ => "query"
  | readMetadata _ => "read_metadata"
  | updateCells _ _ => "update_cells"
  | appendRows _ _ => "append_rows"
  | deleteRows _ _ => "delete_rows"

abbrev SheetRows := List (List Datum)

structure MemoryGrid where
  sheets : List (String × SheetRows)
  /-- The tables that queries are answered with, one after another. -/
  answers : List Datum
  metadata : Datum
  updateTime : Datum
  failure : Option PlannedFailure

namespace SheetRows

/-- Rows without the last ones that have nothing but empty places. -/
def trimmed (rows : SheetRows) : SheetRows :=
  (rows.reverse.dropWhile fun row => row.all Datum.isEmptyPlace).reverse

def cut (location : Location) (row : List Datum) : List Datum :=
  match location.lastColumn with
  | some _ => (row.take (location.start + location.columnCount)).drop location.start
  | none => row.drop location.start

def upTo (location : Location) (rows : SheetRows) : SheetRows :=
  match location.lastRow with
  | some last => rows.take last
  | none => rows

/-- The rows of a location, each cut to its columns. -/
def window (location : Location) (rows : SheetRows) : SheetRows :=
  trimmed (((upTo location rows).drop (location.firstRow - 1)).map (cut location))

/-- A value set in a row, which is filled up with empty texts if it is too short. -/
def setInRow (place : Nat) (value : Datum) (row : List Datum) : List Datum :=
  (row ++ List.replicate (place + 1 - row.length) (Datum.text "")).set place value

/-- A value set in one cell of a sheet, places counted from zero. -/
def setCell (rowPlace columnPlace : Nat) (value : Datum) (rows : SheetRows) : SheetRows :=
  (rows ++ List.replicate (rowPlace + 1 - rows.length) []).modify rowPlace
    (setInRow columnPlace value)

/-- The rows without those of the given numbers, counted from one. They go one after
another, the highest first, so that the numbers of the others stay right. -/
def without (numbers : List Nat) (rows : SheetRows) : SheetRows :=
  (numbers.mergeSort fun left right => decide (right ≤ left)).foldl
    (fun left number => if number == 0 then left else left.eraseIdx (number - 1)) rows

end SheetRows

namespace MemoryGrid

/-- The place of the sheet that a location is on: the first if it names none. -/
def sheetPlace? (grid : MemoryGrid) (location : Location) : Option Nat :=
  if location.sheet.isEmpty then if grid.sheets.isEmpty then none else some 0
  else grid.sheets.findIdx? fun (name, _) => name == location.sheet

def applyUpdate (location : Location) (rows : SheetRows) (update : CellUpdate) : SheetRows :=
  match Location.ofRange location.spreadsheet update.range, update.values with
  | .ok cell, (value :: _) :: _ => SheetRows.setCell (cell.firstRow - 1) cell.start value rows
  | _, _ => rows

def written (call : GridCall) (rows : SheetRows) : SheetRows :=
  match call with
  | .updateCells location updates => updates.foldl (applyUpdate location) rows
  | .appendRows _ added => rows ++ added
  | .deleteRows _ numbers => SheetRows.without numbers rows
  | _ => rows

def noSheet (location : Location) : GridFailure :=
  .refused ⟨"Sheet \"" ++ location.sheet ++ "\" not found", some 404⟩

def reply (call : GridCall) (grid : MemoryGrid) : Except GridFailure Datum × MemoryGrid :=
  match call with
  | .query _ _ =>
      match grid.answers with
      | [] => (.error (.broken "no native table" none), grid)
      | answer :: rest => (.ok answer, { grid with answers := rest })
  | .readMetadata _ => (.ok grid.metadata, grid)
  | _ =>
      match grid.sheetPlace? call.location with
      | none => (.error (noSheet call.location), grid)
      | some place =>
          match call with
          | .readRange location =>
              let rows := ((grid.sheets[place]?).map (·.2)).getD []
              (.ok (.list ((SheetRows.window location rows).map Datum.list)), grid)
          | _ =>
              let sheets := grid.sheets.modify place fun (name, rows) =>
                (name, written call rows)
              (.ok grid.updateTime, { grid with sheets })

def source : GridSource MemoryGrid := fun call grid =>
  match grid.failure with
  | some planned =>
      if planned.callName.all (· == call.name) then (.error planned.failure, grid)
      else grid.reply call
  | none => grid.reply call

end MemoryGrid

end GridQuery
