import GridQuery.Buckets
import GridQuery.Expr.Eval
import GridQuery.Statement

/-!
Joins: the rows of two tables side by side where one column of each has the same value.
-/

namespace GridQuery

/-- A row with the key that it is joined by, which a blank cell does not give. -/
abbrev KeyedRow := Option MatchKey × List Cell

def rowIndex (rows : List KeyedRow) : Buckets MatchKey (List Cell) :=
  .ofList MatchKey.meets (rows.filterMap fun (key, cells) => key.map (·, cells))

def partners (index : Buckets MatchKey (List Cell)) : Option MatchKey → List (List Cell)
  | some key => index.get MatchKey.meets key
  | none => []

/-- Each row beside each of its partners. A row without partners is beside the row for
that case, if there is one. -/
def pairRows (beside : List Cell → List Cell → List Cell) (alone : Option (List Cell))
    (index : Buckets MatchKey (List Cell)) (rows : List KeyedRow) : List (List Cell) :=
  rows.flatMap fun (key, cells) =>
    match partners index key with
    | [] => (alone.map (beside cells)).toList
    | found => found.map (beside cells)

def blankCells (width : Nat) : List Cell :=
  List.replicate width .null

/-- The joined rows, in the order of the left rows, or of the right ones if these are all
kept. -/
def joinRows (kind : JoinKind) (leftWidth rightWidth : Nat)
    (leftRows rightRows : List KeyedRow) : List (List Cell) :=
  match kind with
  | .inner => pairRows (· ++ ·) none (rowIndex rightRows) leftRows
  | .left => pairRows (· ++ ·) (some (blankCells rightWidth)) (rowIndex rightRows) leftRows
  | .right =>
      pairRows (fun right left => left ++ right) (some (blankCells leftWidth))
        (rowIndex leftRows) rightRows

namespace Table

/-- The places of the joining columns, whichever way round the clause names them. -/
def joinPlaces (left right : Table) (clause : JoinClause) :
    Except ValidationError (Nat × Nat) :=
  let sides (ofLeft ofRight : ColumnRef) : Except ValidationError (Nat × Nat) := do
    let leftPlace ← left.resolve ofLeft
    return (leftPlace, ← right.resolve ofRight)
  match sides clause.left clause.right, sides clause.right clause.left with
  | .ok places, _ => .ok places
  | .error _, .ok places => .ok places
  | .error _, .error _ => .error (.joinSides clause.left.text clause.right.text)

def keyedRows (table : Table) (place : Nat) : Except DataFault (List KeyedRow) :=
  table.rows.mapM fun row => do
    return (← (row.cells.getD place .null).matchKey?, row.cells)

def join (left right : Table) (clause : JoinClause) : Except Error Table := do
  let (leftPlace, rightPlace) ← left.joinPlaces right clause
  let (leftRows, rightRows) ←
    match clause.kind with
    | .right => do
        let leftRows ← left.keyedRows leftPlace
        pure (leftRows, ← right.keyedRows rightPlace)
    | _ => do
        let rightRows ← right.keyedRows rightPlace
        pure (← left.keyedRows leftPlace, rightRows)
  let rows := joinRows clause.kind left.columns.length right.columns.length leftRows rightRows
  return {
    columns := left.columns ++ right.columns, rows := numbered rows, source := left.source
    aliasName := none, joined := true, header := [] }

end Table

end GridQuery
