import GridQuery.Grid

/-!
The course of one statement over a grid: the calls made, in their order, and the ranges
read, each at most once.
-/

namespace GridQuery

structure Session (State : Type) where
  grid : State
  calls : List GridCall
  /-- The cells read so far, by spreadsheet and range. -/
  cells : List ((String × String) × Datum)

def Session.start {State : Type} (grid : State) : Session State :=
  ⟨grid, [], []⟩

/-- A step of a statement: it fails or has a result, and the session goes on. -/
abbrev Step (State : Type) := ExceptT Error (StateM (Session State))

namespace Step

variable {State : Type}

/-- A call of the grid. A failure is told as one of this call. -/
def ask (source : GridSource State) (call : GridCall) : Step State Datum :=
  fun session =>
    let (reply, grid) := source call session.grid
    let session := { session with grid, calls := session.calls ++ [call] }
    match reply with
    | .ok datum => (.ok datum, session)
    | .error failure => (.error (.remote (failure.toError call)), session)

/-- The cells of a range, which are read at the first need. -/
def readCells (source : GridSource State) (location : Location) : Step State Datum := do
  let key := (location.spreadsheet, location.range)
  match (← get).cells.lookup key with
  | some cells => return cells
  | none =>
      let cells ← ask source (.readRange location)
      modify fun session => { session with cells := (key, cells) :: session.cells }
      return cells

end Step

end GridQuery
