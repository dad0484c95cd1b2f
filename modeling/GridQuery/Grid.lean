import GridQuery.Datum
import GridQuery.Error
import GridQuery.Location

/-!
Grids: what can be asked of one, and how it fails.
-/

namespace GridQuery

structure CellUpdate where
  range : String
  values : List (List Datum)

/-- What is asked of a grid. The rows of a sheet are numbered from one. -/
inductive GridCall where
  | readRange (location : Location)
  | query (location : Location) (text : String)
  | readMetadata (location : Location)
  | updateCells (location : Location) (updates : List CellUpdate)
  | appendRows (location : Location) (rows : List (List Datum))
  | deleteRows (location : Location) (numbers : List Nat)

namespace GridCall

def isWrite : GridCall → Bool
  | readRange _ => false
  | query _ _ => false
  | readMetadata _ => false
  | updateCells _ _ => true
  | appendRows _ _ => true
  | deleteRows _ _ => true

def location : GridCall → Location
  | readRange location => location
  | query location _ => location
  | readMetadata location => location
  | updateCells location _ => location
  | appendRows location _ => location
  | deleteRows location _ => location

/-- What a failure of the call is told as a failure of. -/
def action : GridCall → String
  | readRange location => "Read of " ++ location.range
  | query _ _ => "SELECT query"
  | readMetadata _ => "Metadata read"
  | updateCells _ _ => "UPDATE"
  | appendRows _ _ => "INSERT"
  | deleteRows _ _ => "DELETE"

end GridCall

/-- How a grid fails: it says why itself, or it breaks down for a reason of its own. -/
inductive GridFailure where
  | refused (error : RemoteError)
  | broken (reason : String) (status : Option Int)
  deriving DecidableEq, Repr

/-- The error that a failure of a call is told as. -/
def GridFailure.toError (call : GridCall) : GridFailure → RemoteError
  | refused error => error
  | broken reason status => ⟨call.action ++ " failed: " ++ reason, status⟩

/-- A grid in some state: each call has a reply and leaves a state behind. A read replies
with its rows, a query with a table, and a write with its time. -/
abbrev GridSource (State : Type) := GridCall → StateM State (Except GridFailure Datum)

end GridQuery
