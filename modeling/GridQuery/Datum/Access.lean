import GridQuery.Datum
import GridQuery.Fault

/-!
Taking data apart where a record or a list is expected.
-/

namespace GridQuery.Datum

/-- A field of a record, or a datum in its place if it is missing. -/
def fieldOr (datum : Datum) (name : String) (missing : Datum) : Except DataFault Datum :=
  match datum with
  | record fields => .ok ((fields.lookup name).getD missing)
  | _ => .error .wrongShape

def items : Datum → Except DataFault (List Datum)
  | list items => .ok items
  | _ => .error .wrongShape

def textOr (missing : String) : Datum → String
  | text content => content
  | _ => missing

/-- What stands for something that is not there: null, false, zero, and what is empty. -/
def isAbsent : Datum → Bool
  | null => true
  | boolean flag => !flag
  | number value => value.isZero
  | text content => content.isEmpty
  | list items => items.isEmpty
  | record fields => fields.isEmpty
  | _ => false

/-- A field of a record, or another datum if it is missing or stands for nothing. -/
def fieldUnlessAbsent (datum : Datum) (name : String) (missing : Datum) :
    Except DataFault Datum := do
  let value ← datum.fieldOr name missing
  return if value.isAbsent then missing else value

end GridQuery.Datum
