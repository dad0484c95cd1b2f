import GridQuery.Grid
import GridQuery.Http
import GridQuery.Settings
import GridQuery.Sheets.Answer

/-!
A grid that is kept by two web services: one reads and writes ranges, the other answers
queries in the grid's own language. The numbers of sheets are looked up once and kept.
-/

namespace GridQuery.Sheets

structure Access where
  settings : Settings
  token : String

/-- The connection, and the numbers of the sheets looked up so far, by spreadsheet and
name. -/
structure Client (State : Type) where
  connection : State
  sheetIds : List ((String × String) × Datum)

def Client.start {State : Type} (connection : State) : Client State :=
  ⟨connection, []⟩

abbrev Exchange (State : Type) := ExceptT GridFailure (StateM (Client State))

variable {State : Type}

/-- The failure of a response that does not have the form of its kind. -/
def malformed : GridFailure := .broken "unexpected response" none

/-- A computation on a response, which can lack the form of its kind. -/
def ofResponse {α : Type} (result : Except DataFault α) : Exchange State α :=
  match result with
  | .ok value => return value
  | .error _ => throw malformed

/-- The failure that a response with the code of an error tells. -/
def refusal (action : String) (response : Http.Response) : GridFailure :=
  .refused ⟨action ++ " failed: " ++ Text.ofNat response.status ++ " " ++ response.reason ++
    "\n" ++ response.body, some response.status⟩

/-- The response to a request, unless it tells an error. -/
def send (transport : Http.Transport State) (action : String) (request : Http.Request) :
    Exchange State Http.Response := fun client =>
  let (reply, connection) := transport request client.connection
  let client := { client with connection }
  match reply with
  | .error reason => (.error (.refused ⟨action ++ " failed: " ++ reason, none⟩), client)
  | .ok response =>
      if response.isError then (.error (refusal action response), client)
      else (.ok response, client)

def sendForDatum (transport : Http.Transport State) (action : String)
    (request : Http.Request) : Exchange State Datum := do
  let response ← send transport action request
  match response.datum? with
  | some datum => return datum
  | none => throw malformed

namespace Access

def authorization (access : Access) : String := "Bearer " ++ access.token

def spreadsheetUrl (access : Access) (location : Location) : String :=
  access.settings.sheetsAddress ++ "/spreadsheets/" ++ location.spreadsheet

def valuesUrl (access : Access) (location : Location) : String :=
  access.spreadsheetUrl location ++ "/values/" ++ Http.encoded location.range

def get (access : Access) (url : String) (params : List (String × String)) : Http.Request :=
  ⟨.get, url, params, access.authorization, none⟩

def post (access : Access) (url : String) (params : List (String × String)) (body : Datum) :
    Http.Request :=
  ⟨.post, url, params, access.authorization, some body⟩

/-! ### Requests -/

def readRequest (access : Access) (location : Location) : Http.Request :=
  access.get (access.valuesUrl location)
    [("valueRenderOption", "UNFORMATTED_VALUE"),
      ("dateTimeRenderOption", "FORMATTED_STRING")]

def queryRequest (access : Access) (location : Location) (text : String) : Http.Request :=
  access.get (access.settings.queryAddress ++ "/" ++ location.spreadsheet ++ "/gviz/tq")
    [("range", location.range), ("tq", text), ("tqx", "out:json"),
      ("headers", Text.ofNat access.settings.headerRows)]

def metadataFields : String :=
  "sheets(data(rowData(values(formattedValue,userEnteredValue,effectiveFormat))))"

def metadataRequest (access : Access) (location : Location) : Http.Request :=
  access.get (access.spreadsheetUrl location)
    [("ranges", location.range), ("includeGridData", "true"), ("fields", metadataFields)]

def rowsDatum (rows : List (List Datum)) : Datum :=
  .list (rows.map .list)

def updateRequest (access : Access) (location : Location) (updates : List CellUpdate) :
    Http.Request :=
  access.post (access.spreadsheetUrl location ++ "/values:batchUpdate") []
    (.record
      [("valueInputOption", .text "USER_ENTERED"),
        ("data", .list (updates.map fun update =>
          .record [("range", .text update.range), ("values", rowsDatum update.values)]))])

def appendRequest (access : Access) (location : Location) (rows : List (List Datum)) :
    Http.Request :=
  access.post (access.valuesUrl location ++ ":append")
    [("valueInputOption", "USER_ENTERED")] (.record [("values", rowsDatum rows)])

def lookupRequest (access : Access) (location : Location) : Http.Request :=
  access.get (access.spreadsheetUrl location)
    [("fields", "sheets(properties(title,sheetId))")]

def deletion (sheetId : Datum) (number : Nat) : Datum :=
  .record [("deleteDimension", .record [("range", .record
    [("sheetId", sheetId), ("dimension", .text "ROWS"),
      ("startIndex", .int ((number : Int) - 1)), ("endIndex", .int number)])])]

/-- Row numbers from the greatest to the least, so that no removal shifts a later one. -/
def bottomUp (numbers : List Nat) : List Nat :=
  numbers.mergeSort fun left right => decide (right ≤ left)

def deleteRequest (access : Access) (location : Location) (sheetId : Datum)
    (numbers : List Nat) : Http.Request :=
  access.post (access.spreadsheetUrl location ++ ":batchUpdate") []
    (.record [("requests", .list ((bottomUp numbers).map (deletion sheetId)))])

end Access

/-! ### Responses -/

/-- The first item of a list, or an empty record if there is none. -/
def firstItem (datum : Datum) : Except DataFault Datum := do
  match ← datum.items with
  | first :: _ => return first
  | [] => throw .wrongShape

/-- What a response tells of the cells of its first range. -/
def rowMetadata (response : Datum) : Except DataFault Datum := do
  let nothing := Datum.list [.record []]
  let sheet ← firstItem (← response.fieldUnlessAbsent "sheets" nothing)
  let data ← firstItem (← sheet.fieldUnlessAbsent "data" nothing)
  data.fieldOr "rowData" (.list [])

/-- The time of a write; null if the response has none. -/
def updateTime (response : Datum) : Except DataFault Datum := do
  let time ← response.fieldOr "updateTime" .null
  if time.isAbsent then (← response.fieldOr "updates" (.record [])).fieldOr "updateTime" .null
  else return time

def isTitled (name : String) : Datum → Bool
  | .text title => title == name
  | _ => false

/-- The number of the first sheet of a name, or of the first of all if the name is
empty. -/
def findSheetId (name : String) : List Datum → Except DataFault (Option Datum)
  | [] => return none
  | sheet :: rest => do
      let properties ← sheet.fieldOr "properties" (.record [])
      if name.isEmpty || isTitled name (← properties.fieldOr "title" .null) then
        match properties.field? "sheetId" with
        | some sheetId => return some sheetId
        | none => throw .wrongShape
      else findSheetId name rest

/-! ### The grid -/

/-- The number of a location's sheet, which is looked up at the first need. -/
def sheetId (access : Access) (transport : Http.Transport State) (location : Location) :
    Exchange State Datum := do
  let key := (location.spreadsheet, location.sheet)
  match (← get).sheetIds.lookup key with
  | some found => return found
  | none =>
      let response ← sendForDatum transport "Sheet lookup" (access.lookupRequest location)
      let found ← ofResponse do
        findSheetId location.sheet (← (← response.fieldOr "sheets" (.list [])).items)
      match found with
      | some found =>
          modify fun client => { client with sheetIds := (key, found) :: client.sheetIds }
          return found
      | none =>
          throw (.refused ⟨"Sheet \"" ++ location.sheet ++ "\" not found", some 404⟩)

def reply (access : Access) (transport : Http.Transport State) :
    GridCall → Exchange State Datum
  | .readRange location => do
      let response ← sendForDatum transport ("Read of " ++ location.range)
        (access.readRequest location)
      ofResponse (response.fieldOr "values" (.list []))
  | .query location text => do
      let response ← send transport "SELECT query" (access.queryRequest location text)
      match ← ofResponse (answerTable response.body) with
      | .ok table => return table
      | .error cause => throw (.refused cause)
  | .readMetadata location => do
      let response ← sendForDatum transport "Metadata read" (access.metadataRequest location)
      ofResponse (rowMetadata response)
  | .updateCells location updates => do
      let response ← sendForDatum transport "UPDATE batch operation"
        (access.updateRequest location updates)
      ofResponse (updateTime response)
  | .appendRows location rows => do
      let response ← sendForDatum transport "INSERT" (access.appendRequest location rows)
      ofResponse (updateTime response)
  | .deleteRows location numbers => do
      let sheetId ← sheetId access transport location
      let response ← sendForDatum transport "DELETE batch operation"
        (access.deleteRequest location sheetId numbers)
      ofResponse (updateTime response)

def source (access : Access) (transport : Http.Transport State) :
    GridSource (Client State) := fun call =>
  (reply access transport call).run

end GridQuery.Sheets
