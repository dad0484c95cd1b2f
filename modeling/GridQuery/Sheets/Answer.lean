import GridQuery.Datum.Access
import GridQuery.Datum.Json.Reader
import GridQuery.Error

/-!
Answers of the query service. The text of an answer is a call of a function whose one
argument is a JSON text.
-/

namespace GridQuery.Sheets

/-- The beginning of the call that an answer is. -/
def callOpening : String := "google.visualization.Query.setResponse("

def afterSlice? (slice : List Char) : List Char → Option (List Char)
  | [] => if slice.isEmpty then some [] else none
  | character :: rest =>
      if slice.isPrefixOf (character :: rest) then
        some ((character :: rest).drop slice.length)
      else afterSlice? slice rest

/-- Characters without the closing parenthesis at their end, after which a semicolon may
come. -/
def beforeClosing? (characters : List Char) : Option (List Char) :=
  match characters.reverse with
  | ')' :: rest => some rest.reverse
  | ';' :: ')' :: rest => some rest.reverse
  | _ => none

/-- The argument of the call that a text is. -/
def callArgument? (text : String) : Option String := do
  let rest ← afterSlice? callOpening.toList (Text.trimList text.toList)
  let argument ← beforeClosing? rest
  return String.ofList argument

def noAnswer : RemoteError :=
  ⟨"Invalid response format from the visualization query endpoint", none⟩

def errorDetail (error : Datum) : Except DataFault String := do
  match ← error.fieldUnlessAbsent "detailed_message" (← error.fieldOr "message" (.text "")) with
  | .text content => return content
  | _ => throw .wrongShape

def emptyAnswer : Datum :=
  .record [("cols", .list []), ("rows", .list [])]

def isErrorStatus : Datum → Bool
  | .text content => content == "error"
  | _ => false

/-- The table of an answer, or the error that it tells. -/
def answerTable (text : String) : Except DataFault (Except RemoteError Datum) := do
  match (callArgument? text).bind Datum.ofJson? with
  | none => return .error noAnswer
  | some answer =>
      if isErrorStatus (← answer.fieldOr "status" .null) then
        let errors ← (← answer.fieldOr "errors" (.list [])).items
        let details ← errors.mapM errorDetail
        return .error ⟨"Query error: " ++ Text.joined ", " details, none⟩
      else return .ok (← answer.fieldOr "table" emptyAnswer)

end GridQuery.Sheets
