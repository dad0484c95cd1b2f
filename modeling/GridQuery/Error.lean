import GridQuery.Fault
import GridQuery.Text.Basic

/-!
Why a statement is not carried out, and the words in which each cause is told.
-/

namespace GridQuery

/-- What makes a grammatical phrase unacceptable. -/
inductive Rejection where
  | unknownFunction (name : String)
  | starArgument (function : String)
  | argumentCount (function : String) (expected : Nat)
  | badDate (content : String)
  | joinCondition
  | pivotTwice
  | targetTwice (verb : String)
  deriving DecidableEq, Repr

def Rejection.message : Rejection → String
  | unknownFunction name => "Unknown function '" ++ name ++ "'"
  | starArgument function => function ++ "(*) is not supported; only COUNT(*)"
  | argumentCount function expected =>
      function ++ "() takes " ++ Text.ofNat expected ++ " argument(s)"
  | badDate content => "Invalid date literal \"" ++ content ++ "\" (expected YYYY-MM-DD)"
  | joinCondition => "JOIN ... ON requires an equality between two columns"
  | pivotTwice => "PIVOT specified twice"
  | targetTwice verb => verb ++ " target specified twice"

/-- Why a text is no statement. A clause is the one in which the fault stands, if the text
has opened one. -/
inductive StatementError where
  | empty
  | unknownVerb (shown : String)
  | unterminatedLiteral (start : Nat)
  | illegalCharacter (character : Char) (position : Nat)
  | unexpectedToken (shown : String) (position : Nat) (clause : Option String)
  | unexpectedEnd (clause : Option String)
  | rejected (cause : Rejection) (position : Nat) (clause : Option String)
  | unreadable
  deriving DecidableEq, Repr

namespace StatementError

/-- The beginning of a message about a fault in a clause. -/
def opening (clause : Option String) : String :=
  "Syntax error" ++
    match clause with
    | some name => " in " ++ name ++ " clause"
    | none => ""

def positionNote (position : Nat) : String :=
  " (position " ++ Text.ofNat position ++ ")"

def message : StatementError → String
  | empty => "Invalid statement: statement is empty"
  | unknownVerb shown =>
      "Invalid statement: unknown verb '" ++ shown ++
        "' (expected SELECT, INSERT, UPDATE or DELETE)"
  | unterminatedLiteral start =>
      "Unterminated string literal starting at position " ++ Text.ofNat start
  | illegalCharacter character position =>
      "Illegal character '" ++ String.singleton character ++ "' at position " ++
        Text.ofNat position
  | unexpectedToken shown position clause =>
      opening clause ++ " near '" ++ shown ++ "'" ++ positionNote position
  | unexpectedEnd clause => opening clause ++ ": unexpected end of statement"
  | rejected cause position clause =>
      opening clause ++ ": " ++ cause.message ++ positionNote position
  | unreadable => "Syntax error: statement could not be parsed"

end StatementError

/-- Why a statement cannot be carried out as written. -/
inductive ValidationError where
  | ambiguousColumn (name : String) (choices : List String)
  | unknownAlias (qualifier : String)
  | unknownColumn (reference : String)
  | unknownColumnOf (name : String) (table : String)
  | aggregateHere (function : String)
  | columnInValues (reference : String)
  | aggregateInValues (function : String)
  | badPattern (pattern : String)
  | joinSides (left right : String)
  | ungroupedColumn (reference : String)
  | havingAlone
  | aggregateInWhere
  | unselectedColumn (clause shown : String)
  | tooManyValues (values columns : Nat)
  | valueCount (columns values : Nat)
  | insertIntoVirtual
  | unknownTable (name : String)
  | malformedTable (name : String)
  | emptyTable (name : String)
  | noGridSource
  | noTarget
  | noSpreadsheet (range : String)
  | missingSpreadsheet
  | badSpreadsheet (value : String)
  | missingRange
  | badRange (range : String)
  | reversedColumns (range : String)
  | missingWhere (verb action : String)
  deriving DecidableEq, Repr

def ValidationError.message : ValidationError → String
  | ambiguousColumn name choices =>
      "Column '" ++ name ++ "' is ambiguous; qualify it as one of: " ++
        Text.joined ", " choices
  | unknownAlias qualifier => "Table alias '" ++ qualifier ++ "' not found"
  | unknownColumn reference => "Column '" ++ reference ++ "' not found"
  | unknownColumnOf name table => "Column '" ++ name ++ "' not found in " ++ table
  | aggregateHere function => "Aggregate " ++ function ++ "() is not allowed here"
  | columnInValues reference =>
      "Column reference '" ++ reference ++ "' is not allowed in VALUES"
  | aggregateInValues function =>
      "Aggregate " ++ function ++ "() is not allowed in VALUES"
  | badPattern pattern => "Invalid regular expression '" ++ pattern ++ "'"
  | joinSides left right =>
      "JOIN condition " ++ left ++ " = " ++ right ++
        " must reference one column from each side"
  | ungroupedColumn reference =>
      "Column '" ++ reference ++
        "' must appear in GROUP BY or be used in an aggregate function"
  | havingAlone => "HAVING requires GROUP BY or an aggregate function"
  | aggregateInWhere => "Aggregate functions are not allowed in WHERE"
  | unselectedColumn clause shown =>
      clause ++ " column '" ++ shown ++ "' not found in SELECT"
  | tooManyValues values columns =>
      "INSERT has " ++ Text.ofNat values ++ " values but the table has " ++
        Text.ofNat columns ++ " columns"
  | valueCount columns values =>
      "INSERT names " ++ Text.ofNat columns ++ " columns but supplies " ++
        Text.ofNat values ++ " values"
  | insertIntoVirtual => "INSERT is not supported for virtual tables"
  | unknownTable name => "Virtual table ':" ++ name ++ "' not found"
  | malformedTable name =>
      "Invalid virtual table ':" ++ name ++
        "': expected a header row followed by data rows"
  | emptyTable name => "Virtual table ':" ++ name ++ "' is empty: a header row is required"
  | noGridSource => "Invalid target: no grid source is available to read ranges"
  | noTarget => "Invalid target: no range given and the statement names no table"
  | noSpreadsheet range =>
      "Invalid target: a spreadsheet ID or URL is required to read '" ++ range ++ "'"
  | missingSpreadsheet => "Invalid target: a spreadsheet ID or URL is required"
  | badSpreadsheet value =>
      "Invalid spreadsheetId '" ++ value ++ "': expected a spreadsheet ID or URL"
  | missingRange => "Invalid range: a range in A1 notation is required"
  | badRange range =>
      "Invalid range '" ++ range ++
        "': expected A1 notation such as \"Sheet1!A1:Z1000\" or \"A:F\""
  | reversedColumns range => "Invalid range '" ++ range ++ "': columns are reversed"
  | missingWhere verb action =>
      verb ++ " requires a WHERE clause (use WHERE true to " ++ action ++ " all rows)"

/-- A read or a write that the grid refused, with the status it gave, if any. -/
structure RemoteError where
  message : String
  status : Option Int
  deriving DecidableEq, Repr

/-- Why a file of virtual tables cannot be used. -/
inductive TablesError where
  | unreadable (path : String)
  | notRecord (path : String)
  deriving DecidableEq, Repr

def TablesError.message : TablesError → String
  | unreadable path => "Cannot read virtual tables from " ++ path
  | notRecord path => "Virtual tables file " ++ path ++ " must contain a JSON object"

inductive Error where
  | statement (cause : StatementError)
  | invalid (cause : ValidationError)
  | remote (cause : RemoteError)
  | tables (cause : TablesError)
  | data (cause : DataFault)
  deriving DecidableEq, Repr

/-- The text of an error; a fault of data has none. -/
def Error.message? : Error → Option String
  | statement cause => some cause.message
  | invalid cause => some cause.message
  | remote cause => some cause.message
  | tables cause => some cause.message
  | data _ => none

/-- A computation on data stops a statement with its fault. -/
instance : MonadLift (Except DataFault) (Except Error) where
  monadLift
    | .ok value => .ok value
    | .error fault => .error (.data fault)

end GridQuery
