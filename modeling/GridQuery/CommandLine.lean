import GridQuery.CommandLine.Arguments
import GridQuery.CommandLine.Environment
import GridQuery.Datum.Json.Reader
import GridQuery.Datum.Json.Writer
import GridQuery.Engine

/-!
The command line: the result of a statement over the virtual tables of a file, and what is
printed of it.
-/

namespace GridQuery.CommandLine

/-! ### Running -/

abbrev Files := List (String × String)

/-- A path without what does not matter in it: doubled slashes, and points that stand for
the directory they are in. -/
def plainPath (path : String) : String :=
  let characters := path.toList
  let slashes := (characters.takeWhile (· == '/')).length
  let root := if slashes == 0 then "" else if slashes == 2 then "//" else "/"
  let parts := (path.splitOn "/").filter fun part => !part.isEmpty && part != "."
  let shown := root ++ Text.joined "/" parts
  if shown.isEmpty then "." else shown

/-- A text with every line ended by one line feed. -/
def plainLines : List Char → List Char
  | [] => []
  | '\r' :: '\n' :: rest => '\n' :: plainLines rest
  | '\r' :: rest => '\n' :: plainLines rest
  | character :: rest => character :: plainLines rest

def readFile? (files : Files) (path : String) : Option String :=
  ((files.find? fun (name, _) => plainPath name == plainPath path).map (·.2)).map
    fun content => String.ofList (plainLines content.toList)

def loadTables (files : Files) (path : String) : Except Error (List (String × Datum)) :=
  match (readFile? files path).bind Datum.ofJson? with
  | none => .error (.tables (.unreadable (plainPath path)))
  | some (.record tables) => .ok tables
  | some _ => .error (.tables (.notRecord (plainPath path)))

/-- What a command line ends in. -/
inductive Outcome where
  | stopped (cause : Stop)
  /-- The file with the statement is not there. -/
  | noFile (path : String)
  | failed (error : Error)
  | done (result : StatementResult)

/-- A grid that is never asked. -/
def noGrid : GridSource Unit := fun _ => return .error (.broken "no grid" none)

def runStatement (options : Options) (statement : String) (files : Files)
    (environment : List (String × String)) (now : Moment) : Except Error StatementResult := do
  let tables ←
    match options.tables with
    | some path => loadTables files path
    | none => pure []
  let target ←
    match options.spreadsheet with
    | some spreadsheet =>
        if spreadsheet.isEmpty then pure none
        else (Location.parse spreadsheet options.range).map some
    | none => pure none
  let workspace : Workspace := ⟨.ofNamed tables, target, false, settingsOf environment⟩
  let engine : Engine Unit := ⟨noGrid, workspace, now⟩
  ((engine.execute statement options.metadata).run.run (Session.start ())).1

def run (arguments : List String) (files : Files) (environment : List (String × String))
    (now : Moment) : Outcome :=
  match parse arguments with
  | .error cause => .stopped cause
  | .ok options =>
      let statement? :=
        match options.command, options.file with
        | some statement, _ => some statement
        | none, some path => readFile? files path
        | none, none => none
      match statement? with
      | none => .noFile (plainPath (options.file.getD ""))
      | some statement =>
          match runStatement options statement files environment now with
          | .ok result => .done result
          | .error error => .failed error

/-! ### Output -/

def jsonStyle : Datum.JsonStyle := ⟨true, some 2⟩

namespace Outcome

def exitCode : Outcome → Nat
  | stopped .helped => 0
  | stopped .misused => 2
  | noFile _ => 1
  | failed _ => 1
  | done _ => 0

def usage : String :=
  "usage: gridquery (-c STATEMENT | -f FILE) [-t TABLES] [--spreadsheet ID] " ++
    "[--range RANGE] [--token TOKEN] [--metadata] [-v]\n"

def output : Outcome → String
  | stopped .helped => usage
  | done result => result.toDatum.toJson jsonStyle ++ "\n"
  | _ => ""

def complaint : Outcome → String
  | stopped .misused => usage
  | noFile path => "Error: File not found: " ++ path ++ "\n"
  | failed error => "Error: " ++ error.message?.getD "a value is of no use where it stands" ++ "\n"
  | _ => ""

end Outcome

end GridQuery.CommandLine
