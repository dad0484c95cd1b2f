import GridQuery.Engine.Session
import GridQuery.Engine.Targets
import GridQuery.Mutation
import GridQuery.Native.Answer
import GridQuery.Native.Query
import GridQuery.Statement.Reader
import GridQuery.Table.Join

/-!
Running statements. A statement is read and checked before anything is asked of the grid;
then a SELECT is answered by the grid itself or evaluated over the tables it names, and a
change is planned over its table and carried out with one write at most.
-/

namespace GridQuery

/-- What statements are run with: the grid, and the time. -/
structure Engine (State : Type) where
  source : GridSource State
  workspace : Workspace
  now : Moment

namespace Engine

variable {State : Type}

def evaluator (engine : Engine State) : Evaluator :=
  ⟨engine.workspace.settings.caseSensitive, engine.now⟩

/-! ### Tables -/

def readTable (engine : Engine State) (location : Location) (aliasName : Option String) :
    Step State Table := do
  match ← Step.readCells engine.source location with
  | .list rows => Table.ofGrid location rows engine.workspace.settings.headerRows aliasName
  | _ => throw (.data .wrongShape)

def loadTable (engine : Engine State) (target : Option TableRef) : Step State Table := do
  match target with
  | some ⟨name, true, aliasName⟩ =>
      match engine.workspace.virtualRows name with
      | .ok rows => Table.ofVirtual name rows aliasName
      | .error cause => throw (.invalid cause)
  | _ =>
      let location ← engine.workspace.locate target
      engine.readTable location (target.bind (·.aliasName))

def joinAll (engine : Engine State) : Table → List JoinClause → Step State Table
  | table, [] => return table
  | table, clause :: rest => do
      let other ← engine.loadTable (some clause.table)
      engine.joinAll (← table.join other clause) rest

/-! ### SELECT -/

/-- The range of a query that a grid could answer alone: neither joined nor virtual. -/
def soleRange (engine : Engine State) (query : SelectQuery) : Except Error (Option Location) :=
  if query.joins.isEmpty && !query.source.any (·.isVirtual) then
    (engine.workspace.locate query.source).map some
  else .ok none

/-- The query in the grid's own language, if it is to be asked in it. -/
def nativeText? (engine : Engine State) (query : SelectQuery) (location : Option Location) :
    Option NativeText :=
  if engine.workspace.settings.nativeQueries then
    location.bind fun location =>
      Native.queryText? query location engine.workspace.settings.caseSensitive
  else none

def evaluate (engine : Engine State) (query : SelectQuery) : Step State SelectResult := do
  let first ← engine.loadTable query.source
  let table ← engine.joinAll first query.joins
  engine.evaluator.select query table

/-- The result of a query, from the grid itself or from its tables. -/
def answer (engine : Engine State) (query : SelectQuery) (location : Option Location) :
    Step State SelectResult :=
  match location, engine.nativeText? query location with
  | some location, some text => do
      let answer ← Step.ask engine.source (.query location text.text)
      (Native.resultOf answer query : Except DataFault SelectResult)
  | _, _ => engine.evaluate query

/-- A result with what the grid tells of the cells of its range. -/
def addMetadata (engine : Engine State) (location : Option Location) (result : SelectResult) :
    Step State SelectResult :=
  match location with
  | some location => do
      let metadata ← Step.ask engine.source (.readMetadata location)
      return { result with metadata }
  | none => return result

def select (engine : Engine State) (query : SelectQuery) (withMetadata : Bool) :
    Step State SelectResult := do
  let location ← engine.soleRange query
  let result ← engine.answer query location
  if withMetadata then engine.addMetadata location result else return result

/-! ### Changes -/

/-- The rows of a virtual table as lists, and the table that they make. -/
def virtualTable (engine : Engine State) (name : String) (aliasName : Option String) :
    Except Error (Table × List (List Datum)) := do
  match engine.workspace.virtualRows name with
  | .error cause => throw (.invalid cause)
  | .ok rows =>
      let data ← (rows.mapM Datum.rowItems : Except DataFault _)
      return (← Table.ofVirtual name (data.map .list) aliasName, data)

def changeVirtual (engine : Engine State) (mutation : Mutation) (name : String)
    (aliasName : Option String) : Except Error MutationResult := do
  let (table, data) ← engine.virtualTable name aliasName
  match mutation with
  | .insert query => insertVirtual engine.evaluator query table data
  | .update query => updateVirtual engine.evaluator query table data
  | .delete query => deleteVirtual engine.evaluator query table data

/-- What a change asks of the grid, planned over the range's table. An INSERT without named
columns needs no table. -/
def planGrid (engine : Engine State) (mutation : Mutation) (location : Location)
    (aliasName : Option String) : Step State GridPlan := do
  let headerRows := engine.workspace.settings.headerRows
  match mutation with
  | .insert query =>
      if query.columns.isSome then
        let table ← engine.readTable location none
        insertGrid engine.evaluator query (some table) location
      else insertGrid engine.evaluator query none location
  | .update query =>
      let table ← engine.readTable location aliasName
      updateGrid engine.evaluator query table location headerRows
  | .delete query =>
      let table ← engine.readTable location aliasName
      deleteGrid engine.evaluator query table location headerRows

def carryOut (engine : Engine State) (plan : GridPlan) : Step State MutationResult :=
  match plan.call with
  | none => return plan.result .null
  | some call => do
      let updateTime ← Step.ask engine.source call
      return plan.result updateTime

def changeGrid (engine : Engine State) (mutation : Mutation) : Step State MutationResult := do
  let location ← engine.workspace.locate mutation.target
  let plan ← engine.planGrid mutation location (mutation.target.bind (·.aliasName))
  engine.carryOut plan

def change (engine : Engine State) (mutation : Mutation) : Step State MutationResult :=
  match mutation.target with
  | some ⟨name, true, aliasName⟩ => engine.changeVirtual mutation name aliasName
  | _ => engine.changeGrid mutation

/-! ### Statements -/

/-- The course of a statement that has been read and checked. -/
def run (engine : Engine State) (statement : Statement) (withMetadata : Bool) :
    Step State StatementResult :=
  match statement with
  | .select query => return .selected (← engine.select query withMetadata)
  | .change mutation => return .changed (← engine.change mutation)

/-- The statement of a text, if nothing is to be said against it. -/
def prepare (engine : Engine State) (text : String) : Except Error Statement := do
  let statement ← Statement.read text
  match Statement.tableReferences text.toList with
  | .error cause => throw (.statement cause)
  | .ok references =>
      engine.workspace.check references statement
      return statement

def execute (engine : Engine State) (text : String) (withMetadata : Bool) :
    Step State StatementResult := do
  let statement ← engine.prepare text
  engine.run statement withMetadata

end Engine

end GridQuery
