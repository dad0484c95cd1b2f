import GridQuery.Grid
import GridQuery.Settings
import GridQuery.Statement
import GridQuery.Table

/-!
What the targets of a statement are: virtual tables by name, and ranges of the spreadsheet
that it is run against.
-/

namespace GridQuery

/-- Virtual tables by their names: each a list of rows, the header first, as far as it is
well formed. -/
abbrev VirtualTables := List (String × Datum)

/-- Tables named without the colons in front; of two of one name the later counts. -/
def VirtualTables.ofNamed (tables : List (String × Datum)) : VirtualTables :=
  Datum.ofFields (tables.map fun (name, data) =>
    (String.ofList (name.toList.dropWhile (· == ':')), data))

structure Workspace where
  tables : VirtualTables
  /-- The range that a statement without a target means, and whose spreadsheet the ranges
  that it names are in. -/
  target : Option Location
  hasGrid : Bool
  settings : Settings

namespace Workspace

def virtualRows (workspace : Workspace) (name : String) :
    Except ValidationError (List Datum) :=
  match workspace.tables.lookup name with
  | none => .error (.unknownTable name)
  | some (.list (header :: rows)) => .ok (header :: rows)
  | some _ => .error (.malformedTable name)

def locate (workspace : Workspace) (target : Option TableRef) : Except Error Location :=
  match target, workspace.target with
  | none, none => .error (.invalid .noTarget)
  | none, some location => .ok location
  | some table, none => .error (.invalid (.noSpreadsheet table.name))
  | some table, some location => location.withRange table.name

def checkTarget (workspace : Workspace) (target : Option TableRef) : Except Error Unit := do
  match target with
  | some ⟨name, true, _⟩ =>
      match workspace.virtualRows name with
      | .ok _ => return
      | .error cause => throw (.invalid cause)
  | _ =>
      let _ ← workspace.locate target
      if !workspace.hasGrid then throw (.invalid .noGridSource)

end Workspace

def Statement.targets : Statement → List (Option TableRef)
  | .select query => query.source :: query.joins.map fun clause => some clause.table
  | .change mutation => [mutation.target]

/-- A change of rows says which: one without a condition is refused. -/
def Statement.checkCondition : Statement → Except ValidationError Unit
  | .change (.update ⟨_, _, none, _, _⟩) =>
      .error (.missingWhere "UPDATE" "update")
  | .change (.delete ⟨_, none, _, _⟩) =>
      .error (.missingWhere "DELETE" "delete")
  | _ => .ok ()

/-- Rows are inserted into a virtual table only if the settings let them. -/
def Statement.checkInsert (settings : Settings) : Statement → Except ValidationError Unit
  | .change (.insert ⟨some ⟨_, true, _⟩, _, _⟩) =>
      if settings.virtualInserts then .ok () else .error .insertIntoVirtual
  | _ => .ok ()

/-- All that can be said against a statement before any data is read. -/
def Workspace.check (workspace : Workspace) (references : List String)
    (statement : Statement) : Except Error Unit := do
  references.forM fun name => do
    if (workspace.tables.lookup name).isNone then throw (.invalid (.unknownTable name))
  match statement.checkCondition with
  | .error cause => throw (.invalid cause)
  | .ok _ =>
      statement.targets.forM workspace.checkTarget
      match statement.checkInsert workspace.settings with
      | .error cause => throw (.invalid cause)
      | .ok _ => return

end GridQuery
