import GridQuery.Expr.Eval
import GridQuery.Statement

/-!
The columns of a SELECT list, and the ids and labels that they have by default.
-/

namespace GridQuery

/-- What an expression's text is for: the id of a column or its label. -/
inductive Naming where
  | id
  | label
  deriving DecidableEq, Repr

/-- Whether an expression stands in parentheses as an operand. -/
def Expr.isInfix : Expr → Bool
  | .arithmetic _ _ _ => true
  | .condition _ _ _ => true
  | .compound _ _ _ => true
  | _ => false

def parenthesized (needed : Bool) (text : String) : String :=
  if needed then "(" ++ text ++ ")" else text

/-- The id of a column in a result: after the name of its table if tables are joined. -/
def Table.outputId (table : Table) (column : Column) : String :=
  if table.joined then column.qualifiedId else column.id

def Table.outputLabel (table : Table) (column : Column) : String :=
  if column.label.isEmpty then table.outputId column
  else
    match table.joined, column.aliasName with
    | true, some owner => if owner.isEmpty then column.label else owner ++ "." ++ column.label
    | _, _ => column.label

namespace Naming

def columnText (naming : Naming) (table : Table) (reference : ColumnRef) :
    Except ValidationError String := do
  match table.columns[← table.resolve reference]? with
  | some column =>
      match naming with
      | id => return table.outputId column
      | label => return table.outputLabel column
  | none => return ""

/-- The text of an expression in terms of the columns of a table. -/
def text (naming : Naming) (table : Table) : Expr → Except Error String
  | .column reference => naming.columnText table reference
  | .literal cell => do return (← cell.asText?).getD "null"
  | .countRows => return if naming == label then "count(*)" else "count"
  | .aggregate function argument => do
      let inner ← naming.text table argument
      return function.name ++ (if naming == label then " " else "-") ++ inner
  | .changeCase letterCase argument => do
      let inner ← naming.text table argument
      return letterCase.name ++ "(" ++ inner ++ ")"
  | .today => return "today()"
  | .arithmetic operator left right => do
      let leftText ← naming.text table left
      let rightText ← naming.text table right
      return parenthesized left.isInfix leftText ++ " " ++ operator.sign ++ " " ++
        parenthesized right.isInfix rightText
  | .negate operand => do
      let inner ← naming.text table operand
      return "-" ++ parenthesized operand.isInfix inner
  | .condition relation left right => do
      let leftText ← naming.text table left
      let rightText ← naming.text table right
      return leftText ++ " " ++ relation.text ++ " " ++ rightText
  | .nullCheck operand negated => do
      let inner ← naming.text table operand
      return inner ++ (if negated then " is not null" else " is null")
  | .compound connective left right => do
      let leftText ← naming.text table left
      let rightText ← naming.text table right
      return parenthesized left.isInfix leftText ++ " " ++ connective.text ++ " " ++
        parenthesized right.isInfix rightText
  | .not operand => do
      let inner ← naming.text table operand
      return "not " ++ parenthesized operand.isInfix inner

end Naming

structure OutputColumn where
  expr : Expr
  id : String
  label : String
  /-- The name that the statement gives the column; never an empty one. -/
  name : Option String
  /-- The column of the table that is shown as it is. -/
  place : Option Nat

namespace OutputColumn

/-- A column of the table, as an item for all columns shows it. -/
def ofPlace (table : Table) (column : Column) (place : Nat) :
    Except Error OutputColumn := do
  let reference : ColumnRef := ⟨if table.joined then column.aliasName else none, column.id⟩
  return {
    expr := .column reference, id := ← Naming.id.columnText table reference,
    label := ← Naming.label.columnText table reference, name := none, place := some place }

def ofExpr (table : Table) (expr : Expr) (aliasName : Option String) :
    Except Error OutputColumn := do
  let id ← Naming.id.text table expr
  let name := aliasName.filter (!·.isEmpty)
  let label ←
    match name with
    | some given => pure given
    | none => Naming.label.text table expr
  return ⟨expr, id, label, name, none⟩

def ofItem (table : Table) : SelectItem → Except Error (List OutputColumn)
  | .expr expr aliasName => do return [← ofExpr table expr aliasName]
  | .star qualifier => do
      let picked :=
        match qualifier with
        | none => table.places
        | some owner => table.places.filter fun (column, _) => column.belongsTo owner
      if picked.isEmpty then throw (.invalid (.unknownAlias (qualifier.getD "None")))
      picked.mapM fun (column, place) => ofPlace table column place

def ofItems (table : Table) (items : List SelectItem) : Except Error (List OutputColumn) := do
  return (← items.mapM (ofItem table)).flatten

def named (columns : List OutputColumn) (cells : List Cell) : List (String × Cell) :=
  (columns.zip cells).filterMap fun (column, cell) => column.name.map (·, cell)

def isShown (table : Table) (expr : Expr) (column : OutputColumn) :
    Except ValidationError Bool := do
  if column.expr.sameAs expr then return true
  match expr, column.expr with
  | .column wanted, .column reference => do
      let place ← table.resolve wanted
      return place == (← table.resolve reference)
  | _, _ => return false

def placeOf (table : Table) (expr : Expr) :
    List OutputColumn → Except ValidationError (Option Nat)
  | [] => return none
  | column :: rest => do
      if ← column.isShown table expr then return some 0
      return (← placeOf table expr rest).map (· + 1)

/-- The place of the column that an entry of LABEL or FORMAT means: by its name, or by its
expression. -/
def find (table : Table) (clause : String) (columns : List OutputColumn) (expr : Expr) :
    Except ValidationError Nat := do
  let byName :=
    match expr with
    | .column ⟨none, name⟩ =>
        columns.findIdx? fun (column : OutputColumn) => column.name == some name
    | _ => none
  match byName with
  | some place => return place
  | none =>
      match ← placeOf table expr columns with
      | some place => return place
      | none =>
          let shown :=
            match expr with
            | .column reference => reference.text
            | _ => "<expression>"
          throw (.unselectedColumn clause shown)

end OutputColumn

end GridQuery
