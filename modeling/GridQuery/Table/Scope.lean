import GridQuery.Expr
import GridQuery.Table

/-!
Finding the column of a table that a reference means.
-/

namespace GridQuery

/-- Whether a column comes from the table of a name, in any case. A column without a name
of its table, or with an empty one, comes from none. -/
def Column.belongsTo (qualifier : String) (column : Column) : Bool :=
  match column.aliasName with
  | some name => !name.isEmpty && Text.lower name == Text.lower qualifier
  | none => false

namespace Table

def places (table : Table) : List (Column × Nat) :=
  table.columns.zipIdx

def candidates (table : Table) (reference : ColumnRef) :
    Except ValidationError (List (Column × Nat)) :=
  match reference.qualifier with
  | none => .ok table.places
  | some qualifier =>
      match table.places.filter fun (column, _) => column.belongsTo qualifier with
      | [] => .error (.unknownAlias qualifier)
      | found => .ok found

/-- What passes the first test that anything passes. -/
def firstHits (tests : List (Column → Bool)) (columns : List (Column × Nat)) :
    List (Column × Nat) :=
  match tests with
  | [] => []
  | test :: rest =>
      match columns.filter fun (column, _) => test column with
      | [] => firstHits rest columns
      | found => found

/-- The ways to write a name that several tables have. -/
def choices (name : String) (aliases : List (Option String)) : List String :=
  let qualified := aliases.filterMap fun
    | some owner => if owner.isEmpty then none else some (owner ++ "." ++ name)
    | none => none
  qualified.mergeSort fun left right => decide (left ≤ right)

/-- The place of the column that a reference means. A name that columns of different
tables have means none of them. -/
def resolve (table : Table) (reference : ColumnRef) : Except ValidationError Nat := do
  let columns ← table.candidates reference
  match firstHits (nameTests reference.name) columns with
  | [] =>
      throw (match reference.qualifier with
        | some _ => .unknownColumn reference.text
        | none => .unknownColumnOf reference.name table.describe)
  | (first, place) :: rest =>
      if rest.all fun (column, _) => column.aliasName == first.aliasName then return place
      else
        let aliases := ((first, place) :: rest).map fun (column, _) => column.aliasName
        throw (.ambiguousColumn reference.name (choices reference.name aliases.eraseDups))

def check (table : Table) (expr : Expr) : Except ValidationError Unit :=
  expr.columns.forM fun reference => do
    let _ ← table.resolve reference

end Table

end GridQuery
