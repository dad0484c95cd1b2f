import GridQuery.Expr

/-!
Statements: queries over tables and changes to them.
-/

namespace GridQuery

/-- A table that a statement names: a virtual table or a range of a grid. -/
structure TableRef where
  name : String
  isVirtual : Bool
  aliasName : Option String
  deriving DecidableEq, Repr

inductive JoinKind where
  | inner
  | left
  | right
  deriving DecidableEq, Repr

/-- A table joined on the equality of two columns. -/
structure JoinClause where
  kind : JoinKind
  table : TableRef
  left : ColumnRef
  right : ColumnRef
  deriving DecidableEq, Repr

/-- An item of a SELECT list: an expression, or all columns of a table or of every
table. -/
inductive SelectItem where
  | star (qualifier : Option String)
  | expr (expr : Expr) (aliasName : Option String)
  deriving DecidableEq

structure OrderKey where
  expr : Expr
  descending : Bool
  deriving DecidableEq

structure Assignment where
  column : ColumnRef
  value : Expr
  deriving DecidableEq

structure SelectQuery where
  items : List SelectItem
  source : Option TableRef
  joins : List JoinClause
  filter : Option Expr
  groupBy : List Expr
  having : Option Expr
  orderBy : List OrderKey
  limit : Option Nat
  offset : Nat
  distinct : Bool
  distinctOn : List Expr
  pivot : List Expr
  labels : List (Expr × String)
  formats : List (Expr × String)
  deriving DecidableEq

structure InsertQuery where
  target : Option TableRef
  columns : Option (List String)
  rows : List (List Expr)
  deriving DecidableEq

structure UpdateQuery where
  target : Option TableRef
  assignments : List Assignment
  filter : Option Expr
  orderBy : List OrderKey
  limit : Option Nat
  deriving DecidableEq

structure DeleteQuery where
  target : Option TableRef
  filter : Option Expr
  orderBy : List OrderKey
  limit : Option Nat
  deriving DecidableEq

inductive Mutation where
  | insert (query : InsertQuery)
  | update (query : UpdateQuery)
  | delete (query : DeleteQuery)
  deriving DecidableEq

def Mutation.target : Mutation → Option TableRef
  | insert query => query.target
  | update query => query.target
  | delete query => query.target

inductive Statement where
  | select (query : SelectQuery)
  | change (mutation : Mutation)
  deriving DecidableEq

end GridQuery
