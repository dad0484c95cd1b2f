import GridQuery.Cell.Order

/-!
Expressions and predicates of statements.
-/

namespace GridQuery

/-- A column by its name, with the table that it is sought in if one is named. -/
structure ColumnRef where
  qualifier : Option String
  name : String
  deriving DecidableEq, Repr

def ColumnRef.text (reference : ColumnRef) : String :=
  match reference.qualifier with
  | some qualifier => qualifier ++ "." ++ reference.name
  | none => reference.name

inductive Aggregate where
  | count
  | sum
  | avg
  | min
  | max
  deriving DecidableEq, Repr

def Aggregate.name : Aggregate → String
  | count => "count"
  | sum => "sum"
  | avg => "avg"
  | min => "min"
  | max => "max"

inductive LetterCase where
  | lower
  | upper
  deriving DecidableEq, Repr

def LetterCase.name : LetterCase → String
  | lower => "lower"
  | upper => "upper"

def LetterCase.apply : LetterCase → String → String
  | lower => Text.lower
  | upper => Text.upper

inductive Arithmetic where
  | add
  | sub
  | mul
  | div
  deriving DecidableEq, Repr

def Arithmetic.sign : Arithmetic → String
  | add => "+"
  | sub => "-"
  | mul => "*"
  | div => "/"

/-- How the two sides of a condition are set beside each other. -/
inductive Relation where
  | compare (comparison : Comparison)
  | contains
  | startsWith
  | endsWith
  | like
  | matchesPattern
  deriving DecidableEq, Repr

def Relation.text : Relation → String
  | compare .eq => "="
  | compare .neq => "!="
  | compare .lt => "<"
  | compare .lte => "<="
  | compare .gt => ">"
  | compare .gte => ">="
  | contains => "contains"
  | startsWith => "starts with"
  | endsWith => "ends with"
  | like => "like"
  | matchesPattern => "matches"

inductive Connective where
  | and
  | or
  deriving DecidableEq, Repr

def Connective.text : Connective → String
  | and => "and"
  | or => "or"

inductive Expr where
  | literal (value : Cell)
  | column (reference : ColumnRef)
  | countRows
  | aggregate (function : Aggregate) (argument : Expr)
  | changeCase (letterCase : LetterCase) (argument : Expr)
  | today
  | arithmetic (operator : Arithmetic) (left right : Expr)
  | negate (operand : Expr)
  | condition (relation : Relation) (left right : Expr)
  | nullCheck (operand : Expr) (negated : Bool)
  | compound (connective : Connective) (left right : Expr)
  | not (operand : Expr)
  deriving DecidableEq, Inhabited

namespace Expr

/-- The column references of an expression, from left to right. -/
def columns : Expr → List ColumnRef
  | literal _ => []
  | column reference => [reference]
  | countRows => []
  | aggregate _ argument => argument.columns
  | changeCase _ argument => argument.columns
  | today => []
  | arithmetic _ left right => left.columns ++ right.columns
  | negate operand => operand.columns
  | condition _ left right => left.columns ++ right.columns
  | nullCheck operand _ => operand.columns
  | compound _ left right => left.columns ++ right.columns
  | not operand => operand.columns

/-- The column references outside every aggregate. -/
def bareColumns : Expr → List ColumnRef
  | literal _ => []
  | column reference => [reference]
  | countRows => []
  | aggregate _ _ => []
  | changeCase _ argument => argument.bareColumns
  | today => []
  | arithmetic _ left right => left.bareColumns ++ right.bareColumns
  | negate operand => operand.bareColumns
  | condition _ left right => left.bareColumns ++ right.bareColumns
  | nullCheck operand _ => operand.bareColumns
  | compound _ left right => left.bareColumns ++ right.bareColumns
  | not operand => operand.bareColumns

def hasAggregate : Expr → Bool
  | literal _ => false
  | column _ => false
  | countRows => true
  | aggregate _ _ => true
  | changeCase _ argument => argument.hasAggregate
  | today => false
  | arithmetic _ left right => left.hasAggregate || right.hasAggregate
  | negate operand => operand.hasAggregate
  | condition _ left right => left.hasAggregate || right.hasAggregate
  | nullCheck operand _ => operand.hasAggregate
  | compound _ left right => left.hasAggregate || right.hasAggregate
  | not operand => operand.hasAggregate

/-- Whether two expressions are alike in all but the kinds of equal numbers. -/
def sameAs : Expr → Expr → Bool
  | literal left, literal right => left.sameValue right
  | column left, column right => left == right
  | countRows, countRows => true
  | aggregate left argument, aggregate right other =>
      left == right && argument.sameAs other
  | changeCase left argument, changeCase right other =>
      left == right && argument.sameAs other
  | today, today => true
  | arithmetic left a b, arithmetic right c d => left == right && a.sameAs c && b.sameAs d
  | negate left, negate right => left.sameAs right
  | condition left a b, condition right c d => left == right && a.sameAs c && b.sameAs d
  | nullCheck left negated, nullCheck right other => negated == other && left.sameAs right
  | compound left a b, compound right c d => left == right && a.sameAs c && b.sameAs d
  | not left, not right => left.sameAs right
  | _, _ => false

end Expr

end GridQuery
