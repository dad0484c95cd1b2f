import GridQuery.Moment.Reader
import GridQuery.Statement
import GridQuery.Statement.Parser

/-!
Reading expressions: operands with the signs before them, and the operators between them
by how tightly they bind.
-/

namespace GridQuery.Statement.Parser

def followsExpr : Token → Bool
  | .symbol sign => sign != .dot && sign != .openParen
  | .text _ => true
  | .keyword word _ =>
      [.AND, .OR, .CONTAINS, .LIKE, .MATCHES, .STARTS, .ENDS, .IS, .AS, .ASC, .DESC,
        .FROM, .JOIN, .INNER, .LEFT, .RIGHT, .WHERE, .GROUP, .PIVOT, .HAVING, .ORDER,
        .LIMIT, .OFFSET, .LABEL, .FORMAT].contains word
  | _ => false

/-- What stands between the parentheses of a call. -/
inductive Arguments where
  | star
  | exprs (arguments : List Expr)

/-- The call of a function by its name in any case. -/
def call (written : String) (arguments : Arguments) : Except Rejection Expr :=
  let name := Text.lower written
  let shown := Text.upper name
  let one (build : Expr → Expr) : Except Rejection Expr :=
    match arguments with
    | .star => .error (.starArgument shown)
    | .exprs [argument] => .ok (build argument)
    | .exprs _ => .error (.argumentCount shown 1)
  match name with
  | "count" =>
      match arguments with
      | .star => .ok .countRows
      | _ => one (.aggregate .count)
  | "sum" => one (.aggregate .sum)
  | "avg" => one (.aggregate .avg)
  | "min" => one (.aggregate .min)
  | "max" => one (.aggregate .max)
  | "lower" => one (.changeCase .lower)
  | "upper" => one (.changeCase .upper)
  | "today" =>
      match arguments with
      | .star => .error (.starArgument shown)
      | .exprs [] => .ok .today
      | .exprs _ => .error (.argumentCount shown 0)
  | _ => .error (.unknownFunction written)

/-- A minus before an operand; a literal number takes it up. -/
def negated : Expr → Expr
  | .literal (.number value) => .literal (.number value.neg)
  | operand => .negate operand

/-- How tightly an operator binds, the loosest first; `NOT` stands between `AND` and the
relations, `IS NULL` on the level of sums, and a minus before an operand binds
tightest. -/
inductive Level where
  | or
  | and
  | relation
  | sum
  | product
  deriving DecidableEq, Repr

def Level.rank : Level → Nat
  | or => 1
  | and => 2
  | relation => 4
  | sum => 5
  | product => 6

/-- What a token between two operands, or after one, means. -/
inductive Operator where
  | connective (connective : Connective)
  | relation (relation : Relation)
  /-- `STARTS` or `ENDS`, which `WITH` completes. -/
  | relationWith (relation : Relation)
  | nullCheck
  | arithmetic (operator : Arithmetic)

def Operator.rank : Operator → Nat
  | connective .or => Level.rank .or
  | connective .and => Level.rank .and
  | relation _ => Level.rank .relation
  | relationWith _ => Level.rank .relation
  | nullCheck => Level.rank .sum
  | arithmetic .add => Level.rank .sum
  | arithmetic .sub => Level.rank .sum
  | arithmetic .mul => Level.rank .product
  | arithmetic .div => Level.rank .product

def operator? : Token → Option Operator
  | .keyword .OR _ => some (.connective .or)
  | .keyword .AND _ => some (.connective .and)
  | .symbol .eq => some (.relation (.compare .eq))
  | .symbol .neq => some (.relation (.compare .neq))
  | .symbol .lt => some (.relation (.compare .lt))
  | .symbol .lte => some (.relation (.compare .lte))
  | .symbol .gt => some (.relation (.compare .gt))
  | .symbol .gte => some (.relation (.compare .gte))
  | .keyword .CONTAINS _ => some (.relation .contains)
  | .keyword .LIKE _ => some (.relation .like)
  | .keyword .MATCHES _ => some (.relation .matchesPattern)
  | .keyword .STARTS _ => some (.relationWith .startsWith)
  | .keyword .ENDS _ => some (.relationWith .endsWith)
  | .keyword .IS _ => some .nullCheck
  | .symbol .plus => some (.arithmetic .add)
  | .symbol .minus => some (.arithmetic .sub)
  | .symbol .star => some (.arithmetic .mul)
  | .symbol .slash => some (.arithmetic .div)
  | _ => none

/-- A date after `DATE`, at the given position. -/
def dateLiteral (content : String) (start : Nat) : Parser Expr := do
  match Moment.read content with
  | .ok (some moment) => return .literal (.date moment)
  | .ok none => reject (.badDate content) start followsExpr
  | .error fault => throw (.data fault)

def columnAfter (name : String) : Parser ColumnRef := do
  if ← symbol? .dot then return ⟨some name, ← expect isIdentifier⟩
  else return ⟨none, name⟩

mutual

/-- An expression of operators that bind at least as tightly as the rank says. -/
def exprOf : Nat → Nat → Parser Expr
  | 0, _ => fail
  | fuel + 1, rank => do operatorsAfter fuel rank false (← operand fuel)

/-- One operand with the signs before it. -/
def operand : Nat → Parser Expr
  | 0 => fail
  | fuel + 1 => do
      let start ← position
      match ← peek with
      | some (.symbol .minus) => skip; return negated (← operand fuel)
      | some (.keyword .NOT _) =>
          skip
          return .not (← exprOf fuel (Level.rank .relation))
      | some (.symbol .openParen) =>
          skip
          let inner ← exprOf fuel (Level.rank .or)
          symbol .closeParen
          return inner
      | some (.identifier name) =>
          skip
          if ← symbol? .openParen then
            let arguments ← argumentsOf fuel
            symbol .closeParen
            match call name arguments with
            | .ok expr => return expr
            | .error cause => reject cause start followsExpr
          else return .column (← columnAfter name)
      | some (.integer value) => skip; return .literal (.int value)
      | some (.float value) => skip; return .literal (.number (.float value))
      | some (.text content) => skip; return .literal (.text content)
      | some (.keyword .TRUE _) => skip; return .literal (.boolean true)
      | some (.keyword .FALSE _) => skip; return .literal (.boolean false)
      | some (.keyword .NULL _) => skip; return .literal .null
      | some (.keyword .DATE _) =>
          skip
          let start ← position
          dateLiteral (← expect isText) start
      | _ => fail

/-- The operators after an operand that bind at least as tightly as the rank says, with
their other operands. Relations do not chain: after one, no other follows on its level. -/
def operatorsAfter : Nat → Nat → Bool → Expr → Parser Expr
  | 0, _, _, _ => fail
  | fuel + 1, rank, related, left => do
      match (← peek).bind operator? with
      | none => return left
      | some operator =>
          if operator.rank < rank then return left
          else
            match operator with
            | .connective connective =>
                skip
                let right ← exprOf fuel (operator.rank + 1)
                operatorsAfter fuel rank false (.compound connective left right)
            | .arithmetic sign =>
                skip
                let right ← exprOf fuel (operator.rank + 1)
                operatorsAfter fuel rank false (.arithmetic sign left right)
            | .relation relation =>
                if related then fail
                else
                  skip
                  let right ← exprOf fuel (operator.rank + 1)
                  operatorsAfter fuel rank true (.condition relation left right)
            | .relationWith relation =>
                if related then fail
                else
                  skip
                  keyword .WITH
                  let right ← exprOf fuel (operator.rank + 1)
                  operatorsAfter fuel rank true (.condition relation left right)
            | .nullCheck =>
                skip
                let negated ← keyword? .NOT
                keyword .NULL
                operatorsAfter fuel rank related (.nullCheck left negated)

/-- What stands after the opening parenthesis of a call. -/
def argumentsOf : Nat → Parser Arguments
  | 0 => fail
  | fuel + 1 => do
      match ← peek with
      | some (.symbol .closeParen) => return .exprs []
      | some (.symbol .star) => skip; return .star
      | _ => return .exprs (← exprsOf fuel)

def exprsOf : Nat → Parser (List Expr)
  | 0 => fail
  | fuel + 1 => do
      let first ← exprOf fuel (Level.rank .or)
      if ← symbol? .comma then return first :: (← exprsOf fuel)
      else return [first]

end

def expr : Parser Expr := do
  exprOf (← fuel) (Level.rank .or)

def exprs : Parser (List Expr) := do
  exprsOf (← fuel)

end GridQuery.Statement.Parser
