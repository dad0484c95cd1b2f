import GridQuery.Pattern.Reader.Whole
import GridQuery.Table.Scope
import GridQuery.Text.Like

/-!
The value of an expression, and what its columns and aggregates stand for in a row, in a
constant and under the names of a SELECT list. Operands of an unsuitable type yield null
or do not match.
-/

namespace GridQuery

/-- A statement that is not valid stops with its cause. -/
instance : MonadLift (Except ValidationError) (Except Error) where
  monadLift
    | .ok value => .ok value
    | .error cause => .error (.invalid cause)

/-- A computation on numbers whose result is too large stops. -/
def Number.within : Option Number → Except DataFault Number
  | some value => .ok value
  | none => .error .outOfRange

/-- The result of two numeric operands; null if one is no number or divides by zero. -/
def Arithmetic.apply (operator : Arithmetic) (left right : Cell) :
    Except DataFault Cell := do
  let leftNumber ← left.asNumber?
  let rightNumber ← right.asNumber?
  match leftNumber, rightNumber with
  | some a, some b =>
      match operator with
      | .add => return .number (← Number.within (a.add? b))
      | .sub => return .number (← Number.within (a.sub? b))
      | .mul => return .number (← Number.within (a.mul? b))
      | .div => if b.isZero then return .null else return .number (← Number.within (a.div? b))
  | _, _ => return .null

def Cell.negated (cell : Cell) : Except DataFault Cell := do
  match ← cell.asNumber? with
  | some value => return .number value.neg
  | none => return .null

/-- How expressions are evaluated: whether texts are searched with regard to case, and the
time at which the statement runs. -/
structure Evaluator where
  caseSensitive : Bool
  now : Moment

/-- What the names of an expression stand for where it is evaluated. -/
structure Context where
  column : ColumnRef → Except Error Cell
  countRows : Except Error Cell
  aggregate : Aggregate → Expr → Except Error Cell

namespace Evaluator

def matchesPattern (text expression : String) : Except Error Bool :=
  match Pattern.read expression with
  | .ok pattern => .ok (pattern.matchesWhole text)
  | .error .malformed => .error (.invalid (.badPattern expression))
  | .error (.data fault) => .error (.data fault)

/-- Whether one text contains, begins or ends with another. -/
def searches (evaluator : Evaluator) (test : String → String → Bool)
    (text part : String) : Bool :=
  if evaluator.caseSensitive then test text part
  else test (Text.lower text) (Text.lower part)

def relatesTexts (evaluator : Evaluator) (relation : Relation) (text other : String) :
    Except Error Bool :=
  match relation with
  | .contains => .ok (evaluator.searches Text.contains text other)
  | .startsWith => .ok (evaluator.searches Text.startsWith text other)
  | .endsWith => .ok (evaluator.searches Text.endsWith text other)
  | .like => .ok (Text.like evaluator.caseSensitive other text)
  | .matchesPattern => matchesPattern text other
  | .compare _ => .ok false

def relates (evaluator : Evaluator) (relation : Relation) (left right : Cell) :
    Except Error Bool := do
  match relation with
  | .compare comparison => comparison.holds left right
  | _ =>
      let leftText ← left.asText?
      let rightText ← right.asText?
      match leftText, rightText with
      | some text, some other => evaluator.relatesTexts relation text other
      | _, _ => return false

/-- The value of an expression. The right side of a connective is left alone if the left
one decides. -/
def value (evaluator : Evaluator) (context : Context) : Expr → Except Error Cell
  | .literal cell => return cell
  | .column reference => context.column reference
  | .countRows => context.countRows
  | .aggregate function argument => context.aggregate function argument
  | .changeCase letterCase argument => do
      let cell ← evaluator.value context argument
      match ← cell.asText? with
      | some content => return .text (letterCase.apply content)
      | none => return .null
  | .today => return .date (.midnight evaluator.now.date)
  | .arithmetic operator left right => do
      let leftCell ← evaluator.value context left
      let rightCell ← evaluator.value context right
      operator.apply leftCell rightCell
  | .negate operand => do
      let cell ← evaluator.value context operand
      cell.negated
  | .condition relation left right => do
      let leftCell ← evaluator.value context left
      let rightCell ← evaluator.value context right
      return .boolean (← evaluator.relates relation leftCell rightCell)
  | .nullCheck operand negated => do
      let cell ← evaluator.value context operand
      return .boolean (cell.isBlank != negated)
  | .compound connective left right => do
      let leftCell ← evaluator.value context left
      let decided :=
        match connective with
        | .and => !leftCell.isTruthy
        | .or => leftCell.isTruthy
      if decided then return .boolean leftCell.isTruthy
      else
        let rightCell ← evaluator.value context right
        return .boolean rightCell.isTruthy
  | .not operand => do
      let cell ← evaluator.value context operand
      return .boolean !cell.isTruthy

def holds (evaluator : Evaluator) (context : Context) (expr : Expr) : Except Error Bool :=
  (evaluator.value context expr).map Cell.isTruthy

end Evaluator

namespace Context

/-- A row of a table: its columns have values, and there is nothing to aggregate. -/
def ofRow (table : Table) (cells : List Cell) : Context where
  column reference := do
    let place ← table.resolve reference
    return cells.getD place .null
  countRows := throw (.invalid (.aggregateHere "COUNT"))
  aggregate function _ := throw (.invalid (.aggregateHere (Text.upper function.name)))

/-- No row at all, as for an item of VALUES. -/
def constant : Context where
  column reference := throw (.invalid (.columnInValues reference.text))
  countRows := throw (.invalid (.aggregateInValues "COUNT"))
  aggregate function _ := throw (.invalid (.aggregateInValues (Text.upper function.name)))

/-- The names of a SELECT list stand for its values before any column. Of two values of
one name the later counts. -/
def withNames (context : Context) (names : List (String × Cell)) : Context where
  column reference :=
    match reference.qualifier, names.reverse.lookup reference.name with
    | none, some cell => .ok cell
    | _, _ => context.column reference
  countRows := context.countRows
  aggregate := context.aggregate

end Context

end GridQuery
