import GridQuery.Statement.Parser.Expr

/-!
Reading statements: the clauses of a query and of a change, in the order that they have
to come in.
-/

namespace GridQuery.Statement.Parser

def followsJoin : Token → Bool
  | .symbol sign => sign == .semicolon
  | .keyword word _ =>
      [.JOIN, .INNER, .LEFT, .RIGHT, .WHERE, .GROUP, .PIVOT, .HAVING, .ORDER, .LIMIT,
        .OFFSET, .LABEL, .FORMAT].contains word
  | _ => false

def followsQuery : Token → Bool
  | .symbol sign => sign == .semicolon
  | _ => false

/-- The name that a table is called by, after `AS` or on its own. -/
def aliasName : Parser (Option String) := do
  if ← keyword? .AS then return some (← expect isIdentifier)
  else takeIf isIdentifier

def tableName : Token → Option (String × Bool)
  | .tableRef name => some (name, true)
  | .text name => some (name, false)
  | .range name => some (name, false)
  | _ => none

def tableRef : Parser TableRef := do
  let (name, isVirtual) ← expect tableName
  return ⟨name, isVirtual, ← aliasName⟩

def tableRef? : Parser (Option TableRef) := do
  match (← peek).bind tableName with
  | some _ => return some (← tableRef)
  | none => return none

def fromClause : Parser (Option TableRef) :=
  clause? .FROM tableRef

def joinKind? : Parser (Option JoinKind) := do
  match ← peek with
  | some (.keyword .JOIN _) => return some .inner
  | some (.keyword .INNER _) => skip; return some .inner
  | some (.keyword .LEFT _) => skip; let _ ← keyword? .OUTER; return some .left
  | some (.keyword .RIGHT _) => skip; let _ ← keyword? .OUTER; return some .right
  | _ => return none

def joinClause (kind : JoinKind) : Parser JoinClause := do
  let start ← position
  keyword .JOIN
  let table ← tableRef
  keyword .ON
  match ← expr with
  | .condition (.compare .eq) (.column left) (.column right) =>
      return ⟨kind, table, left, right⟩
  | _ => reject .joinCondition start followsJoin

def joinsOf : Nat → Parser (List JoinClause)
  | 0 => fail
  | fuel + 1 => do
      match ← joinKind? with
      | some kind =>
          let first ← joinClause kind
          return first :: (← joinsOf fuel)
      | none => return []

def joins : Parser (List JoinClause) := do
  joinsOf (← fuel)

def orderKey : Parser OrderKey := do
  let key ← expr
  if ← keyword? .DESC then return ⟨key, true⟩
  else
    let _ ← keyword? .ASC
    return ⟨key, false⟩

def orderBy : Parser (List OrderKey) :=
  listBy .ORDER (separated orderKey)

def limit : Parser (Option Nat) :=
  clause? .LIMIT (expect isInteger)

def annotation : Parser (Expr × String) := do
  let subject ← expr
  return (subject, ← expect isText)

/-- Whether a query keeps one row of several alike, and the expressions that tell. -/
def distinctClause : Parser (Bool × List Expr) := do
  if ← keyword? .DISTINCT then
    return (true, (← clause? .ON (enclosed exprs)).getD [])
  else return (false, [])

/-- What an expression of a SELECT list is called. -/
def itemName : Token → Option String
  | .identifier name => some name
  | .text name => some name
  | _ => none

def selectItem : Parser SelectItem := do
  let ahead : List Token := (← get).map (·.token)
  match ahead with
  | .identifier name :: .symbol .dot :: .symbol .star :: _ =>
      skip; skip; skip
      return .star (some name)
  | _ =>
      let item ← expr
      return .expr item (← clause? .AS (expect itemName))

def selectItems : Parser (List SelectItem) := do
  if ← symbol? .star then return [.star none] else separated selectItem

/-- A query after `SELECT`, which stands at the given position. -/
def selectQuery (start : Nat) : Parser SelectQuery := do
  let (distinct, distinctOn) ← distinctClause
  let items ← selectItems
  let source ← fromClause
  let joins ← joins
  let filter ← clause? .WHERE expr
  let groupBy ← listBy .GROUP exprs
  let earlyPivot ← listAfter .PIVOT exprs
  let having ← clause? .HAVING expr
  let orderBy ← orderBy
  let limit ← limit
  let offset ← clause? .OFFSET (expect isInteger)
  let labels ← listAfter .LABEL (separated annotation)
  let formats ← listAfter .FORMAT (separated annotation)
  let latePivot ← listAfter .PIVOT exprs
  if !earlyPivot.isEmpty && !latePivot.isEmpty then reject .pivotTwice start followsQuery
  return {
    items, source, joins, filter, groupBy, having, orderBy, limit,
    offset := offset.getD 0, distinct, distinctOn,
    pivot := earlyPivot ++ latePivot, labels, formats }

/-- The target among those given; at most one may be. -/
def oneTarget (verb : String) (start : Nat) (targets : List (Option TableRef)) :
    Parser (Option TableRef) := do
  match targets.filterMap id with
  | [] => return none
  | [target] => return some target
  | _ => reject (.targetTwice verb) start followsQuery

def insertQuery (start : Nat) : Parser InsertQuery := do
  let _ ← keyword? .INTO
  let target ← tableRef?
  let columns ←
    match ← peek with
    | some (.symbol .openParen) =>
        (some <$> enclosed (separated (expect isIdentifier)) : Parser (Option (List String)))
    | _ => pure none
  keyword .VALUES
  let rows ← separated (enclosed exprs)
  let source ← fromClause
  return ⟨← oneTarget "INSERT" start [target, source], columns, rows⟩

def assignment : Parser Assignment := do
  let column ← columnAfter (← expect isIdentifier)
  symbol .eq
  return ⟨column, ← expr⟩

def updateQuery (start : Nat) : Parser UpdateQuery := do
  let target ← tableRef?
  keyword .SET
  let assignments ← separated assignment
  let early ← fromClause
  let filter ← clause? .WHERE expr
  let late ← fromClause
  let orderBy ← orderBy
  let limit ← limit
  return ⟨← oneTarget "UPDATE" start [target, early, late], assignments, filter, orderBy,
    limit⟩

def deleteQuery (start : Nat) : Parser DeleteQuery := do
  let early ← fromClause
  let filter ← clause? .WHERE expr
  let late ← fromClause
  let orderBy ← orderBy
  let limit ← limit
  return ⟨← oneTarget "DELETE" start [early, late], filter, orderBy, limit⟩

def query : Parser Statement := do
  let start ← position
  match ← peek with
  | some (.keyword .SELECT _) => skip; return .select (← selectQuery start)
  | some (.keyword .INSERT _) => skip; return .change (.insert (← insertQuery start))
  | some (.keyword .UPDATE _) => skip; return .change (.update (← updateQuery start))
  | some (.keyword .DELETE _) => skip; return .change (.delete (← deleteQuery start))
  | _ => fail

/-- A query with a semicolon after it or without, and nothing more. -/
def statement : Parser Statement := do
  let found ← query
  let _ ← symbol? .semicolon
  match ← peek with
  | none => return found
  | some _ => fail

end GridQuery.Statement.Parser
