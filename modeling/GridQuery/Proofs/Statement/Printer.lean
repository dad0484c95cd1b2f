import GridQuery.Proofs.Moment
import GridQuery.Statement
import GridQuery.Statement.Lexer

/-!
# Printing statements

A statement is written as words with blanks between them. Names stand in backticks, texts
in double quotes, and each operand of an operator in parentheses; the clauses come in the
order of the grammar.
-/

namespace GridQuery

namespace Statement

/-- A piece of a printed statement. -/
inductive Word where
  | keyword (word : Keyword)
  | symbol (sign : Symbol)
  | name (name : String)
  | virtualTable (name : String)
  | number (value : Number)
  | text (content : String)

/-- The letters of a keyword, in upper case. -/
def Keyword.letters (word : Keyword) : List Char :=
  match spellings.find? (·.2 == word) with
  | some (spelling, _) => spelling.toList.map Char.toUpper
  | none => []

/-- A text with a backslash before each backslash and each double quote. -/
def escape (content : List Char) : List Char :=
  content.flatMap fun character =>
    if character == '\\' || character == '"' then ['\\', character] else [character]

namespace Word

/-- The characters of a word. -/
def letters : Word → List Char
  | keyword word => word.letters
  | symbol sign => sign.text.toList
  | name given => backtick :: (given.toList ++ [backtick])
  | virtualTable given => ':' :: given.toList
  | number (.int value) => (Text.ofInt value).toList
  | number (.float value) => value.text.toList
  | text content => '"' :: (escape content.toList ++ ['"'])

/-- The tokens that a word is read as. -/
def tokens : Word → List Token
  | keyword word => [.keyword word (String.ofList word.letters)]
  | symbol sign => [.symbol sign]
  | name given => [.identifier given]
  | virtualTable given => [.tableRef given]
  | number (.int value) =>
      if value < 0 then [.symbol .minus, .integer value.natAbs] else [.integer value.natAbs]
  | number (.float value) => [.float value]
  | text content => [.text content]

/-- The number of rows that a clause counts. -/
def count (value : Nat) : Word := number (.int value)

end Word

/-- Words in parentheses. -/
def enclosed (words : List Word) : List Word :=
  .symbol .openParen :: words ++ [.symbol .closeParen]

/-- The words of items, with commas between the items. -/
def listed (words : Item → List Word) : List Item → List Word
  | [] => []
  | [item] => words item
  | item :: rest => words item ++ .symbol .comma :: listed words rest

/-- A clause that need not be there: its keywords and then its body. -/
def clause (keywords : List Keyword) (words : Body → List Word) : Option Body → List Word
  | none => []
  | some body => keywords.map .keyword ++ words body

/-- A clause of items, which is not there if there are none. -/
def listClause (keywords : List Keyword) (words : Item → List Word)
    (items : List Item) : List Word :=
  clause keywords (listed words) (if items.isEmpty then none else some items)

end Statement

open Statement

def Cell.words : Cell → List Word
  | null => [.keyword .NULL]
  | text content => [.text content]
  | number value => [.number value]
  | boolean flag => [.keyword (if flag then .TRUE else .FALSE)]
  | date moment => [.keyword .DATE, .text moment.secondText]

def ColumnRef.words (reference : ColumnRef) : List Word :=
  match reference.qualifier with
  | some qualifier => [.name qualifier, .symbol .dot, .name reference.name]
  | none => [.name reference.name]

def Arithmetic.symbol : Arithmetic → Symbol
  | add => .plus
  | sub => .minus
  | mul => .star
  | div => .slash

def Comparison.symbol : Comparison → Symbol
  | eq => .eq
  | neq => .neq
  | lt => .lt
  | lte => .lte
  | gt => .gt
  | gte => .gte

def Relation.words : Relation → List Word
  | compare comparison => [.symbol comparison.symbol]
  | contains => [.keyword .CONTAINS]
  | startsWith => [.keyword .STARTS, .keyword .WITH]
  | endsWith => [.keyword .ENDS, .keyword .WITH]
  | like => [.keyword .LIKE]
  | matchesPattern => [.keyword .MATCHES]

def Connective.keyword : Connective → Keyword
  | and => .AND
  | or => .OR

def Expr.words : Expr → List Word
  | literal value => value.words
  | column reference => reference.words
  | countRows => .name "count" :: enclosed [.symbol .star]
  | aggregate function argument => .name function.name :: enclosed argument.words
  | changeCase letterCase argument => .name letterCase.name :: enclosed argument.words
  | today => .name "today" :: enclosed []
  | arithmetic operator left right =>
      enclosed left.words ++ .symbol operator.symbol :: enclosed right.words
  | negate operand => .symbol .minus :: enclosed operand.words
  | condition relation left right =>
      enclosed left.words ++ relation.words ++ enclosed right.words
  | nullCheck operand negated =>
      enclosed operand.words ++ .keyword .IS ::
        ((if negated then [.keyword .NOT] else []) ++ [.keyword .NULL])
  | compound connective left right =>
      enclosed left.words ++ .keyword connective.keyword :: enclosed right.words
  | not operand => .keyword .NOT :: enclosed operand.words

def TableRef.words (table : TableRef) : List Word :=
  (if table.isVirtual then .virtualTable table.name else .text table.name) ::
    clause [.AS] (fun name => [.name name]) table.aliasName

def JoinKind.keyword : JoinKind → Keyword
  | inner => .INNER
  | left => .LEFT
  | right => .RIGHT

/-- The equality that a join is made on. -/
def JoinClause.condition (join : JoinClause) : Expr :=
  .condition (.compare .eq) (.column join.left) (.column join.right)

def JoinClause.words (join : JoinClause) : List Word :=
  .keyword join.kind.keyword :: .keyword .JOIN :: join.table.words ++
    .keyword .ON :: join.condition.words

/-- What an item is called: a name, or a text if backticks cannot hold it. -/
def itemNameWord (name : String) : Word :=
  if name.isEmpty || name.toList.contains backtick then .text name else .name name

def SelectItem.words : SelectItem → List Word
  | star none => [.symbol .star]
  | star (some qualifier) => [.name qualifier, .symbol .dot, .symbol .star]
  | expr item aliasName =>
      item.words ++ clause [.AS] (fun name => [itemNameWord name]) aliasName

def OrderKey.words (key : OrderKey) : List Word :=
  key.expr.words ++ if key.descending then [.keyword .DESC] else []

def Assignment.words (assignment : Assignment) : List Word :=
  assignment.column.words ++ .symbol .eq :: assignment.value.words

namespace Statement

/-- An expression and the text given to it. -/
def annotationWords (note : Expr × String) : List Word :=
  note.1.words ++ [.text note.2]

/-- `DISTINCT` with the expressions that tell rows apart, if any are given. -/
def distinctWords (distinct : Bool) (distinctOn : List Expr) : List Word :=
  if distinct then
    .keyword .DISTINCT ::
      clause [.ON] (fun keys => enclosed (listed Expr.words keys))
        (if distinctOn.isEmpty then none else some distinctOn)
  else []

end Statement

/-- The clauses of a query in their order, `PIVOT` in the earlier of its two places. -/
def SelectQuery.clauses (query : SelectQuery) : List (List Word) :=
  [distinctWords query.distinct query.distinctOn,
    listed SelectItem.words query.items,
    clause [.FROM] TableRef.words query.source,
    query.joins.flatMap JoinClause.words,
    clause [.WHERE] Expr.words query.filter,
    listClause [.GROUP, .BY] Expr.words query.groupBy,
    listClause [.PIVOT] Expr.words query.pivot,
    clause [.HAVING] Expr.words query.having,
    listClause [.ORDER, .BY] OrderKey.words query.orderBy,
    clause [.LIMIT] (fun size => [.count size]) query.limit,
    clause [.OFFSET] (fun size => [.count size])
      (if query.offset = 0 then none else some query.offset),
    listClause [.LABEL] annotationWords query.labels,
    listClause [.FORMAT] annotationWords query.formats]

def SelectQuery.words (query : SelectQuery) : List Word :=
  .keyword .SELECT :: query.clauses.flatten

def InsertQuery.clauses (query : InsertQuery) : List (List Word) :=
  [clause [.INTO] TableRef.words query.target,
    clause [] (fun names => enclosed (listed (fun name => [.name name]) names)) query.columns,
    .keyword .VALUES :: listed (fun row => enclosed (listed Expr.words row)) query.rows]

def InsertQuery.words (query : InsertQuery) : List Word :=
  .keyword .INSERT :: query.clauses.flatten

def UpdateQuery.clauses (query : UpdateQuery) : List (List Word) :=
  [clause [] TableRef.words query.target,
    .keyword .SET :: listed Assignment.words query.assignments,
    clause [.WHERE] Expr.words query.filter,
    listClause [.ORDER, .BY] OrderKey.words query.orderBy,
    clause [.LIMIT] (fun size => [.count size]) query.limit]

def UpdateQuery.words (query : UpdateQuery) : List Word :=
  .keyword .UPDATE :: query.clauses.flatten

def DeleteQuery.clauses (query : DeleteQuery) : List (List Word) :=
  [clause [.FROM] TableRef.words query.target,
    clause [.WHERE] Expr.words query.filter,
    listClause [.ORDER, .BY] OrderKey.words query.orderBy,
    clause [.LIMIT] (fun size => [.count size]) query.limit]

def DeleteQuery.words (query : DeleteQuery) : List Word :=
  .keyword .DELETE :: query.clauses.flatten

namespace Statement

def words : Statement → List Word
  | select query => query.words
  | change (.insert query) => query.words
  | change (.update query) => query.words
  | change (.delete query) => query.words

/-- The characters of words with a blank between neighbours. -/
def spell : List Word → List Char
  | [] => []
  | [word] => word.letters
  | word :: rest => word.letters ++ ' ' :: spell rest

/-- The characters of words, each written in a given way. -/
def spellBy (letters : Word → List Char) : List Word → List Char
  | [] => []
  | [word] => letters word
  | word :: rest => letters word ++ ' ' :: spellBy letters rest

theorem spell_eq_spellBy (words : List Word) : spell words = spellBy Word.letters words := by
  fun_induction spell words <;> simp_all [spellBy]

/-- The text of a statement. -/
def print (statement : Statement) : String :=
  String.ofList (spell statement.words)

example :
    print (.change (.delete {
      target := some ⟨"plums", true, some "p"⟩
      filter := some (.condition (.compare .lt) (.column ⟨none, "grams"⟩) (.literal (.int (-3))))
      orderBy := []
      limit := some 2 })) =
      "DELETE FROM :plums AS `p` WHERE ( `grams` ) < ( -3 ) LIMIT 2" := by
  rfl

/-- The tokens that words are read as. -/
def tokens (words : List Word) : List Token :=
  words.flatMap Word.tokens

end Statement

end GridQuery
