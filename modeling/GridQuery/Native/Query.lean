import GridQuery.Location
import GridQuery.Native.Text
import GridQuery.Statement

/-!
A SELECT over one range in the grid's own query language, wherever that says the same.
-/

namespace GridQuery.Native

/-- The letters of a column code, after which a line break may come. -/
def isColumnCode (name : String) : Bool :=
  let characters := name.toList
  let letters := characters.takeWhile Char.isUpper
  !letters.isEmpty &&
    (letters.length == characters.length || characters.drop letters.length == ['\n'])

def column? (location : Location) (reference : ColumnRef) : Option NativeText :=
  let index := columnIndex reference.name
  let isPast :=
    match location.lastColumn with
    | some last => decide (columnIndex last < index)
    | none => false
  if reference.qualifier.isNone && isColumnCode reference.name &&
      columnIndex location.firstColumn ≤ index && !isPast then
    some [.words reference.name]
  else none

def literal? : Cell → Option NativeText
  | .text content => NativeText.quote? content
  | .boolean flag => some [.words (if flag then "true" else "false")]
  | .number value => some [.words value.literalText]
  | .date moment =>
      if moment.hour == 0 && moment.minute == 0 && moment.second == 0 then
        some [.words "date ", .quoted '\'' moment.dayText]
      else
        some [.words "datetime ",
          .quoted '\'' (moment.dayText ++ " " ++ moment.clockText)]
  | .null => none

/-- A value; a condition is none. -/
def value? (location : Location) : Expr → Option NativeText
  | .column reference => column? location reference
  | .literal cell => literal? cell
  | .aggregate function argument => do
      let inner ← value? location argument
      return .words (function.name ++ "(") :: inner ++ [.words ")"]
  | .changeCase letterCase argument => do
      let inner ← value? location argument
      return .words (letterCase.name ++ "(") :: inner ++ [.words ")"]
  | .today => some [.words "toDate(now())"]
  | .arithmetic operator left right => do
      let leftText ← value? location left
      let rightText ← value? location right
      return .words "(" :: leftText ++ .words (" " ++ operator.sign ++ " ") :: rightText ++
        [.words ")"]
  | _ => none

/-- Whether a relation searches texts without regard to case, unless case counts. -/
def foldsCase : Relation → Bool
  | .contains => true
  | .startsWith => true
  | .endsWith => true
  | .like => true
  | _ => false

def isNullLiteral : Expr → Bool
  | .literal cell => cell.isNull
  | _ => false

/-- A condition between two values. Without regard to case, a text is sought in small
letters, and only where it is a literal. -/
def condition? (location : Location) (caseSensitive : Bool) (relation : Relation)
    (left right : Expr) : Option NativeText := do
  if isNullLiteral left || isNullLiteral right then none
  let sign := NativePart.words (" " ++ relation.text ++ " ")
  if foldsCase relation && !caseSensitive then
    match right with
    | .literal (.text content) =>
        let sought ← NativeText.quote? (Text.lower content)
        let inner ← value? location left
        return .words "lower(" :: inner ++ .words ")" :: sign :: sought
    | _ => none
  else
    let leftText ← value? location left
    let rightText ← value? location right
    return leftText ++ sign :: rightText

/-- A predicate; a value alone is none. -/
def predicate? (location : Location) (caseSensitive : Bool) : Expr → Option NativeText
  | .compound connective left right => do
      let leftText ← predicate? location caseSensitive left
      let rightText ← predicate? location caseSensitive right
      return .words "(" :: leftText ++ .words (" " ++ connective.text ++ " ") :: rightText ++
        [.words ")"]
  | .not operand => do
      let inner ← predicate? location caseSensitive operand
      return .words "not (" :: inner ++ [.words ")"]
  | .nullCheck operand negated => do
      let inner ← value? location operand
      return inner ++ [.words (if negated then " is not null" else " is null")]
  | .condition relation left right => condition? location caseSensitive relation left right
  | _ => none

def values? (location : Location) (exprs : List Expr) : Option NativeText :=
  (exprs.mapM (value? location)).map (NativeText.separated ", ")

/-- The items of a SELECT list: all columns, or values. -/
def items? (location : Location) : List SelectItem → Option NativeText
  | [.star none] => some [.words "*"]
  | items => do
      let exprs ← items.mapM fun
        | .expr expr _ => some expr
        | .star _ => none
      values? location exprs

def itemNames (items : List SelectItem) : List String :=
  items.filterMap fun
    | .expr _ (some name) => if name.isEmpty then none else some name
    | _ => none

/-- A key to order by, which uses no name of the SELECT list. -/
def orderKey? (location : Location) (names : List String) (key : OrderKey) :
    Option NativeText := do
  if key.expr.columns.any fun reference => names.contains reference.name then none
  let shown ← value? location key.expr
  return shown ++ [.words (if key.descending then " desc" else " asc")]

/-- The entries of LABEL, and the names of the SELECT list for what these leave out. -/
def labels (query : SelectQuery) : List (Expr × String) :=
  query.items.foldl (fun (entries : List (Expr × String)) item =>
    match item with
    | .expr expr (some name) =>
        if name.isEmpty || entries.any fun (known, _) => known.sameAs expr then entries
        else entries ++ [(expr, name)]
    | _ => entries) query.labels

def note? (location : Location) (entry : Expr × String) : Option NativeText := do
  let shown ← value? location entry.1
  let text ← NativeText.quote? entry.2
  return shown ++ .words " " :: text

/-- A clause of a query; none of its text if it has no items. -/
def clause (opening : String) (items : List NativeText) : NativeText :=
  if items.isEmpty then [] else .words opening :: NativeText.separated ", " items

/-- Whether the parts of a query are such as the language has. -/
def hasShape (query : SelectQuery) : Bool :=
  query.joins.isEmpty && !query.source.any (·.isVirtual) && !query.distinct &&
    query.distinctOn.isEmpty && query.having.isNone

/-- The query in the grid's own language; none if it does not say the same. -/
def queryText? (query : SelectQuery) (location : Location) (caseSensitive : Bool) :
    Option NativeText := do
  if !hasShape query then none
  let items ← items? location query.items
  let filter ← query.filter.toList.mapM (predicate? location caseSensitive)
  let groups ← query.groupBy.mapM (value? location)
  let pivot ← query.pivot.mapM (value? location)
  let order ← query.orderBy.mapM (orderKey? location (itemNames query.items))
  let labelled ← (labels query).mapM (note? location)
  let formatted ← query.formats.mapM (note? location)
  let limit := query.limit.toList.map fun count => [NativePart.words (Text.ofNat count)]
  let offset :=
    if query.offset == 0 then [] else [[NativePart.words (Text.ofNat query.offset)]]
  return .words "select " :: items ++ clause " where " filter ++
    clause " group by " groups ++ clause " pivot " pivot ++ clause " order by " order ++
    clause " limit " limit ++ clause " offset " offset ++ clause " label " labelled ++
    clause " format " formatted

end GridQuery.Native
