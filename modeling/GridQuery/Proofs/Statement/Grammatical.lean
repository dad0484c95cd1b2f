import GridQuery.Proofs.Statement.Lexing

/-!
# Grammatical statements

What holds of each statement that the grammar produces: names that backticks can hold,
numbers of digits that can be read, whole seconds, and lists that are not empty where the
grammar asks for an item. All words of such a statement are readable if it has no
floating-point literals.
-/

namespace GridQuery

open Statement

/-- The literals of an expression, from left to right. -/
def Expr.literals : Expr → List Cell
  | literal value => [value]
  | column _ => []
  | countRows => []
  | aggregate _ argument => argument.literals
  | changeCase _ argument => argument.literals
  | today => []
  | arithmetic _ left right => left.literals ++ right.literals
  | negate operand => operand.literals
  | condition _ left right => left.literals ++ right.literals
  | nullCheck operand _ => operand.literals
  | compound _ left right => left.literals ++ right.literals
  | not operand => operand.literals

def SelectItem.expr? : SelectItem → Option Expr
  | star _ => none
  | expr item _ => some item

/-- The expression that an item names, with its name. -/
def SelectItem.named? : SelectItem → Option (Expr × String)
  | .expr shown aliasName => (aliasName.filter (!·.isEmpty)).map (shown, ·)
  | .star _ => none

/-- The expressions that a query names, with their names. -/
def SelectQuery.named (query : SelectQuery) : List (Expr × String) :=
  query.items.filterMap SelectItem.named?

namespace Statement

/-- The expressions of a statement, those that its joins are made on aside. -/
def exprs : Statement → List Expr
  | select query =>
      query.distinctOn ++ query.items.filterMap SelectItem.expr? ++ query.filter.toList ++
        query.groupBy ++ query.pivot ++ query.having.toList ++ query.orderBy.map (·.expr) ++
        query.labels.map (·.1) ++ query.formats.map (·.1)
  | change (.insert query) => query.rows.flatten
  | change (.update query) =>
      query.assignments.map (·.value) ++ query.filter.toList ++ query.orderBy.map (·.expr)
  | change (.delete query) => query.filter.toList ++ query.orderBy.map (·.expr)

/-- The literals of a statement. -/
def literals (statement : Statement) : List Cell :=
  statement.exprs.flatMap Expr.literals

end Statement

/-- Whether all numbers among cells are integers. -/
def IntsOnly (cells : List Cell) : Prop :=
  ∀ number, .number number ∈ cells → ∃ value, number = .int value

theorem intsOnly_append {left right : List Cell} :
    IntsOnly (left ++ right) ↔ IntsOnly left ∧ IntsOnly right := by
  simp [IntsOnly, or_imp, forall_and]

def Cell.Grammatical : Cell → Prop
  | null => True
  | text _ => True
  | number (.int value) => IsNumeral value.natAbs
  | number (.float _) => True
  | boolean _ => True
  | date moment => moment.microsecond = 0

def ColumnRef.Grammatical (reference : ColumnRef) : Prop :=
  (∀ qualifier ∈ reference.qualifier, IsName qualifier) ∧ IsName reference.name

/-- A minus before a number is part of the number. -/
def Expr.Grammatical : Expr → Prop
  | literal value => value.Grammatical
  | column reference => reference.Grammatical
  | countRows => True
  | aggregate _ argument => argument.Grammatical
  | changeCase _ argument => argument.Grammatical
  | today => True
  | arithmetic _ left right => left.Grammatical ∧ right.Grammatical
  | negate operand => operand.Grammatical ∧ ∀ value, operand ≠ .literal (.number value)
  | condition _ left right => left.Grammatical ∧ right.Grammatical
  | nullCheck operand _ => operand.Grammatical
  | compound _ left right => left.Grammatical ∧ right.Grammatical
  | not operand => operand.Grammatical

def TableRef.Grammatical (table : TableRef) : Prop :=
  (table.isVirtual = true → IsTableName table.name) ∧ ∀ name ∈ table.aliasName, IsName name

structure JoinClause.Grammatical (join : JoinClause) : Prop where
  table : join.table.Grammatical
  left : join.left.Grammatical
  right : join.right.Grammatical

def SelectItem.Grammatical : SelectItem → Prop
  | star qualifier => ∀ name ∈ qualifier, IsName name
  | expr item _ => item.Grammatical

/-- A list of items is all columns alone, or items that are not. -/
def GrammaticalItems (items : List SelectItem) : Prop :=
  items = [.star none] ∨
    items ≠ [] ∧ ∀ item ∈ items, item.Grammatical ∧ item ≠ .star none

def OrderKey.Grammatical (key : OrderKey) : Prop :=
  key.expr.Grammatical

structure Assignment.Grammatical (assignment : Assignment) : Prop where
  column : assignment.column.Grammatical
  value : assignment.value.Grammatical

structure SelectQuery.Grammatical (query : SelectQuery) : Prop where
  distinct : query.distinctOn ≠ [] → query.distinct = true
  distinctOn : ∀ key ∈ query.distinctOn, key.Grammatical
  items : GrammaticalItems query.items
  source : ∀ table ∈ query.source, table.Grammatical
  joins : ∀ join ∈ query.joins, join.Grammatical
  filter : ∀ test ∈ query.filter, test.Grammatical
  groupBy : ∀ key ∈ query.groupBy, key.Grammatical
  pivot : ∀ key ∈ query.pivot, key.Grammatical
  having : ∀ test ∈ query.having, test.Grammatical
  orderBy : ∀ key ∈ query.orderBy, key.Grammatical
  limit : ∀ size ∈ query.limit, IsNumeral size
  offset : IsNumeral query.offset
  labels : ∀ note ∈ query.labels, note.1.Grammatical
  formats : ∀ note ∈ query.formats, note.1.Grammatical

structure InsertQuery.Grammatical (query : InsertQuery) : Prop where
  target : ∀ table ∈ query.target, table.Grammatical
  columns : ∀ names ∈ query.columns, names ≠ [] ∧ ∀ name ∈ names, IsName name
  rows : query.rows ≠ [] ∧ ∀ row ∈ query.rows, row ≠ [] ∧ ∀ value ∈ row, value.Grammatical

structure UpdateQuery.Grammatical (query : UpdateQuery) : Prop where
  target : ∀ table ∈ query.target, table.Grammatical
  assignments : query.assignments ≠ [] ∧
    ∀ assignment ∈ query.assignments, assignment.Grammatical
  filter : ∀ test ∈ query.filter, test.Grammatical
  orderBy : ∀ key ∈ query.orderBy, key.Grammatical
  limit : ∀ size ∈ query.limit, IsNumeral size

structure DeleteQuery.Grammatical (query : DeleteQuery) : Prop where
  target : ∀ table ∈ query.target, table.Grammatical
  filter : ∀ test ∈ query.filter, test.Grammatical
  orderBy : ∀ key ∈ query.orderBy, key.Grammatical
  limit : ∀ size ∈ query.limit, IsNumeral size

def Statement.Grammatical : Statement → Prop
  | select query => query.Grammatical
  | change (.insert query) => query.Grammatical
  | change (.update query) => query.Grammatical
  | change (.delete query) => query.Grammatical

/-! The words of grammatical phrases are readable. -/

namespace Statement

/-- Whether all words are readable. -/
def AllReadable (words : List Word) : Prop :=
  ∀ word ∈ words, word.Readable

@[simp]
theorem allReadable_nil : AllReadable [] := by simp [AllReadable]

@[simp]
theorem allReadable_cons (word : Word) (words : List Word) :
    AllReadable (word :: words) ↔ word.Readable ∧ AllReadable words := by
  simp [AllReadable]

@[simp]
theorem allReadable_append (left right : List Word) :
    AllReadable (left ++ right) ↔ AllReadable left ∧ AllReadable right := by
  simp [AllReadable, or_imp, forall_and]

@[simp]
theorem readable_keyword (word : Keyword) : (Word.keyword word).Readable := trivial

@[simp]
theorem readable_symbol (sign : Symbol) : (Word.symbol sign).Readable := trivial

@[simp]
theorem readable_text (content : String) : (Word.text content).Readable := trivial

@[simp]
theorem readable_name (name : String) : (Word.name name).Readable ↔ IsName name := Iff.rfl

@[simp]
theorem readable_virtualTable (name : String) :
    (Word.virtualTable name).Readable ↔ IsTableName name := Iff.rfl

@[simp]
theorem readable_int (value : Int) :
    (Word.number (.int value)).Readable ↔ IsNumeral value.natAbs := Iff.rfl

@[simp]
theorem readable_count (value : Nat) : (Word.count value).Readable ↔ IsNumeral value := Iff.rfl

@[simp]
theorem allReadable_enclosed (words : List Word) :
    AllReadable (enclosed words) ↔ AllReadable words := by
  simp [enclosed]

theorem allReadable_listed {Item : Type} {words : Item → List Word} {items : List Item}
    (all : ∀ item ∈ items, AllReadable (words item)) : AllReadable (listed words items) := by
  induction items with
  | nil => simp [listed]
  | cons item rest inductionHypothesis =>
      have first := all item List.mem_cons_self
      have later := inductionHypothesis fun other membership =>
        all other (List.mem_cons_of_mem item membership)
      cases rest with
      | nil => exact first
      | cons next rest => simp [listed, first, later]

theorem allReadable_clause {Body : Type} (keywords : List Keyword) {words : Body → List Word}
    {value : Option Body} (all : ∀ body ∈ value, AllReadable (words body)) :
    AllReadable (clause keywords words value) := by
  cases value with
  | none => simp [clause]
  | some body =>
      have opening : AllReadable (keywords.map .keyword) := by simp [AllReadable]
      simp [clause, opening, all body rfl]

theorem allReadable_listClause {Item : Type} (keywords : List Keyword)
    {words : Item → List Word} {items : List Item}
    (all : ∀ item ∈ items, AllReadable (words item)) :
    AllReadable (listClause keywords words items) := by
  apply allReadable_clause
  intro body membership
  have equal : body = items := by
    split at membership <;> simp_all
  rw [equal]
  exact allReadable_listed all

end Statement

theorem Cell.readable {value : Cell} (grammatical : value.Grammatical)
    (ints : IntsOnly [value]) : AllReadable value.words := by
  cases value with
  | null => simp [words]
  | text content => simp [words]
  | number number =>
      obtain ⟨size, rfl⟩ := ints number (by simp)
      have limited : IsNumeral size.natAbs := grammatical
      simpa [words] using limited
  | boolean flag => simp [words]
  | date moment => simp [words]

theorem ColumnRef.readable {reference : ColumnRef} (grammatical : reference.Grammatical) :
    AllReadable reference.words := by
  obtain ⟨inQualifier, inName⟩ := grammatical
  unfold words
  split
  · next qualifier shape => simpa [inName] using inQualifier qualifier shape
  · simpa using inName

theorem Relation.readable (relation : Relation) : AllReadable relation.words := by
  cases relation <;> simp [words]

@[simp]
theorem Aggregate.isName_name (function : Aggregate) : IsName function.name := by
  cases function <;> decide

@[simp]
theorem LetterCase.isName_name (letterCase : LetterCase) : IsName letterCase.name := by
  cases letterCase <;> decide

theorem Expr.readable {expr : Expr} (grammatical : expr.Grammatical)
    (ints : IntsOnly expr.literals) : AllReadable expr.words := by
  induction expr with
  | literal value => exact Cell.readable grammatical ints
  | column reference => exact ColumnRef.readable grammatical
  | countRows =>
      have name : IsName "count" := by decide
      simp [words, name]
  | aggregate function argument inductionHypothesis =>
      simp [words, inductionHypothesis grammatical ints]
  | changeCase letterCase argument inductionHypothesis =>
      simp [words, inductionHypothesis grammatical ints]
  | today =>
      have name : IsName "today" := by decide
      simp [words, name]
  | arithmetic operator left right leftHypothesis rightHypothesis =>
      have both := intsOnly_append.mp ints
      have onLeft := leftHypothesis grammatical.1 both.1
      have onRight := rightHypothesis grammatical.2 both.2
      simp [words, onLeft, onRight]
  | negate operand inductionHypothesis =>
      simp [words, inductionHypothesis grammatical.1 ints]
  | condition relation left right leftHypothesis rightHypothesis =>
      have both := intsOnly_append.mp ints
      have onLeft := leftHypothesis grammatical.1 both.1
      have onRight := rightHypothesis grammatical.2 both.2
      simp [words, onLeft, onRight, relation.readable]
  | nullCheck operand negated inductionHypothesis =>
      cases negated <;> simp [words, inductionHypothesis grammatical ints]
  | compound connective left right leftHypothesis rightHypothesis =>
      have both := intsOnly_append.mp ints
      have onLeft := leftHypothesis grammatical.1 both.1
      have onRight := rightHypothesis grammatical.2 both.2
      simp [words, onLeft, onRight]
  | not operand inductionHypothesis =>
      simp [words, inductionHypothesis grammatical ints]

theorem TableRef.readable {table : TableRef} (grammatical : table.Grammatical) :
    AllReadable table.words := by
  have aliased : AllReadable (clause [.AS] (fun name => [.name name]) table.aliasName) :=
    allReadable_clause _ fun name membership => by simpa using grammatical.2 name membership
  unfold words
  split
  · next virtual => simpa [aliased] using grammatical.1 virtual
  · simpa using aliased

theorem JoinClause.readable {join : JoinClause} (grammatical : join.Grammatical) :
    AllReadable join.words := by
  have onLeft := ColumnRef.readable grammatical.left
  have onRight := ColumnRef.readable grammatical.right
  have table := TableRef.readable grammatical.table
  simp [words, condition, Expr.words, Relation.words, onLeft, onRight, table]

theorem readable_itemNameWord (name : String) : (itemNameWord name).Readable := by
  unfold itemNameWord
  split
  · simp
  · next plain => simpa [IsName, String.isEmpty_iff] using plain

theorem SelectItem.readable {item : SelectItem} (grammatical : item.Grammatical)
    (ints : ∀ expr ∈ item.expr?, IntsOnly expr.literals) : AllReadable item.words := by
  cases item with
  | star qualifier =>
      cases qualifier with
      | none => simp [words]
      | some name => simpa [words] using grammatical name rfl
  | expr item aliasName =>
      have inItem := Expr.readable grammatical (ints item rfl)
      have aliased : AllReadable (clause [.AS] (fun name => [itemNameWord name]) aliasName) :=
        allReadable_clause _ fun name _ => by simpa using readable_itemNameWord name
      simp [words, inItem, aliased]

theorem OrderKey.readable {key : OrderKey} (grammatical : key.Grammatical)
    (ints : IntsOnly key.expr.literals) : AllReadable key.words := by
  have inKey := Expr.readable grammatical ints
  unfold words
  split <;> simp [inKey]

theorem Assignment.readable {assignment : Assignment} (grammatical : assignment.Grammatical)
    (ints : IntsOnly assignment.value.literals) : AllReadable assignment.words := by
  have inColumn := ColumnRef.readable grammatical.column
  have inValue := Expr.readable grammatical.value ints
  simp [words, inColumn, inValue]

namespace Statement

theorem intsOnly_literals {statement : Statement} (ints : IntsOnly statement.literals) :
    ∀ expr ∈ statement.exprs, IntsOnly expr.literals :=
  fun expr membership number inside =>
    ints number (List.mem_flatMap.mpr ⟨expr, membership, inside⟩)

theorem readable_notes {notes : List (Expr × String)}
    (grammatical : ∀ note ∈ notes, note.1.Grammatical)
    (ints : ∀ note ∈ notes, IntsOnly note.1.literals) (word : Keyword) :
    AllReadable (listClause [word] annotationWords notes) :=
  allReadable_listClause _ fun note membership => by
    simpa [annotationWords] using
      Expr.readable (grammatical note membership) (ints note membership)

theorem readable_exprs {exprs : List Expr} (grammatical : ∀ expr ∈ exprs, expr.Grammatical)
    (ints : ∀ expr ∈ exprs, IntsOnly expr.literals) :
    ∀ expr ∈ exprs, AllReadable expr.words :=
  fun expr membership => Expr.readable (grammatical expr membership) (ints expr membership)

theorem readable_filter {filter : Option Expr} (grammatical : ∀ test ∈ filter, test.Grammatical)
    (ints : ∀ test ∈ filter, IntsOnly test.literals) (word : Keyword) :
    AllReadable (clause [word] Expr.words filter) :=
  allReadable_clause _ fun test membership =>
    Expr.readable (grammatical test membership) (ints test membership)

theorem readable_orderBy {keys : List OrderKey} (grammatical : ∀ key ∈ keys, key.Grammatical)
    (ints : ∀ key ∈ keys, IntsOnly key.expr.literals) :
    AllReadable (listClause [.ORDER, .BY] OrderKey.words keys) :=
  allReadable_listClause _ fun key membership =>
    OrderKey.readable (grammatical key membership) (ints key membership)

theorem readable_size {size : Option Nat} (grammatical : ∀ value ∈ size, IsNumeral value)
    (word : Keyword) : AllReadable (clause [word] (fun size => [.count size]) size) :=
  allReadable_clause _ fun value membership => by simpa using grammatical value membership

theorem readable_table {table : Option TableRef}
    (grammatical : ∀ found ∈ table, found.Grammatical) (words : List Keyword) :
    AllReadable (clause words TableRef.words table) :=
  allReadable_clause _ fun found membership => TableRef.readable (grammatical found membership)

theorem readable_select {query : SelectQuery} (grammatical : query.Grammatical)
    (ints : ∀ expr ∈ (select query).exprs, IntsOnly expr.literals) :
    AllReadable query.words := by
  simp only [exprs, List.forall_mem_append, List.forall_mem_map, List.mem_filterMap,
    Option.mem_toList] at ints
  obtain ⟨⟨⟨⟨⟨⟨⟨⟨distinctOn, items⟩, filter⟩, groupBy⟩, pivot⟩, having⟩, orderBy⟩, labels⟩,
    formats⟩ := ints
  have opening : AllReadable (distinctWords query.distinct query.distinctOn) := by
    unfold distinctWords
    split
    · have keys : AllReadable (listed Expr.words query.distinctOn) :=
        allReadable_listed (readable_exprs grammatical.distinctOn distinctOn)
      simp only [allReadable_cons, readable_keyword, true_and]
      apply allReadable_clause
      intro body membership
      have equal : body = query.distinctOn := by split at membership <;> simp_all
      simpa [equal] using keys
    · simp
  have inItems : AllReadable (listed SelectItem.words query.items) := by
    rcases grammatical.items with alone | ⟨-, each⟩
    · simp [alone, listed, SelectItem.words]
    · exact allReadable_listed fun item membership =>
        SelectItem.readable (each item membership).1 fun expr found =>
          items expr ⟨item, membership, found⟩
  have inJoins : AllReadable (query.joins.flatMap JoinClause.words) := by
    intro word membership
    obtain ⟨join, inList, inJoin⟩ := List.mem_flatMap.mp membership
    exact JoinClause.readable (grammatical.joins join inList) word inJoin
  have offset : AllReadable (clause [.OFFSET] (fun size => [.count size])
      (if query.offset = 0 then none else some query.offset)) := by
    apply readable_size
    intro value membership
    have equal : value = query.offset := by split at membership <;> simp_all
    exact equal ▸ grammatical.offset
  simp [SelectQuery.words, SelectQuery.clauses, opening, inItems, inJoins, offset,
    readable_table grammatical.source, readable_filter grammatical.filter filter,
    allReadable_listClause _ (readable_exprs grammatical.groupBy groupBy),
    allReadable_listClause _ (readable_exprs grammatical.pivot pivot),
    readable_filter grammatical.having having, readable_orderBy grammatical.orderBy orderBy,
    readable_size grammatical.limit, readable_notes grammatical.labels labels,
    readable_notes grammatical.formats formats]

theorem readable_insert {query : InsertQuery} (grammatical : query.Grammatical)
    (ints : ∀ expr ∈ (change (.insert query)).exprs, IntsOnly expr.literals) :
    AllReadable query.words := by
  have columns : AllReadable
      (clause [] (fun names => enclosed (listed (fun name => [.name name]) names))
        query.columns) :=
    allReadable_clause _ fun names membership => by
      have each := (grammatical.columns names membership).2
      simpa using allReadable_listed fun name inNames => by simpa using each name inNames
  have rows : AllReadable
      (listed (fun row => enclosed (listed Expr.words row)) query.rows) :=
    allReadable_listed fun row inRows => by
      have each := (grammatical.rows.2 row inRows).2
      simpa using allReadable_listed (readable_exprs each fun value inRow =>
        ints value (List.mem_flatten.mpr ⟨row, inRows, inRow⟩))
  simp [InsertQuery.words, InsertQuery.clauses, columns, rows, readable_table grammatical.target]

theorem readable_update {query : UpdateQuery} (grammatical : query.Grammatical)
    (ints : ∀ expr ∈ (change (.update query)).exprs, IntsOnly expr.literals) :
    AllReadable query.words := by
  simp only [exprs, List.forall_mem_append, List.forall_mem_map, Option.mem_toList] at ints
  obtain ⟨⟨values, filter⟩, orderBy⟩ := ints
  have assignments : AllReadable (listed Assignment.words query.assignments) :=
    allReadable_listed fun assignment membership =>
      Assignment.readable (grammatical.assignments.2 assignment membership)
        (values assignment membership)
  simp [UpdateQuery.words, UpdateQuery.clauses, assignments,
    readable_table grammatical.target, readable_filter grammatical.filter filter,
    readable_orderBy grammatical.orderBy orderBy, readable_size grammatical.limit]

theorem readable_delete {query : DeleteQuery} (grammatical : query.Grammatical)
    (ints : ∀ expr ∈ (change (.delete query)).exprs, IntsOnly expr.literals) :
    AllReadable query.words := by
  simp only [exprs, List.forall_mem_append, List.forall_mem_map, Option.mem_toList] at ints
  simp [DeleteQuery.words, DeleteQuery.clauses, readable_table grammatical.target,
    readable_filter grammatical.filter ints.1, readable_orderBy grammatical.orderBy ints.2,
    readable_size grammatical.limit]

theorem readable_words {statement : Statement} (grammatical : statement.Grammatical)
    (ints : IntsOnly statement.literals) : AllReadable statement.words := by
  have each := intsOnly_literals ints
  cases statement with
  | select query => exact readable_select grammatical each
  | change mutation =>
      cases mutation with
      | insert query => exact readable_insert grammatical each
      | update query => exact readable_update grammatical each
      | delete query => exact readable_delete grammatical each

end Statement

end GridQuery
