import GridQuery.Proofs.Fallible
import GridQuery.Select

/-!
# What the names of a table's columns mean

A reference means a column by the names of the columns alone. Neither the rows of a table
nor the types that they give its columns change what it means, so an expression has the
same value over a row wherever the row stands.
-/

namespace GridQuery

/-- A column without its type. -/
def Column.untyped (column : Column) : Column :=
  { column with type := .null }

namespace Table

/-- Two tables of one name have columns of the same names. -/
structure SameNames (left right : Table) : Prop where
  columns : left.columns.map Column.untyped = right.columns.map Column.untyped
  source : left.source = right.source
  joined : left.joined = right.joined

/-- A test that looks at names alone. -/
def NamesOnly (test : Column → Bool) : Prop :=
  ∀ column, test column.untyped = test column

theorem namesOnly_of_mem_nameTests {name : String} {test : Column → Bool}
    (membership : test ∈ nameTests name) : NamesOnly test := by
  intro column
  simp only [nameTests, List.mem_cons, List.not_mem_nil, or_false] at membership
  rcases membership with rfl | rfl | rfl <;> rfl

theorem namesOnly_belongsTo (qualifier : String) :
    NamesOnly (Column.belongsTo qualifier) := fun _ => rfl

/-- Columns with their places, without their types. -/
def untypedPlaces (columns : List (Column × Nat)) : List (Column × Nat) :=
  columns.map fun (column, place) => (column.untyped, place)

theorem untypedPlaces_filter {test : Column → Bool} (names : NamesOnly test)
    (columns : List (Column × Nat)) :
    untypedPlaces (columns.filter fun (column, _) => test column) =
      (untypedPlaces columns).filter fun (column, _) => test column := by
  rw [untypedPlaces, untypedPlaces, List.filter_map]
  congr 1
  refine List.filter_congr fun (column, place) _ => ?_
  exact (names column).symm

theorem untypedPlaces_firstHits {tests : List (Column → Bool)}
    (names : ∀ test ∈ tests, NamesOnly test) (columns : List (Column × Nat)) :
    untypedPlaces (firstHits tests columns) = firstHits tests (untypedPlaces columns) := by
  induction tests with
  | nil => rfl
  | cons test tests inductionHypothesis =>
      have later := inductionHypothesis fun other membership =>
        names other (List.mem_cons_of_mem test membership)
      have filtered := untypedPlaces_filter (names test List.mem_cons_self) columns
      rw [firstHits, firstHits, ← filtered]
      cases hits : columns.filter fun (column, _) => test column with
      | nil => exact later
      | cons first rest => rfl

/-- A table without the types of its columns. -/
def untyped (table : Table) : Table :=
  { table with columns := table.columns.map Column.untyped }

theorem places_untyped (table : Table) : table.untyped.places = untypedPlaces table.places := by
  rw [places, places, untyped, untypedPlaces, List.zipIdx_map]
  rfl

theorem candidates_untyped (table : Table) (reference : ColumnRef) :
    table.untyped.candidates reference = (table.candidates reference).map untypedPlaces := by
  rw [candidates, candidates, places_untyped]
  cases reference.qualifier with
  | none => rfl
  | some qualifier =>
      have filtered := untypedPlaces_filter (namesOnly_belongsTo qualifier) table.places
      simp only [← filtered]
      cases table.places.filter fun (column, _) => column.belongsTo qualifier with
      | nil => rfl
      | cons first rest => rfl

/-- The types of its columns change nothing of what a reference means in a table. -/
theorem resolve_untyped (table : Table) (reference : ColumnRef) :
    table.untyped.resolve reference = table.resolve reference := by
  rw [resolve, resolve, candidates_untyped]
  cases table.candidates reference with
  | error cause => rfl
  | ok found =>
      have tests : ∀ test ∈ nameTests reference.name, NamesOnly test :=
        fun _ => namesOnly_of_mem_nameTests
      have hits := untypedPlaces_firstHits tests found
      simp only [Except.map, bind, Except.bind, ← hits]
      cases firstHits (nameTests reference.name) found with
      | nil => rfl
      | cons first rest =>
          simp only [untypedPlaces, List.map_cons, List.all_map, List.map_map]
          rfl

variable {left right : Table}

/-- A reference means the same in tables of the same names. -/
theorem SameNames.resolve (same : SameNames left right) (reference : ColumnRef) :
    left.resolve reference = right.resolve reference := by
  rw [← resolve_untyped left, ← resolve_untyped right]
  simp only [Table.resolve, candidates, places, untyped, describe, same.columns, same.source]

theorem SameNames.check (same : SameNames left right) (expr : Expr) :
    left.check expr = right.check expr := by
  simp only [Table.check, same.resolve]

theorem SameNames.ofRow (same : SameNames left right) (cells : List Cell) :
    Context.ofRow left cells = Context.ofRow right cells := by
  simp only [Context.ofRow, same.resolve]

theorem SameNames.getElem? (same : SameNames left right) (place : Nat) :
    (left.columns[place]?).map Column.untyped = (right.columns[place]?).map Column.untyped := by
  rw [← List.getElem?_map, ← List.getElem?_map, same.columns]

/-- Columns of the same names are shown under the same texts. -/
theorem SameNames.columnText (same : SameNames left right) (naming : Naming)
    (reference : ColumnRef) :
    naming.columnText left reference = naming.columnText right reference := by
  rw [Naming.columnText, Naming.columnText, same.resolve]
  cases right.resolve reference with
  | error cause => rfl
  | ok place =>
      have columns := same.getElem? place
      have joined := same.joined
      simp only [bind, Except.bind]
      cases first : left.columns[place]? with
      | none =>
          cases second : right.columns[place]? with
          | none => rfl
          | some other =>
              rw [first, second] at columns
              cases columns
      | some column =>
          cases second : right.columns[place]? with
          | none =>
              rw [first, second] at columns
              cases columns
          | some other =>
              rw [first, second] at columns
              have names : column.untyped = other.untyped := Option.some.inj columns
              have ids : column.id = other.id := congrArg (·.id) names
              have labels : column.label = other.label := congrArg (·.label) names
              have owners : column.aliasName = other.aliasName := congrArg (·.aliasName) names
              simp only [outputId, outputLabel, Column.qualifiedId, joined, ids, labels, owners]

theorem SameNames.places (same : SameNames left right) :
    untypedPlaces left.places = untypedPlaces right.places := by
  rw [← places_untyped, ← places_untyped, Table.places, Table.places, untyped, untyped,
    same.columns]

theorem SameNames.ofPlace (same : SameNames left right) (column : Column) (place : Nat) :
    OutputColumn.ofPlace left column place = OutputColumn.ofPlace right column place := by
  simp only [OutputColumn.ofPlace, same.joined, same.columnText]

theorem mapM_ofPlace_untyped (table : Table) :
    (table.places.mapM fun (column, place) => OutputColumn.ofPlace table column place) =
      (untypedPlaces table.places).mapM fun (column, place) =>
        OutputColumn.ofPlace table column place := by
  rw [untypedPlaces, List.mapM_map]
  rfl

/-- All columns of a table, shown as they are, are the same for the same names. -/
theorem SameNames.ofItem_star (same : SameNames left right) :
    OutputColumn.ofItem left (.star none) = OutputColumn.ofItem right (.star none) := by
  have shown : (left.places.mapM fun (column, place) =>
      OutputColumn.ofPlace left column place) =
        right.places.mapM fun (column, place) => OutputColumn.ofPlace right column place := by
    rw [mapM_ofPlace_untyped, mapM_ofPlace_untyped, same.places]
    simp only [same.ofPlace]
  have empty : left.places.isEmpty = right.places.isEmpty := by
    have sizes := congrArg List.isEmpty same.places
    simpa [untypedPlaces] using sizes
  simp only [OutputColumn.ofItem, empty, shown]

theorem SameNames.ofItems_star (same : SameNames left right) :
    OutputColumn.ofItems left [.star none] = OutputColumn.ofItems right [.star none] := by
  simp only [OutputColumn.ofItems, List.mapM_cons, List.mapM_nil, same.ofItem_star]

theorem SameNames.checkQuery (same : SameNames left right) (query : SelectQuery)
    (columns : List OutputColumn) : query.check left columns = query.check right columns := by
  simp only [SelectQuery.check, same.check, same.resolve, funext same.check]

end Table

end GridQuery
