import GridQuery.Proofs.Cell.Stored
import GridQuery.Proofs.Engine.Update
import GridQuery.Proofs.Table.Inserted

/-!
# Values that are written, and found again

An UPDATE or an INSERT leaves the plain form of each of its values in the data of a virtual
table. A later condition that asks a column for the value holds in the row, but for a
midnight of an early year.
-/

namespace GridQuery

/-- Whether a column has a value. -/
def equals (reference : ColumnRef) (cell : Cell) : Expr :=
  .condition (.compare .eq) (.column reference) (.literal cell)

/-! ### Conditions on stored cells -/

theorem Table.getElem?_fit {width place : Nat} {cells : List Cell} {cell : Cell}
    (inside : place < width) (here : cells[place]? = some cell) :
    (fit width cells)[place]? = some cell := by
  have taken : place < (cells.take width).length := by
    rw [List.length_take]
    exact Nat.lt_min.mpr ⟨inside, (List.getElem?_eq_some_iff.mp here).1⟩
  rw [fit, List.getElem?_append_left taken, List.getElem?_take_of_lt inside, here]

theorem Evaluator.holds_equals {evaluator : Evaluator} {table : Table} {cells : List Cell}
    {reference : ColumnRef} {place : Nat} {cell : Cell} (storable : cell.IsStorable)
    (resolved : table.resolve reference = .ok place)
    (stands : cells[place]? = some cell.readBack) :
    evaluator.holds (.ofRow table cells) (equals reference cell) = .ok !cell.isEarlyDay := by
  have read : (Context.ofRow table cells).column reference = .ok cell.readBack := by
    simp [Context.ofRow, resolved, stands]
  have related : evaluator.relates (.compare .eq) cell.readBack cell =
      .ok !cell.isEarlyDay := by
    rw [relates, (Cell.holds_readBack storable).2]
    rfl
  have valued : evaluator.value (.ofRow table cells) (equals reference cell) =
      .ok (.boolean !cell.isEarlyDay) := by
    simp only [equals, value, read, bind_eq_ok_iff]
    exact ⟨_, rfl, cell, rfl, _, related, rfl⟩
  rw [holds, valued]
  rfl

/-! ### Data that hold a stored cell -/

/-- A cell that is stored at a place of a row of data is found again, but for a midnight of
an early year. Whenever a condition asks the column at the place for the cell it holds in the
row just then, and whenever a query for all such rows has a result it shows the row just
then. -/
def FoundAgain (name : String) (data : List (List Datum)) (ordinal place : Nat)
    (cell : Cell) : Prop :=
  ∃ header raw, data = header :: raw ∧
    ∀ (aliasName : Option String) (reference : ColumnRef),
      (Table.ofHeader name aliasName header raw).resolve reference = .ok place →
      ∃ row ∈ (Table.ofHeader name aliasName header raw).rows, row.ordinal = ordinal ∧
        (∀ evaluator : Evaluator,
          evaluator.holds (.ofRow (.ofHeader name aliasName header raw) row.cells)
            (equals reference cell) = .ok !cell.isEarlyDay) ∧
        ∀ (State : Type) (engine : Engine State) (withMetadata : Bool)
          (before after : Session State) (shown : SelectResult),
          engine.workspace.virtualRows name = .ok (data.map .list) →
          engine.run (.select (starQuery (some ⟨name, true, aliasName⟩)
            (some (equals reference cell)) [] none)) withMetadata before =
              (.ok (.selected shown), after) →
          (row.cells ∈ shown.rows.map (·.map (·.value)) ↔ cell.isEarlyDay = false)

theorem Evaluator.mem_select_star_iff {evaluator : Evaluator} {table : Table}
    {source : Option TableRef} {condition : Expr} {shown : SelectResult} {row : Row}
    {passes : Bool} (full : ∀ row ∈ table.rows, row.cells.length = table.columns.length)
    (among : row ∈ table.rows)
    (holds : evaluator.holds (.ofRow table row.cells) condition = .ok passes)
    (done : evaluator.select (starQuery source (some condition) [] none) table = .ok shown) :
    row.cells ∈ shown.rows.map (·.map (·.value)) ↔ passes = true := by
  obtain ⟨_, _, sorted, -, -, filtered, ordered, cells⟩ := select_star_eq_ok
    (fun _ keyed => by cases keyed) full done
  obtain ⟨passing, each, rfl⟩ := filterM_eq_ok filtered
  have inSorted (other : Row) : other ∈ page 0 none sorted ↔
      other ∈ table.rows ∧ passing other = true :=
    (sortRows_perm ordered).mem_iff.trans List.mem_filter
  rw [cells, List.mem_map]
  constructor
  · -- Another row may have these cells, but then the condition holds in both or in neither.
    rintro ⟨other, here, same⟩
    obtain ⟨inTable, passed⟩ := (inSorted other).mp here
    have alike := each other inTable
    rw [same, holds, passed, Except.ok.injEq] at alike
    exact alike
  · rintro rfl
    have passed := each row among
    rw [holds, Except.ok.injEq] at passed
    exact ⟨row, (inSorted row).mpr ⟨among, passed.symm⟩, rfl⟩

theorem foundAgain_of_getElem? {name : String} {header : List Datum} {raw : List (List Datum)}
    {ordinal place : Nat} {items : List Datum} {cell : Cell} (storable : cell.IsStorable)
    (row : raw[ordinal]? = some items) (stands : items[place]? = some cell.toDatum) :
    FoundAgain name (header :: raw) ordinal place cell := by
  refine ⟨header, raw, rfl, fun aliasName reference resolved => ?_⟩
  have inside := Table.resolve_lt resolved
  rw [Table.length_columns_ofHeader] at inside
  have known : (⟨ordinal, Table.fit header.length (items.map Cell.ofDatum)⟩ : Row) ∈
      (Table.ofHeader name aliasName header raw).rows :=
    Table.mem_ofHeader.mpr ⟨items, row, rfl⟩
  have read : (Table.fit header.length (items.map Cell.ofDatum))[place]? =
      some cell.readBack := by
    refine Table.getElem?_fit inside ?_
    rw [List.getElem?_map, stands]
    rfl
  have holds (evaluator : Evaluator) := evaluator.holds_equals storable resolved read
  refine ⟨_, known, rfl, holds,
    fun State engine withMetadata before after shown found done => ?_⟩
  rw [Engine.run_select_virtual rfl rfl found (Table.ofVirtual_eq (mapM_rowItems_list _))]
    at done
  obtain ⟨result, evaluated, same⟩ := (map_eq_ok_iff _ _ _).mp (congrArg Prod.fst done)
  cases same
  rw [Evaluator.mem_select_star_iff (fun _ => Table.length_cells_ofHeader) known
    (holds engine.evaluator) evaluated, Bool.not_eq_true']

/-! ### Written cells -/

/-- A change of a virtual table writes a cell at a place of a row of its data: an UPDATE the
value of the last assignment for the column, in a selected row, and an INSERT what a row of
VALUES puts there, below the rows of the table. -/
inductive Engine.Writes {State : Type} (engine : Engine State) (name : String)
    (aliasName : Option String) : Mutation → Nat → Nat → Cell → Prop where
  | update {query : UpdateQuery} {table : Table} {data : List (List Datum)} {picked : List Row}
      {row : Row} {earlier later : List Assignment} {assignment : Assignment} {place : Nat}
      {cell : Cell} : engine.virtualTable name aliasName = .ok (table, data) →
      engine.evaluator.selectRows table (query.filter.getD Evaluator.everyRow) query.orderBy
        query.limit = .ok picked → row ∈ picked →
      query.assignments = earlier ++ assignment :: later →
      table.resolve assignment.column = .ok place →
      (∀ other ∈ later, table.resolve other.column ≠ .ok place) →
      engine.evaluator.value (.ofRow table row.cells) assignment.value = .ok cell →
      Writes engine name aliasName (.update query) row.ordinal place cell
  | insert {query : InsertQuery} {table : Table} {header : List Datum}
      {raw : List (List Datum)} {index : Nat} {exprs : List Expr} {cells : List Cell}
      {place : Nat} {cell : Cell} :
      engine.virtualTable name aliasName = .ok (table, header :: raw) →
      query.rows[index]? = some exprs →
      engine.evaluator.values .constant exprs = .ok cells →
      Puts table cells query.columns place cell →
      Writes engine name aliasName (.insert query) (raw.length + index) place cell

namespace Engine

variable {State : Type} {engine : Engine State} {name : String} {aliasName : Option String}
  {withMetadata : Bool} {before after : Session State} {result : MutationResult}
  {ordinal place : Nat} {cell : Cell}

theorem foundAgain_of_update {query : UpdateQuery} (storable : cell.IsStorable)
    (target : query.target = some ⟨name, true, aliasName⟩)
    (done : engine.run (.change (.update query)) withMetadata before =
      (.ok (.changed result), after))
    (writes : engine.Writes name aliasName (.update query) ordinal place cell) :
    ∃ data, result.data = some data ∧ FoundAgain name data ordinal place cell := by
  obtain ⟨-, rows, header, raw, picked, new, found, read, selected, -, -, data, below⟩ :=
    updatesVirtual_of_run target done
  refine ⟨header :: new, data, ?_⟩
  cases writes with
  | update tabled selects among split here final valued =>
      obtain ⟨_, _, _, found', read', rfl, rfl⟩ := virtualTable_eq_ok tabled
      cases found.symm.trans found'
      cases read.symm.trans read'
      cases selected.symm.trans selects
      obtain ⟨items, updated, -, stands, -, assigned⟩ := below.changed _ among
      obtain ⟨_, valued', written⟩ := assigned.assigned _ _ _ split _ here final
      cases valued.symm.trans valued'
      exact foundAgain_of_getElem? storable stands written

theorem foundAgain_of_insert {query : InsertQuery} (storable : cell.IsStorable)
    (target : query.target = some ⟨name, true, aliasName⟩)
    (done : engine.run (.change (.insert query)) withMetadata before =
      (.ok (.changed result), after))
    (writes : engine.Writes name aliasName (.insert query) ordinal place cell) :
    ∃ data, result.data = some data ∧ FoundAgain name data ordinal place cell := by
  obtain ⟨-, made⟩ := run_change_virtual (.insert query) target done
  cases writes with
  | @insert _ table header raw index exprs cells _ _ tabled here valued puts =>
      rw [changeVirtual, bind_eq_ok_iff] at made
      obtain ⟨_, tabled', inserted⟩ := made
      cases tabled.symm.trans tabled'
      simp only [insertVirtual, bind_eq_ok_iff] at inserted
      obtain ⟨rows, planned, inserted⟩ := inserted
      cases inserted
      refine ⟨header :: (raw ++ rows), rfl, ?_⟩
      obtain ⟨row, inRows, written⟩ := Evaluator.getElem?_planInsert planned here valued
      refine foundAgain_of_getElem? storable ?_ (written place cell puts)
      rw [List.getElem?_append_right (Nat.le_add_right ..), Nat.add_sub_cancel_left, inRows]

end Engine

/-- A cell is found again by the data that it is stored as, but for a midnight of an early
year, which never is: a condition finds it equal to what is read, on either side, and what an
UPDATE or an INSERT writes into a virtual table is found by a condition that asks its column
for it. -/
theorem foundAgain_of_isStorable {cell : Cell} (storable : cell.IsStorable) :
    (Comparison.eq.holds cell cell.readBack = .ok !cell.isEarlyDay ∧
      Comparison.eq.holds cell.readBack cell = .ok !cell.isEarlyDay) ∧
    ∀ (State : Type) (engine : Engine State) (mutation : Mutation) (name : String)
      (aliasName : Option String) (withMetadata : Bool) (before after : Session State)
      (result : MutationResult) (ordinal place : Nat),
      mutation.target = some ⟨name, true, aliasName⟩ →
      engine.run (.change mutation) withMetadata before = (.ok (.changed result), after) →
      engine.Writes name aliasName mutation ordinal place cell →
      ∃ data, result.data = some data ∧ FoundAgain name data ordinal place cell := by
  refine ⟨Cell.holds_readBack storable, ?_⟩
  intro State engine mutation name aliasName withMetadata before after result ordinal place
    target done writes
  cases mutation with
  | insert query => exact Engine.foundAgain_of_insert storable target done writes
  | update query => exact Engine.foundAgain_of_update storable target done writes
  | delete query => cases writes

/-! ### A leap day that is found again, and a day of the year 999 that is not -/

namespace Engine

def leapDay : Cell :=
  .date (.midnight ⟨2024, 2, 29, by decide⟩)

def earlyDay : Cell :=
  .date (.midnight ⟨999, 1, 1, by decide⟩)

def daysEngine : Engine Unit :=
  ⟨fun _ grid => (.ok .null, grid),
    ⟨[("days", .list [.list [.text "day"], .list [.text "now"], .list [.text "soon"]])], none,
      false, {}⟩, default⟩

def daysTable : Table :=
  .ofHeader "days" none [.text "day"] [[.text "now"], [.text "soon"]]

/-- Sets the second day. -/
def setSoon (day : Cell) : UpdateQuery where
  target := some ⟨"days", true, none⟩
  assignments := [⟨⟨none, "day"⟩, .literal day⟩]
  filter := some (equals ⟨none, "day"⟩ (.text "soon"))
  orderBy := []
  limit := none

theorem writes_setSoon (day : Cell) :
    daysEngine.Writes "days" none (.update (setSoon day)) 1 0 day := by
  have picked : daysEngine.evaluator.selectRows daysTable
      ((setSoon day).filter.getD Evaluator.everyRow) (setSoon day).orderBy (setSoon day).limit =
        .ok [⟨1, [.text "soon"]⟩] := by
    cbv
  have tabled : daysEngine.virtualTable "days" none =
      .ok (daysTable, [[.text "day"], [.text "now"], [.text "soon"]]) := rfl
  have assigns : (setSoon day).assignments = [] ++ ⟨⟨none, "day"⟩, .literal day⟩ :: [] := rfl
  have resolved : daysTable.resolve ⟨none, "day"⟩ = .ok 0 := rfl
  exact .update tabled picked List.mem_cons_self assigns resolved
    (fun _ among => absurd among List.not_mem_nil) rfl

theorem leapDay_foundAgain :
    (daysEngine.run (.change (.update (setSoon leapDay))) false (Session.start ())).1 =
      .ok (.changed ⟨.update, 1, .null, none,
        some [[.text "day"], [.text "now"], [.text "2024-02-29"]]⟩) ∧
    Comparison.eq.holds leapDay (.text "2024-02-29") = .ok true ∧
    FoundAgain "days" [[.text "day"], [.text "now"], [.text "2024-02-29"]] 1 0 leapDay := by
  have done : (daysEngine.run (.change (.update (setSoon leapDay))) false
      (Session.start ())).1 = .ok (.changed ⟨.update, 1, .null, none,
        some [[.text "day"], [.text "now"], [.text "2024-02-29"]]⟩) := by
    cbv
  obtain ⟨compared, found⟩ := foundAgain_of_isStorable
    (show leapDay.IsStorable from rfl)
  obtain ⟨data, same, again⟩ := found Unit daysEngine (.update (setSoon leapDay)) "days" none
    false _ _ _ 1 0 rfl (Prod.ext done rfl) (writes_setSoon leapDay)
  cases same
  refine ⟨done, ?_, again⟩
  exact compared.1

set_option maxRecDepth 2000 in
/-- What is written is found neither by a comparison nor by a query. -/
theorem earlyDay_not_found :
    earlyDay.IsStorable ∧
    Comparison.eq.holds earlyDay earlyDay.readBack = .ok false ∧
    Comparison.eq.holds earlyDay.readBack earlyDay = .ok false ∧
    (daysEngine.run (.change (.update (setSoon earlyDay))) false (Session.start ())).1 =
      .ok (.changed ⟨.update, 1, .null, none,
        some [[.text "day"], [.text "now"], [.text "999-01-01"]]⟩) ∧
    ((daysEngine.withTable "days" [[.text "day"], [.text "now"], [.text "999-01-01"]]).run
        (.select (starQuery (some ⟨"days", true, none⟩)
          (some (equals ⟨none, "day"⟩ earlyDay)) [] none)) false (Session.start ())).1 =
      .ok (.selected ⟨[⟨"day", "day", .string, none⟩], [], .null⟩) := by
  obtain ⟨ahead, behind⟩ := Cell.holds_readBack
    (show earlyDay.IsStorable from rfl)
  refine ⟨rfl, ahead, behind, ?_, ?_⟩
  · cbv
  · cbv

end Engine

end GridQuery
