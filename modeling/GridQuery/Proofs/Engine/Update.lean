import GridQuery.Proofs.Engine.Preview
import GridQuery.Proofs.Table.Assigned

/-!
# What an UPDATE makes of a virtual table

An UPDATE selects rows first, then finds the values of all its assignments in all of them,
and only then writes. So what a row becomes is told by the row alone, and a row that is not
selected stays as it was.
-/

namespace GridQuery

/-- Rows that a condition selects from a table: none that does not pass, and up to a limit
all that do. -/
structure Evaluator.Selects (evaluator : Evaluator) (table : Table) (condition : Expr)
    (limit : Option Nat) (picked : List Row) : Prop where
  distinct : (picked.map (·.ordinal)).Nodup
  known : picked ⊆ table.rows
  pass : ∀ row ∈ picked, evaluator.holds (.ofRow table row.cells) condition = .ok true
  all : (∀ count, limit = some count → picked.length < count) → ∀ row ∈ table.rows,
    evaluator.holds (.ofRow table row.cells) condition = .ok true → row ∈ picked
  bounded : ∀ count, limit = some count → picked.length ≤ count

/-- The rows below a header after assignments in some of the rows of their table. -/
structure UpdatedBelow (evaluator : Evaluator) (table : Table) (assignments : List Assignment)
    (picked : List Row) (raw new : List (List Datum)) : Prop where
  size : new.length = raw.length
  resolves : ∀ assignment ∈ assignments, ∃ place < table.columns.length,
    table.resolve assignment.column = .ok place
  others : ∀ ordinal, ordinal ∉ picked.map (·.ordinal) → new[ordinal]? = raw[ordinal]?
  changed : ∀ row ∈ picked, ∃ before after, raw[row.ordinal]? = some before ∧
    new[row.ordinal]? = some after ∧
    row.cells = Table.fit table.columns.length (before.map Cell.ofDatum) ∧
    AssignedRow evaluator table assignments row.cells before after

namespace Table

variable {name : String} {aliasName : Option String} {header : List Datum}
  {raw : List (List Datum)} {row : Row}

/-- A row of a virtual table has the cells of the data at its place. -/
theorem mem_ofHeader : row ∈ (ofHeader name aliasName header raw).rows ↔
    ∃ items, raw[row.ordinal]? = some items ∧
      row.cells = fit header.length (items.map Cell.ofDatum) := by
  refine mem_numbered.trans ?_
  rw [List.getElem?_map, Option.map_eq_some_iff]
  exact exists_congr fun items => and_congr_right fun _ => eq_comm

end Table

namespace Evaluator

variable {evaluator : Evaluator} {name : String} {aliasName : Option String}
  {header : List Datum} {raw : List (List Datum)} {condition : Expr} {orderBy : List OrderKey}
  {limit : Option Nat} {picked : List Row}

theorem length_page (limit : Option Nat) (items : List Row) :
    (page 0 limit items).length = limit.elim items.length (min · items.length) := by
  cases limit with
  | none => rfl
  | some count => exact List.length_take

theorem selects_of_selectRows
    (done : evaluator.selectRows (.ofHeader name aliasName header raw) condition orderBy limit =
      .ok picked) :
    evaluator.Selects (.ofHeader name aliasName header raw) condition limit picked := by
  have chosen := selectRows_subperm done
  obtain ⟨_, _, _, sorted, filtered, ordered, rfl⟩ := selectRows_eq_ok done
  obtain ⟨passes, each, rfl⟩ := filterM_eq_ok filtered
  have passing (row : Row) : row ∈ sorted ↔
      row ∈ (Table.ofHeader name aliasName header raw).rows ∧ passes row = true :=
    (sortRows_perm ordered).mem_iff.trans List.mem_filter
  have size := length_page limit sorted
  constructor
  case distinct => exact Table.nodup_of_subperm_numbered chosen
  case known => exact chosen.subset
  case pass =>
    intro row among
    obtain ⟨inTable, passed⟩ := (passing row).mp ((page_sublist 0 limit sorted).subset among)
    rw [each row inTable, passed]
  case all =>
    intro short row inTable holds
    rw [each row inTable, Except.ok.injEq] at holds
    have inSorted := (passing row).mpr ⟨inTable, holds⟩
    cases limit with
    | none => exact inSorted
    | some count =>
        have few := short count rfl
        rw [size, Option.elim_some] at few
        rwa [page, List.drop_zero, List.take_of_length_le (by omega)]
  case bounded =>
    rintro count rfl
    rw [size]
    exact Nat.min_le_left count sorted.length

theorem updatedBelow_applyUpdates {assignments : List Assignment}
    (selects : evaluator.Selects (.ofHeader name aliasName header raw) condition limit picked)
    (resolved : ∀ assignment ∈ assignments,
      (Table.ofHeader name aliasName header raw).resolve assignment.column =
        .ok (target (.ofHeader name aliasName header raw) assignment))
    (valued : ∀ row ∈ picked, ∀ assignment ∈ assignments,
      evaluator.value (.ofRow (.ofHeader name aliasName header raw) row.cells) assignment.value =
        .ok (evaluator.assigned (.ofHeader name aliasName header raw) row assignment)) :
    UpdatedBelow evaluator (.ofHeader name aliasName header raw) assignments picked raw
      (applyUpdates header.length
        (evaluator.updatePlan (.ofHeader name aliasName header raw) assignments picked) raw) := by
  constructor
  case size => simp [applyUpdates]
  case resolves =>
    intro assignment among
    exact ⟨_, Table.resolve_lt (resolved assignment among), resolved assignment among⟩
  case others => exact fun _ => getElem?_applyUpdates_of_not_mem
  case changed =>
    intro row among
    obtain ⟨items, here, cells⟩ := Table.mem_ofHeader.mp (selects.known among)
    have assigned := assignedRow_assignRow resolved (valued row among) items
    rw [Table.length_columns_ofHeader] at assigned
    exact ⟨items, _, here, getElem?_applyUpdates_of_mem selects.distinct among here,
      by rwa [Table.length_columns_ofHeader], assigned⟩

end Evaluator

namespace Engine

variable {State : Type} {engine : Engine State} {name : String} {aliasName : Option String}

theorem run_update_virtual {query : UpdateQuery} {withMetadata : Bool}
    {before after : Session State} {result : MutationResult}
    (target : query.target = some ⟨name, true, aliasName⟩)
    (done : engine.run (.change (.update query)) withMetadata before =
      (.ok (.changed result), after)) :
    after = before ∧ ∃ rows header raw picked,
      engine.workspace.virtualRows name = .ok rows ∧
      rows.mapM Datum.rowItems = .ok (header :: raw) ∧
      engine.evaluator.selectRows (.ofHeader name aliasName header raw)
        (query.filter.getD Evaluator.everyRow) query.orderBy query.limit = .ok picked ∧
      result.count = picked.length ∧
      result.data = some (header :: applyUpdates header.length (engine.evaluator.updatePlan
        (.ofHeader name aliasName header raw) query.assignments picked) raw) ∧
      (∀ assignment ∈ query.assignments,
        (Table.ofHeader name aliasName header raw).resolve assignment.column =
          .ok (Evaluator.target (.ofHeader name aliasName header raw) assignment)) ∧
      ∀ row ∈ picked, ∀ assignment ∈ query.assignments,
        engine.evaluator.value (.ofRow (.ofHeader name aliasName header raw) row.cells)
          assignment.value =
            .ok (engine.evaluator.assigned (.ofHeader name aliasName header raw) row
              assignment) := by
  obtain ⟨kept, made⟩ := run_change_virtual (.update query) target done
  rw [changeVirtual, bind_eq_ok_iff] at made
  obtain ⟨⟨_, _⟩, tabled, updated⟩ := made
  obtain ⟨rows, header, raw, found, read, rfl, rfl⟩ := virtualTable_eq_ok tabled
  simp only [updateVirtual, bind_eq_ok_iff] at updated
  obtain ⟨plan, planned, updated⟩ := updated
  obtain ⟨picked, selected, rfl, resolved, valued⟩ := Evaluator.planUpdate_eq_ok planned
  cases updated
  refine ⟨kept, rows, header, raw, picked, found, read, selected, List.length_map _, ?_,
    resolved, valued⟩
  rw [virtualResult, Table.length_columns_ofHeader]
  rfl

/-- The result of an UPDATE of a virtual table: the header as it was, and the rows below it
with all assignments made in the selected ones, each in what the row was before. -/
def UpdatesVirtual (engine : Engine State) (query : UpdateQuery) (name : String)
    (aliasName : Option String) (result : MutationResult) : Prop :=
  ∃ rows header raw picked new,
    engine.workspace.virtualRows name = .ok rows ∧
    rows.mapM Datum.rowItems = .ok (header :: raw) ∧
    engine.evaluator.selectRows (.ofHeader name aliasName header raw)
      (query.filter.getD Evaluator.everyRow) query.orderBy query.limit = .ok picked ∧
    engine.evaluator.Selects (.ofHeader name aliasName header raw)
      (query.filter.getD Evaluator.everyRow) query.limit picked ∧
    result.count = picked.length ∧
    result.data = some (header :: new) ∧
    UpdatedBelow engine.evaluator (.ofHeader name aliasName header raw) query.assignments
      picked raw new

/-- An UPDATE of a virtual table assigns to the selected rows at once, and changes nothing
else. -/
theorem updatesVirtual_of_run {query : UpdateQuery} {withMetadata : Bool}
    {before after : Session State} {result : MutationResult}
    (target : query.target = some ⟨name, true, aliasName⟩)
    (done : engine.run (.change (.update query)) withMetadata before =
      (.ok (.changed result), after)) :
    after = before ∧ engine.UpdatesVirtual query name aliasName result := by
  obtain ⟨kept, rows, header, raw, picked, found, read, selected, count, data, resolved,
    valued⟩ := run_update_virtual target done
  have selects := Evaluator.selects_of_selectRows selected
  exact ⟨kept, rows, header, raw, picked, _, found, read, selected, selects, count, data,
    Evaluator.updatedBelow_applyUpdates selects resolved valued⟩

/-! ### Columns that change places, in a row that is too short and in one that is too long -/

def swapEngine : Engine Unit :=
  ⟨fun _ grid => (.ok .null, grid),
    ⟨[("pairs", .list [.list [.text "a", .text "b"], .list [.text "ant", .text "bee"],
      .list [.text "cat"], .list [.text "dog", .text "elk", .text "fox"],
      .list [.text "gnu", .text "hen"]])], none, false, {}⟩, default⟩

def isGnu : Expr :=
  .condition (.compare .eq) (.column ⟨none, "a"⟩) (.literal (.text "gnu"))

/-- Puts each column in the place of the other. What is first set is set once more. -/
def swapOthers : UpdateQuery where
  target := some ⟨"pairs", true, none⟩
  assignments := [⟨⟨none, "a"⟩, .literal (.text "ape")⟩, ⟨⟨none, "a"⟩, .column ⟨none, "b"⟩⟩,
    ⟨⟨none, "b"⟩, .column ⟨none, "a"⟩⟩]
  filter := some (.not isGnu)
  orderBy := [⟨.column ⟨none, "b"⟩, true⟩]
  limit := some 3

def swapped : MutationResult :=
  ⟨.update, 3, .null, none, some [[.text "a", .text "b"], [.text "bee", .text "ant"],
    [.null, .text "cat"], [.text "elk", .text "dog", .text "fox"],
    [.text "gnu", .text "hen"]]⟩

set_option maxRecDepth 4000 in
theorem swapOthers_updatesVirtual :
    swapEngine.run (.change (.update swapOthers)) false (Session.start ()) =
      (.ok (.changed swapped), Session.start ()) ∧
    swapEngine.UpdatesVirtual swapOthers "pairs" none swapped := by
  have done : (swapEngine.run (.change (.update swapOthers)) false (Session.start ())).1 =
      .ok (.changed swapped) := by
    cbv
  cases ran : swapEngine.run (.change (.update swapOthers)) false (Session.start ()) with
  | mk outcome after =>
      rw [ran] at done
      cases done
      obtain ⟨rfl, updates⟩ := updatesVirtual_of_run rfl ran
      exact ⟨rfl, updates⟩

end Engine

end GridQuery
