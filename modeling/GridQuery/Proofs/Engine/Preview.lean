import GridQuery.Proofs.Engine.Step
import GridQuery.Proofs.Mutation
import GridQuery.Proofs.Select.Star
import GridQuery.Proofs.Table.Virtual
import Mathlib

/-!
# What a DELETE removes from a virtual table

A query for all columns with the condition, the order and the limit of a DELETE shows the
rows that the DELETE removes.
-/

namespace GridQuery

namespace Engine

variable {State : Type} {engine : Engine State} {name : String} {aliasName : Option String}

theorem loadTable_virtual {rows : List Datum} {table : Table}
    (found : engine.workspace.virtualRows name = .ok rows)
    (made : Table.ofVirtual name rows aliasName = .ok table) :
    engine.loadTable (some ⟨name, true, aliasName⟩) = pure table := by
  simp only [loadTable, found, made]
  rfl

/-- A query of a virtual table asks nothing of the grid. -/
theorem run_select_virtual {query : SelectQuery} {rows : List Datum} {table : Table}
    (source : query.source = some ⟨name, true, aliasName⟩) (joins : query.joins = [])
    (found : engine.workspace.virtualRows name = .ok rows)
    (made : Table.ofVirtual name rows aliasName = .ok table) (withMetadata : Bool)
    (session : Session State) :
    engine.run (.select query) withMetadata session =
      ((engine.evaluator.select query table).map .selected, session) := by
  have sole : engine.soleRange query = .ok none := by
    rw [soleRange, source, joins]
    rfl
  have evaluated : engine.evaluate query session =
      (engine.evaluator.select query table, session) := by
    rw [evaluate, source, joins, loadTable_virtual found made]
    rfl
  have answered : engine.answer query none session =
      (engine.evaluator.select query table, session) := evaluated
  rw [run, Step.bind_apply, select, sole, Step.bind_apply, Step.liftM_apply]
  simp only [Step.bind_apply, answered]
  cases engine.evaluator.select query table with
  | error error => rfl
  | ok shown => cases withMetadata <;> rfl

/-- A change of a virtual table asks nothing of the grid. -/
theorem run_change_virtual (mutation : Mutation) {withMetadata : Bool}
    {before after : Session State} {result : MutationResult}
    (target : mutation.target = some ⟨name, true, aliasName⟩)
    (done : engine.run (.change mutation) withMetadata before = (.ok (.changed result), after)) :
    after = before ∧ engine.changeVirtual mutation name aliasName = .ok result := by
  obtain ⟨_, _, changed, returned⟩ := (Step.bind_eq_ok_iff _ _ _ _ _).mp done
  cases returned
  rw [change, target] at changed
  exact ((Step.liftM_eq_ok_iff _ _ _ _).mp changed).symm

theorem virtualTable_eq_ok {table : Table} {data : List (List Datum)}
    (done : engine.virtualTable name aliasName = .ok (table, data)) :
    ∃ rows header raw, engine.workspace.virtualRows name = .ok rows ∧
      rows.mapM Datum.rowItems = .ok (header :: raw) ∧ data = header :: raw ∧
      table = Table.ofHeader name aliasName header raw := by
  rw [virtualTable] at done
  cases found : engine.workspace.virtualRows name with
  | error cause =>
      rw [found] at done
      cases done
  | ok rows =>
      rw [found] at done
      obtain ⟨items, read, done⟩ := (bind_eq_ok_iff _ _ _).mp done
      obtain ⟨_, whole, same⟩ := (bind_eq_ok_iff _ _ _).mp done
      cases same
      cases data with
      | nil => cases whole
      | cons header raw =>
          cases (Table.ofVirtual_eq (mapM_rowItems_list (header :: raw))).symm.trans whole
          exact ⟨rows, header, raw, rfl, (lift_data_eq_ok_iff _ _).mp read, rfl, rfl⟩

theorem run_delete_virtual {filter : Option Expr} {orderBy : List OrderKey}
    {limit : Option Nat} {withMetadata : Bool} {before after : Session State}
    {result : MutationResult}
    (done : engine.run (.change (.delete ⟨some ⟨name, true, aliasName⟩, filter, orderBy, limit⟩))
      withMetadata before = (.ok (.changed result), after)) :
    ∃ rows header raw picked,
      engine.workspace.virtualRows name = .ok rows ∧
      rows.mapM Datum.rowItems = .ok (header :: raw) ∧
      engine.evaluator.selectRows (Table.ofHeader name aliasName header raw)
        (filter.getD Evaluator.everyRow) orderBy limit = .ok picked ∧
      result.count = picked.length ∧
      result.data = some (header :: removeRows (picked.map (·.ordinal)) raw) := by
  obtain ⟨-, made⟩ := run_change_virtual (.delete _) rfl done
  rw [changeVirtual, bind_eq_ok_iff] at made
  obtain ⟨⟨_, _⟩, tabled, deleted⟩ := made
  obtain ⟨rows, header, raw, found, read, rfl, rfl⟩ := virtualTable_eq_ok tabled
  simp only [deleteVirtual, bind_eq_ok_iff] at deleted
  obtain ⟨ordinals, planned, deleted⟩ := deleted
  obtain ⟨picked, selected, rfl⟩ := Evaluator.planDelete_eq_ok planned
  cases deleted
  exact ⟨rows, header, raw, picked, found, read, selected, List.length_map _, rfl⟩

/-- The engine over one virtual table in the place of all others. -/
def withTable (engine : Engine State) (name : String) (data : List (List Datum)) :
    Engine State :=
  { engine with
    workspace := { engine.workspace with tables := [(name, .list (data.map .list))] } }

/-- The rows that stay after a DELETE without a limit do not pass its condition. -/
theorem filterRows_removeRows {evaluator : Evaluator} {condition : Expr}
    {orderBy : List OrderKey} {header : List Datum} {raw : List (List Datum)}
    {picked : List Row}
    (selected : evaluator.selectRows (Table.ofHeader name aliasName header raw) condition orderBy
      none = .ok picked) :
    evaluator.filterRows (Table.ofHeader name aliasName header
      (removeRows (picked.map (·.ordinal)) raw)) condition = .ok [] := by
  obtain ⟨_, _, _, _, filtered, ordered, rfl⟩ := Evaluator.selectRows_eq_ok selected
  obtain ⟨passes, each, rfl⟩ := filterM_eq_ok filtered
  have fails (row : Row) (among : row ∈ (Table.ofHeader name aliasName header (removeRows
      (picked.map (·.ordinal)) raw)).rows) :
      evaluator.holds (.ofRow (Table.ofHeader name aliasName header (removeRows
        (picked.map (·.ordinal)) raw)) row.cells) condition = .ok false := by
    have here := Table.mem_numbered.mp among
    rw [List.getElem?_map] at here
    obtain ⟨items, kept, cells⟩ := Option.map_eq_some_iff.mp here
    obtain ⟨ordinal, stood, stays⟩ := mem_removeRows (List.mem_of_getElem? kept)
    have old : (⟨ordinal, row.cells⟩ : Row) ∈ (Table.ofHeader name aliasName header raw).rows := by
      refine Table.mem_numbered.mpr ?_
      rw [List.getElem?_map, stood, ← cells]
      rfl
    rw [(Table.sameNames_ofHeader raw).ofRow, each _ old]
    cases passed : passes ⟨ordinal, row.cells⟩ with
    | false => rfl
    | true =>
        -- Had it passed, it would be among the rows that go.
        have goes := (Evaluator.sortRows_perm ordered).mem_iff.mpr
          (List.mem_filter.mpr ⟨old, passed⟩)
        have place : ordinal ∈ picked.map (·.ordinal) := List.mem_map_of_mem goes
        exact absurd place stays
  have none := filterM_eq_ok_of_forall fails
  rw [List.filter_false] at none
  exact none

/-- A DELETE from a virtual table has removed the rows that a query of it shows: as many,
and in any order the same rows of cells. All other rows stay as they were, in their order,
and the query without a limit shows none of them. -/
def RemovesShown (engine : Engine State) (name : String) (query : SelectQuery)
    (deleted : MutationResult) (shown : SelectResult) : Prop :=
  ∃ rows header raw ordinals,
    engine.workspace.virtualRows name = .ok rows ∧
    rows.mapM Datum.rowItems = .ok (header :: raw) ∧
    deleted.data = some (header :: removeRows ordinals raw) ∧
    deleted.count = (removedRows ordinals raw).length ∧
    deleted.count = shown.rows.length ∧
    ((removedRows ordinals raw).map fun items =>
        Table.fit header.length (items.map Cell.ofDatum)).Perm
      (shown.rows.map (·.map (·.value))) ∧
    (query.limit = none → ∀ (withMetadata : Bool) (session : Session State),
      ∃ again, (engine.withTable name (header :: removeRows ordinals raw)).run
          (.select query) withMetadata session = (.ok (.selected again), session) ∧
        again.rows = [])

/-- What is previewed is what is deleted. -/
theorem removesShown_of_delete {condition : Expr} {orderBy : List OrderKey}
    {limit : Option Nat} (plain : ∀ key ∈ orderBy, key.expr.hasAggregate = false)
    {withMetadata : Bool} {before after before' after' : Session State}
    {deleted : MutationResult} {shown : SelectResult}
    (deletes : engine.run
      (.change (.delete ⟨some ⟨name, true, aliasName⟩, some condition, orderBy, limit⟩))
      withMetadata before = (.ok (.changed deleted), after))
    (previews : engine.run
      (.select (starQuery (some ⟨name, true, aliasName⟩) (some condition) orderBy limit))
      withMetadata before' = (.ok (.selected shown), after')) :
    engine.RemovesShown name
      (starQuery (some ⟨name, true, aliasName⟩) (some condition) orderBy limit)
      deleted shown := by
  obtain ⟨rows, header, raw, picked, found, read, selected, count, data⟩ :=
    run_delete_virtual deletes
  have made : Table.ofVirtual name rows aliasName =
      .ok (Table.ofHeader name aliasName header raw) := Table.ofVirtual_eq read
  rw [run_select_virtual rfl rfl found made] at previews
  obtain ⟨result, evaluated, same⟩ := (map_eq_ok_iff _ _ _).mp (congrArg Prod.fst previews)
  cases same
  obtain ⟨columns, passing, sorted, shows, checked, filtered, ordered, cells⟩ :=
    Evaluator.select_star_eq_ok plain (fun _ => Table.length_cells_ofHeader) evaluated
  have chosen := Evaluator.selectRows_subperm selected
  have removed := cells_perm_removedRows chosen
  have sameRows : picked = page 0 limit sorted := by
    obtain ⟨_, _, _, _, filtered', ordered', rfl⟩ := Evaluator.selectRows_eq_ok selected
    cases filtered.symm.trans filtered'
    cases ordered.symm.trans ordered'
    rfl
  have sizes : picked.length = (removedRows (picked.map (·.ordinal)) raw).length := by
    have := removed.length_eq
    simpa using this
  refine ⟨rows, header, raw, picked.map (·.ordinal), found, read, data, ?_, ?_, ?_, ?_⟩
  · rw [count, sizes]
  · have shownSize := congrArg List.length cells
    rw [List.length_map, List.length_map, ← sameRows] at shownSize
    rw [count, shownSize]
  · rw [cells, ← sameRows]
    exact removed.symm
  · intro unlimited withMetadata session
    have nothing : limit = none := unlimited
    subst nothing
    have names : Table.SameNames (Table.ofHeader name aliasName header
        (removeRows (picked.map (·.ordinal)) raw)) (Table.ofHeader name aliasName header raw) :=
      Table.sameNames_ofHeader raw
    have showsAgain : OutputColumn.ofItems (Table.ofHeader name aliasName header
        (removeRows (picked.map (·.ordinal)) raw)) [.star none] = .ok columns := by
      rw [names.ofItems_star, shows]
    obtain ⟨again, evaluatedAgain, none⟩ := Evaluator.select_star_of_none plain showsAgain
      (by rw [names.checkQuery]; exact checked) (filterRows_removeRows selected)
    refine ⟨again, ?_, none⟩
    have kept : (engine.withTable name (header :: removeRows (picked.map (·.ordinal))
        raw)).workspace.virtualRows name =
          .ok ((header :: removeRows (picked.map (·.ordinal)) raw).map .list) := by
      simp [withTable, Workspace.virtualRows]
    rw [run_select_virtual rfl rfl kept (Table.ofVirtual_eq (mapM_rowItems_list _))]
    exact congrArg (fun outcome => (outcome.map StatementResult.selected, session)) evaluatedAgain

/-! ### A table of animals, one of them twice and one in a short row -/

def zooEngine : Engine Unit :=
  ⟨fun _ grid => (.ok .null, grid),
    ⟨[("zoo", .list [.list [.text "animal", .text "legs"], .list [.text "ant", .int 6],
      .list [.text "bee"], .list [.text "ant", .int 6]])], none, false, {}⟩, default⟩

def isAnt : Expr :=
  .condition (.compare .eq) (.column ⟨none, "animal"⟩) (.literal (.text "ant"))

def ant : List ResultCell := [⟨.text "ant", none⟩, ⟨.int 6, none⟩]

set_option maxRecDepth 2000 in
theorem zoo_removesShown :
    zooEngine.RemovesShown "zoo" (starQuery (some ⟨"zoo", true, none⟩) (some isAnt) [] none)
      ⟨.delete, 2, .null, none, some [[.text "animal", .text "legs"], [.text "bee"]]⟩
      ⟨[⟨"animal", "animal", .string, none⟩, ⟨"legs", "legs", .number, none⟩], [ant, ant],
        .null⟩ := by
  have deletes : (zooEngine.run (.change (.delete ⟨some ⟨"zoo", true, none⟩, some isAnt, [],
      none⟩)) false (Session.start ())).1 =
        .ok (.changed ⟨.delete, 2, .null, none,
          some [[.text "animal", .text "legs"], [.text "bee"]]⟩) := by
    cbv
  have previews : (zooEngine.run (.select (starQuery (some ⟨"zoo", true, none⟩) (some isAnt) []
      none)) false (Session.start ())).1 =
        .ok (.selected ⟨[⟨"animal", "animal", .string, none⟩, ⟨"legs", "legs", .number, none⟩],
          [ant, ant], .null⟩) := by
    cbv
  exact removesShown_of_delete (fun _ membership => by cases membership)
    (Prod.ext deletes rfl) (Prod.ext previews rfl)

end Engine

end GridQuery
