import GridQuery.Proofs.Engine.Step
import GridQuery.Proofs.Grid.Change

/-!
# Runs of changes over a grid in memory

A change of a range reads the range once, plans over its table and carries the plan out
with one write. What the plan means on the sheet is what the rows are after the run.
-/

namespace GridQuery.Engine

/-- One sheet of a grid in memory changes, in the rows that a condition picks from the
table of a range of it. -/
def ChangesRange (engine : Engine MemoryGrid) (target : Option TableRef)
    (location : Location) (condition : Option Expr) (orderBy : List OrderKey)
    (limit : Option Nat) (changed : Table → List Row → SheetRows → SheetRows → Prop)
    (before after : MemoryGrid) (result : MutationResult) : Prop :=
  let headerRows := engine.workspace.settings.headerRows
  ∃ place name sheet table picked new,
    before.sheetPlace? location = some place ∧
    before.sheets[place]? = some (name, sheet) ∧
    Table.ofGrid location ((SheetRows.window location sheet).map .list) headerRows
      (target.bind (·.aliasName)) = .ok table ∧
    engine.evaluator.selectRows table (condition.getD Evaluator.everyRow) orderBy limit =
      .ok picked ∧
    (∀ row ∈ picked, row.StandsOn sheet location headerRows table.columns.length) ∧
    result.count = picked.length ∧
    changed table picked sheet new ∧
    after = { before with sheets := before.sheets.set place (name, new) }

variable {engine : Engine MemoryGrid} {grid : MemoryGrid} {session : Session MemoryGrid}

theorem readTable_start (held : engine.source = MemoryGrid.source) {location : Location}
    {aliasName : Option String} {table : Table}
    (done : engine.readTable location aliasName (Session.start grid) = (.ok table, session)) :
    ∃ place name sheet, grid.sheetPlace? location = some place ∧
      grid.sheets[place]? = some (name, sheet) ∧
      Table.ofGrid location ((SheetRows.window location sheet).map .list)
        engine.workspace.settings.headerRows aliasName = .ok table ∧
      session.grid = grid := by
  rw [readTable, Step.bind_eq_ok_iff] at done
  obtain ⟨datum, middle, read, made⟩ := done
  rw [Step.readCells_apply] at read
  simp only [Session.start, List.lookup_nil] at read
  split at read
  · next cells after asked =>
      cases read
      have replied := Step.ask_eq_ok asked
      rw [held] at replied
      obtain ⟨place, name, sheet, found, standing, rfl, same⟩ :=
        MemoryGrid.source_readRange_eq_ok replied
      have ⟨table, kept⟩ := (Step.liftM_eq_ok_iff _ _ _ _).mp made
      exact ⟨place, name, sheet, found, standing, table, by rw [kept]; exact same⟩
  · cases read

theorem changeGrid_eq_ok {State : Type} {engine : Engine State} {mutation : Mutation}
    {before after : Session State} {result : MutationResult}
    (done : engine.changeGrid mutation before = (.ok result, after)) :
    ∃ location plan middle, engine.workspace.locate mutation.target = .ok location ∧
      engine.planGrid mutation location (mutation.target.bind (·.aliasName)) before =
        (.ok plan, middle) ∧
      result.count = plan.count ∧
      (plan.call = none ∧ after = middle ∨
        ∃ call datum, plan.call = some call ∧
          engine.source call middle.grid = (.ok datum, after.grid)) := by
  rw [changeGrid, Step.bind_eq_ok_iff] at done
  obtain ⟨location, first, located, done⟩ := done
  rw [Step.bind_eq_ok_iff] at done
  obtain ⟨plan, middle, planned, done⟩ := done
  obtain ⟨found, rfl⟩ := (Step.liftM_eq_ok_iff _ _ _ _).mp located
  refine ⟨location, plan, middle, found, planned, ?_⟩
  cases wanted : plan.call with
  | none =>
      rw [carryOut, wanted] at done
      cases done
      exact ⟨rfl, .inl ⟨rfl, rfl⟩⟩
  | some call =>
      rw [carryOut, wanted] at done
      obtain ⟨datum, final, asked, done⟩ := (Step.bind_eq_ok_iff _ _ _ _ _).mp done
      cases done
      exact ⟨rfl, .inr ⟨call, datum, rfl, Step.ask_eq_ok asked⟩⟩

theorem run_change_eq_ok {State : Type} {engine : Engine State} {mutation : Mutation}
    {withMetadata : Bool} {before after : Session State} {result : MutationResult}
    (onGrid : mutation.target.any (·.isVirtual) = false)
    (done : engine.run (.change mutation) withMetadata before =
      (.ok (.changed result), after)) :
    engine.changeGrid mutation before = (.ok result, after) := by
  obtain ⟨value, middle, changed, returned⟩ := (Step.bind_eq_ok_iff _ _ _ _ _).mp done
  cases returned
  rwa [change_of_range engine onGrid] at changed

theorem call_of_updateGrid {evaluator : Evaluator} {query : UpdateQuery} {table : Table}
    {location : Location} {headerRows : Nat} {plan : GridPlan} {call : GridCall}
    (done : updateGrid evaluator query table location headerRows = .ok plan)
    (wanted : plan.call = some call) : call.isWrite = true ∧ call.location = location := by
  obtain ⟨_, _, _, _, ⟨_, nothing⟩ | asked⟩ := updateGrid_eq_ok done
  · rw [nothing] at wanted
    cases wanted
  · rw [asked] at wanted
    cases wanted
    exact ⟨rfl, rfl⟩

theorem call_of_deleteGrid {evaluator : Evaluator} {query : DeleteQuery} {table : Table}
    {location : Location} {headerRows : Nat} {plan : GridPlan} {call : GridCall}
    (done : deleteGrid evaluator query table location headerRows = .ok plan)
    (wanted : plan.call = some call) : call.isWrite = true ∧ call.location = location := by
  obtain ⟨_, _, _, ⟨_, nothing⟩ | asked⟩ := deleteGrid_eq_ok done
  · rw [nothing] at wanted
    cases wanted
  · rw [asked] at wanted
    cases wanted
    exact ⟨rfl, rfl⟩

/-- Row numbers that pass as numerals are numerals in each write. -/
theorem digitCount_of_mem_updateWrites {evaluator : Evaluator} {table : Table}
    {location : Location} {headerRows : Nat} {assignments : List Assignment}
    {picked : List Row}
    (short : (evaluator.updatePlan table assignments picked).passesNumerals location headerRows =
      false) :
    ∀ write ∈ SheetRows.updateWrites evaluator table location headerRows assignments picked,
      digitCount write.row ≤ Numeral.digitLimit := by
  intro write membership
  obtain ⟨row, chosen, _, _, rfl⟩ := SheetRows.mem_updateWrites.mp membership
  simp only [UpdatePlan.passesNumerals, Evaluator.updatePlan, List.any_map, List.any_eq_false,
    Function.comp_apply, decide_eq_true_eq, Nat.not_lt] at short
  exact short row chosen

theorem set_same {grid : MemoryGrid} {place : Nat} {sheet : String × SheetRows}
    (found : grid.sheets[place]? = some sheet) :
    { grid with sheets := grid.sheets.set place sheet } = grid := by
  obtain ⟨bound, rfl⟩ := List.getElem?_eq_some_iff.mp found
  rw [List.set_getElem_self]

/-- The rows of a sheet after a plan is carried out on it. -/
def plannedRows (plan : GridPlan) (sheet : SheetRows) : SheetRows :=
  match plan.call with
  | some call => MemoryGrid.written call sheet
  | none => sheet

/-- A change that is planned over the table of a range reads the range and carries out its
plan on the range's sheet. -/
theorem run_planned_eq_ok (mutation : Mutation) (held : engine.source = MemoryGrid.source)
    {location : Location} {withMetadata : Bool} {result : MutationResult}
    {planOf : Table → Except Error GridPlan}
    (onGrid : mutation.target.any (·.isVirtual) = false)
    (located : engine.workspace.locate mutation.target = .ok location)
    (plans : engine.planGrid mutation location (mutation.target.bind (·.aliasName)) =
      (engine.readTable location (mutation.target.bind (·.aliasName)) >>= fun table =>
        liftM (planOf table)))
    (writes : ∀ table plan call, planOf table = .ok plan → plan.call = some call →
      call.isWrite = true ∧ call.location = location)
    (done : engine.run (.change mutation) withMetadata (Session.start grid) =
      (.ok (.changed result), session)) :
    ∃ place name sheet table plan,
      grid.sheetPlace? location = some place ∧
      grid.sheets[place]? = some (name, sheet) ∧
      Table.ofGrid location ((SheetRows.window location sheet).map .list)
        engine.workspace.settings.headerRows (mutation.target.bind (·.aliasName)) = .ok table ∧
      planOf table = .ok plan ∧ result.count = plan.count ∧
      session.grid =
        { grid with sheets := grid.sheets.set place (name, plannedRows plan sheet) } := by
  obtain ⟨found, plan, middle, here, planned, count, outcome⟩ :=
    changeGrid_eq_ok (run_change_eq_ok onGrid done)
  cases located.symm.trans here
  rw [plans] at planned
  obtain ⟨table, afterRead, read, made⟩ := (Step.bind_eq_ok_iff _ _ _ _ _).mp planned
  obtain ⟨planned, rfl⟩ := (Step.liftM_eq_ok_iff _ _ _ _).mp made
  obtain ⟨place, name, sheet, onPlace, standing, tabled, unchanged⟩ := readTable_start held read
  refine ⟨place, name, sheet, table, plan, onPlace, standing, tabled, planned, count, ?_⟩
  rcases outcome with ⟨nothing, rfl⟩ | ⟨call, datum, wanted, asked⟩
  · rw [plannedRows, nothing, unchanged]
    exact (set_same standing).symm
  · obtain ⟨write, same⟩ := writes table plan call planned wanted
    rw [held, unchanged] at asked
    obtain ⟨place', name', sheet', onPlace', standing', after⟩ :=
      MemoryGrid.source_write_eq_ok write asked
    rw [same, onPlace] at onPlace'
    cases onPlace'
    rw [standing] at standing'
    cases standing'
    rw [after, plannedRows, wanted]

theorem plannedRows_update {evaluator : Evaluator} {query : UpdateQuery} {location : Location}
    {headerRows : Nat} {sheet : SheetRows} {table : Table} {aliasName : Option String}
    {plan : GridPlan} {picked : List Row}
    (tabled : Table.ofGrid location ((SheetRows.window location sheet).map .list) headerRows
      aliasName = .ok table)
    (resolved : ∀ assignment ∈ query.assignments,
      table.resolve assignment.column = .ok (Evaluator.target table assignment))
    (short : (evaluator.updatePlan table query.assignments picked).passesNumerals location
      headerRows = false)
    (call : (evaluator.updatePlan table query.assignments picked).updates = [] ∧
        plan.call = none ∨
      plan.call = some (.updateCells location (cellUpdates table location headerRows
        (evaluator.updatePlan table query.assignments picked)))) :
    plannedRows plan sheet = SheetRows.applyAll sheet
      (SheetRows.updateWrites evaluator table location headerRows query.assignments picked) := by
  rcases call with ⟨nothing, noCall⟩ | asked
  · have none : picked = [] := List.map_eq_nil_iff.mp nothing
    rw [plannedRows, noCall, none]
    rfl
  · rw [plannedRows, asked, SheetRows.cellUpdates_updatePlan tabled resolved]
    exact SheetRows.foldl_applyUpdate location sheet (digitCount_of_mem_updateWrites short)

theorem plannedRows_delete {location : Location} {headerRows : Nat} {sheet : SheetRows}
    {plan : GridPlan} {picked : List Row} {width : Nat}
    (firstRow : 1 ≤ location.firstRow) (distinct : (picked.map (·.ordinal)).Nodup)
    (stand : ∀ row ∈ picked, row.StandsOn sheet location headerRows width)
    (call : picked.map (·.ordinal) = [] ∧ plan.call = none ∨
      plan.call = some (.deleteRows location
        (((picked.map (·.ordinal)).map (sheetRow location headerRows)).mergeSort
          fun left right => decide (left ≤ right)))) :
    DeletedRows location headerRows picked sheet (plannedRows plan sheet) := by
  rcases call with ⟨nothing, noCall⟩ | asked
  · have none : picked = [] := List.map_eq_nil_iff.mp nothing
    rw [plannedRows, noCall, none]
    exact (SheetRows.keepingFrom_eq_self sheet fun _ _ => rfl).symm
  · have same := List.mergeSort_perm ((picked.map (·.ordinal)).map (sheetRow location headerRows))
      fun left right => decide (left ≤ right)
    have apart : ((picked.map (·.ordinal)).map (sheetRow location headerRows)).Nodup :=
      distinct.map fun _ _ equal => Nat.add_left_cancel equal
    rw [DeletedRows, plannedRows, asked]
    refine (SheetRows.without_eq_keeping (same.nodup_iff.mpr apart) ?_ sheet).trans ?_
    · intro number membership
      rw [same.mem_iff, List.map_map] at membership
      obtain ⟨row, chosen, rfl⟩ := List.mem_map.mp membership
      exact (SheetRows.sheetRow_inside firstRow (stand row chosen)).1
    · congr 1
      funext number
      rw [same.contains_eq, List.map_map]
      rfl

/-! ### Changes hit the selected rows -/

theorem update_changesRange (held : engine.source = MemoryGrid.source) {query : UpdateQuery}
    {location : Location} {withMetadata : Bool} {result : MutationResult}
    (onGrid : query.target.any (·.isVirtual) = false)
    (located : engine.workspace.locate query.target = .ok location)
    (firstRow : 1 ≤ location.firstRow)
    (done : engine.run (.change (.update query)) withMetadata (Session.start grid) =
      (.ok (.changed result), session)) :
    engine.ChangesRange query.target location query.filter query.orderBy query.limit
      (UpdatedRows engine.evaluator location engine.workspace.settings.headerRows
        query.assignments)
      grid session.grid result := by
  obtain ⟨place, name, sheet, table, plan, onPlace, standing, tabled, planned, count, after⟩ :=
    run_planned_eq_ok (.update query) held onGrid located rfl
      (fun _ _ _ planned => call_of_updateGrid planned) done
  obtain ⟨updates, wanted, short, counted, call⟩ := updateGrid_eq_ok planned
  obtain ⟨picked, selected, rfl, resolved, valued⟩ := Evaluator.planUpdate_eq_ok wanted
  have chosen := Evaluator.selectRows_subperm selected
  have distinct := SheetRows.nodup_ordinals_of_subperm tabled chosen
  have stand : ∀ row ∈ picked, row.StandsOn sheet location
      engine.workspace.settings.headerRows table.columns.length := fun row membership =>
    SheetRows.standsOn_of_mem firstRow tabled (chosen.subset membership)
  rw [plannedRows_update tabled resolved short call] at after
  refine ⟨place, name, sheet, table, picked, _, onPlace, standing, tabled, selected, stand,
    ?_, SheetRows.updatedRows_applyAll firstRow tabled distinct stand resolved valued, after⟩
  rw [count, counted, Evaluator.updatePlan, List.length_map]

theorem delete_changesRange (held : engine.source = MemoryGrid.source) {query : DeleteQuery}
    {location : Location} {withMetadata : Bool} {result : MutationResult}
    (onGrid : query.target.any (·.isVirtual) = false)
    (located : engine.workspace.locate query.target = .ok location)
    (firstRow : 1 ≤ location.firstRow)
    (done : engine.run (.change (.delete query)) withMetadata (Session.start grid) =
      (.ok (.changed result), session)) :
    engine.ChangesRange query.target location query.filter query.orderBy query.limit
      (fun _ => DeletedRows location engine.workspace.settings.headerRows)
      grid session.grid result := by
  obtain ⟨place, name, sheet, table, plan, onPlace, standing, tabled, planned, count, after⟩ :=
    run_planned_eq_ok (.delete query) held onGrid located rfl
      (fun _ _ _ planned => call_of_deleteGrid planned) done
  obtain ⟨ordinals, wanted, counted, call⟩ := deleteGrid_eq_ok planned
  obtain ⟨picked, selected, rfl⟩ := Evaluator.planDelete_eq_ok wanted
  have chosen := Evaluator.selectRows_subperm selected
  have stand : ∀ row ∈ picked, row.StandsOn sheet location
      engine.workspace.settings.headerRows table.columns.length := fun row membership =>
    SheetRows.standsOn_of_mem firstRow tabled (chosen.subset membership)
  have deleted := plannedRows_delete firstRow
    (SheetRows.nodup_ordinals_of_subperm tabled chosen) stand call
  refine ⟨place, name, sheet, table, picked, _, onPlace, standing, tabled, selected, stand,
    ?_, deleted, after⟩
  rw [count, counted, List.length_map]

/-- A change of a range that succeeds hits the rows that its condition picks from the
range's table, at the rows and columns where they stand on the sheet, and no others. -/
theorem changesRange_of_run (held : engine.source = MemoryGrid.source) {location : Location}
    (firstRow : 1 ≤ location.firstRow) {withMetadata : Bool} {result : MutationResult} :
    (∀ query : UpdateQuery,
      query.target.any (·.isVirtual) = false →
      engine.workspace.locate query.target = .ok location →
      engine.run (.change (.update query)) withMetadata (Session.start grid) =
        (.ok (.changed result), session) →
      engine.ChangesRange query.target location query.filter query.orderBy query.limit
        (UpdatedRows engine.evaluator location engine.workspace.settings.headerRows
          query.assignments)
        grid session.grid result) ∧
    (∀ query : DeleteQuery,
      query.target.any (·.isVirtual) = false →
      engine.workspace.locate query.target = .ok location →
      engine.run (.change (.delete query)) withMetadata (Session.start grid) =
        (.ok (.changed result), session) →
      engine.ChangesRange query.target location query.filter query.orderBy query.limit
        (fun _ => DeletedRows location engine.workspace.settings.headerRows)
        grid session.grid result) :=
  ⟨fun _ onGrid located done => update_changesRange held onGrid located firstRow done,
    fun _ onGrid located done => delete_changesRange held onGrid located firstRow done⟩

/-! ### A sheet of goods, with a short row and one twice -/

def goods : MemoryGrid where
  sheets := [("Goods", [[.text "2024"], [.text "", .text "Item", .text "Count"],
    [.text "", .text "ant", .int 1], [.text "", .text "bee"],
    [.text "", .text "ant", .int 1]])]
  answers := []
  metadata := .null
  updateTime := .null
  failure := none

def goodsRange : Location := ⟨"book", "Goods!B2:C", "Goods", "B", some "C", 2, none⟩

def goodsEngine : Engine MemoryGrid :=
  ⟨MemoryGrid.source, ⟨[], some goodsRange, true, {}⟩, default⟩

/-- Sets the count of the bees, whose row is too short to have one. -/
def countBees : UpdateQuery :=
  ⟨none, [⟨⟨none, "Count"⟩, .literal (.int 7)⟩],
    some (.condition (.compare .eq) (.column ⟨none, "Item"⟩) (.literal (.text "bee"))),
    [], none⟩

/-- Removes one of the two rows of ants. -/
def removeAnt : DeleteQuery :=
  ⟨none, some (.condition (.compare .eq) (.column ⟨none, "Item"⟩) (.literal (.text "ant"))),
    [], some 1⟩

set_option maxRecDepth 2000 in
theorem goods_changesRange :
    (∃ session,
      goodsEngine.run (.change (.update countBees)) false (Session.start goods) =
        (.ok (.changed ⟨.update, 1, .null, none, none⟩), session) ∧
      goodsEngine.ChangesRange none goodsRange countBees.filter [] none
        (UpdatedRows goodsEngine.evaluator goodsRange 1 countBees.assignments)
        goods session.grid ⟨.update, 1, .null, none, none⟩) ∧
    (∃ session,
      goodsEngine.run (.change (.delete removeAnt)) false (Session.start goods) =
        (.ok (.changed ⟨.delete, 1, .null, none, none⟩), session) ∧
      goodsEngine.ChangesRange none goodsRange removeAnt.filter [] (some 1)
        (fun _ => DeletedRows goodsRange 1)
        goods session.grid ⟨.delete, 1, .null, none, none⟩) := by
  have updated :
      goodsEngine.run (.change (.update countBees)) false (Session.start goods) =
        (.ok (.changed ⟨.update, 1, .null, none, none⟩),
          (goodsEngine.run (.change (.update countBees)) false (Session.start goods)).2) :=
    Prod.ext (by cbv) rfl
  have deleted :
      goodsEngine.run (.change (.delete removeAnt)) false (Session.start goods) =
        (.ok (.changed ⟨.delete, 1, .null, none, none⟩),
          (goodsEngine.run (.change (.delete removeAnt)) false (Session.start goods)).2) :=
    Prod.ext (by cbv) rfl
  have held : goodsEngine.source = MemoryGrid.source := rfl
  have firstRow : 1 ≤ goodsRange.firstRow := by decide
  have bees := (changesRange_of_run held firstRow).1 countBees rfl rfl updated
  have ants := (changesRange_of_run held firstRow).2 removeAnt rfl rfl deleted
  exact ⟨⟨_, updated, bees⟩, ⟨_, deleted, ants⟩⟩

end GridQuery.Engine
