import GridQuery.Proofs.Engine.Update
import GridQuery.Proofs.Expr.Value

/-!
# UPDATEs that set constants, run twice

Values that name no column are the same in all rows and at all times of one run. Setting
them once more in a row that has them changes nothing, and without a limit a row that an
UPDATE left alone is not selected by it later, since it is as it was.
-/

namespace GridQuery

namespace Evaluator

variable {evaluator : Evaluator} {table other : Table} {assignments : List Assignment}

theorem target_congr (same : Table.SameNames other table) :
    target other = target table := by
  funext assignment
  rw [target, target, same.resolve]

/-- Values that name no column are those of any row of a table of the same names. -/
theorem assignedData_of_constant (same : Table.SameNames other table)
    (constant : ∀ assignment ∈ assignments, assignment.value.columns = []) (row later : Row) :
    evaluator.assignedData other assignments later =
      evaluator.assignedData table assignments row := by
  refine List.map_congr_left fun assignment among => ?_
  rw [assigned, assigned, same.ofRow,
    value_ofRow_of_constant (constant assignment among) table later.cells row.cells]

variable {name : String} {aliasName : Option String} {header : List Datum}
  {raw new : List (List Datum)} {condition : Expr} {picked again : List Row}

/-- A row that is selected again is one that was selected before, for one that was not is as
it was. -/
theorem selected_of_selected_again
    (selects : evaluator.Selects (.ofHeader name aliasName header raw) condition none picked)
    (selectsAgain : evaluator.Selects (.ofHeader name aliasName header new) condition none again)
    (others : ∀ ordinal, ordinal ∉ picked.map (·.ordinal) → new[ordinal]? = raw[ordinal]?)
    {row : Row} (among : row ∈ again) : ∃ earlier ∈ picked, earlier.ordinal = row.ordinal := by
  by_contra fresh
  have spared : row.ordinal ∉ picked.map (·.ordinal) := fun held =>
    fresh (List.mem_map.mp held)
  obtain ⟨items, here, cells⟩ := Table.mem_ofHeader.mp (selectsAgain.known among)
  rw [others row.ordinal spared] at here
  have pass := selectsAgain.pass row among
  rw [(Table.sameNames_ofHeader raw).ofRow] at pass
  have selected := selects.all nofun row (Table.mem_ofHeader.mpr ⟨items, here, cells⟩) pass
  exact fresh ⟨row, selected, rfl⟩

/-- Constants that are set in all rows that pass, and once more in those that pass then. -/
theorem applyUpdates_of_constant
    (constant : ∀ assignment ∈ assignments, assignment.value.columns = [])
    (selects : evaluator.Selects (.ofHeader name aliasName header raw) condition none picked)
    (selectsAgain : evaluator.Selects (.ofHeader name aliasName header new) condition none again)
    (made : new = applyUpdates header.length
      (evaluator.updatePlan (.ofHeader name aliasName header raw) assignments picked) raw) :
    applyUpdates header.length
      (evaluator.updatePlan (.ofHeader name aliasName header new) assignments again) new =
        new := by
  have names : Table.SameNames (.ofHeader name aliasName header new)
      (.ofHeader name aliasName header raw) := Table.sameNames_ofHeader raw
  have others : ∀ ordinal, ordinal ∉ picked.map (·.ordinal) →
      new[ordinal]? = raw[ordinal]? := by
    intro ordinal spared
    rw [made, getElem?_applyUpdates_of_not_mem spared]
  refine List.ext_getElem? fun ordinal => ?_
  by_cases selected : ordinal ∈ again.map (·.ordinal)
  · -- The row was selected before, so the values that are set now are there already.
    obtain ⟨row, among, rfl⟩ := List.mem_map.mp selected
    obtain ⟨earlier, amongPicked, same⟩ :=
      selected_of_selected_again selects selectsAgain others among
    obtain ⟨items, here, -⟩ := Table.mem_ofHeader.mp (selects.known amongPicked)
    have set : new[row.ordinal]? = some (assignRow header.length
        (assignments.map (target (.ofHeader name aliasName header raw)))
        (evaluator.assignedData (.ofHeader name aliasName header raw) assignments earlier)
        items) := by
      rw [made, ← same, getElem?_applyUpdates_of_mem selects.distinct amongPicked here]
    rw [getElem?_applyUpdates_of_mem selectsAgain.distinct among set, target_congr names,
      assignedData_of_constant names constant earlier, assignRow_assignRow, set]
  · exact getElem?_applyUpdates_of_not_mem selected

end Evaluator

namespace Engine

variable {State : Type} {engine : Engine State} {name : String} {aliasName : Option String}

/-- An UPDATE that sets constants and has no limit makes nothing else of its own data, when
it is run at the same time. -/
theorem rerun_of_constant {query : UpdateQuery} {withMetadata : Bool}
    {before after : Session State} {first : MutationResult}
    (target : query.target = some ⟨name, true, aliasName⟩)
    (constant : ∀ assignment ∈ query.assignments, assignment.value.columns = [])
    (unlimited : query.limit = none)
    (done : engine.run (.change (.update query)) withMetadata before =
      (.ok (.changed first), after)) :
    ∃ data, first.data = some data ∧
      ∀ (OtherState : Type) (other : Engine OtherState) (withMetadata : Bool)
        (before after : Session OtherState) (second : MutationResult),
        other.evaluator = engine.evaluator →
        other.workspace.virtualRows name = .ok (data.map .list) →
        other.run (.change (.update query)) withMetadata before =
          (.ok (.changed second), after) →
        second.data = some data := by
  obtain ⟨-, rows, header, raw, picked, -, -, selected, -, data, -⟩ :=
    run_update_virtual target done
  refine ⟨_, data, fun OtherState other withMetadata before after second sameEvaluator held
    doneAgain => ?_⟩
  obtain ⟨-, rowsAgain, headerAgain, rawAgain, again, found, read, selectedAgain, -, dataAgain,
    -⟩ := run_update_virtual target doneAgain
  cases held.symm.trans found
  cases (mapM_rowItems_list _).symm.trans read
  rw [sameEvaluator] at selectedAgain dataAgain
  rw [unlimited] at selected selectedAgain
  rw [dataAgain, Evaluator.applyUpdates_of_constant constant
    (Evaluator.selects_of_selectRows selected) (Evaluator.selects_of_selectRows selectedAgain) rfl]

/-! ### Ants that become cows, and are ants no more -/

def makeCows : UpdateQuery where
  target := some ⟨"zoo", true, none⟩
  assignments := [⟨⟨none, "animal"⟩, .changeCase .lower (.literal (.text "COW"))⟩,
    ⟨⟨none, "legs"⟩, .literal (.int 4)⟩]
  filter := some isAnt
  orderBy := []
  limit := none

def cowData : List (List Datum) :=
  [[.text "animal", .text "legs"], [.text "cow", .int 4], [.text "bee"], [.text "cow", .int 4]]

set_option maxRecDepth 2000 in
theorem makeCows_rerun :
    (zooEngine.run (.change (.update makeCows)) false (Session.start ())).1 =
      .ok (.changed ⟨.update, 2, .null, none, some cowData⟩) ∧
    ∃ second, ((zooEngine.withTable "zoo" cowData).run (.change (.update makeCows)) false
        (Session.start ())).1 = .ok (.changed second) ∧
      second.count = 0 ∧ second.data = some cowData := by
  have done : (zooEngine.run (.change (.update makeCows)) false (Session.start ())).1 =
      .ok (.changed ⟨.update, 2, .null, none, some cowData⟩) := by
    cbv
  have again : ((zooEngine.withTable "zoo" cowData).run (.change (.update makeCows)) false
      (Session.start ())).1 =
        .ok (.changed ⟨.update, 0, .null, some "No rows matched WHERE clause", some cowData⟩) := by
    cbv
  have target : makeCows.target = some ⟨"zoo", true, none⟩ := rfl
  have constant : ∀ assignment ∈ makeCows.assignments, assignment.value.columns = [] := by
    intro assignment among
    simp only [makeCows, List.mem_cons, List.not_mem_nil, or_false] at among
    rcases among with rfl | rfl <;> rfl
  obtain ⟨data, same, rerun⟩ :=
    rerun_of_constant target constant rfl (Prod.ext done rfl)
  cases same
  exact ⟨done, _, again, rfl,
    rerun Unit (zooEngine.withTable "zoo" cowData) false (Session.start ()) _ _ rfl rfl
      (Prod.ext again rfl)⟩

end Engine

end GridQuery
