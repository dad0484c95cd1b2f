import GridQuery.Mutation
import GridQuery.Proofs.Fallible
import Mathlib.Data.List.Perm.Subperm

/-!
# The rows that a change concerns

Sorting shows each row once, whatever the keys, and a page of rows has none that was not
there before. So the rows of a change are rows of its table, none of them twice.
-/

namespace GridQuery

variable {Item Result : Type}

/-! ### Order -/

theorem filterMap_getElem?_range (items : List Item) :
    (List.range items.length).filterMap (items[·]?) = items := by
  induction items with
  | nil => rfl
  | cons item items inductionHypothesis =>
      rw [List.length_cons, List.range_succ_eq_map, List.filterMap_cons]
      simp only [List.getElem?_cons_zero, List.filterMap_map]
      congr 1

/-- Items picked at all places, in any order, are the items in another order. -/
theorem pick_perm {items : List Item} {places : List Nat}
    (all : places.Perm (List.range items.length)) : (pick items places).Perm items := by
  have picked := all.filterMap (items[·]?)
  rwa [filterMap_getElem?_range] at picked

theorem pick_map (convert : Item → Result) (items : List Item) (places : List Nat) :
    pick (items.map convert) places = (pick items places).map convert := by
  rw [pick, pick, List.map_filterMap]
  congr 1
  funext place
  exact List.getElem?_map

theorem mem_pick {items : List Item} {places : List Nat} {item : Item} :
    item ∈ pick items places ↔ ∃ place ∈ places, items[place]? = some item :=
  List.mem_filterMap

theorem pick_append (items more : List Item) {places : List Nat}
    (inside : ∀ place ∈ places, place < items.length) :
    pick (items ++ more) places = pick items places := by
  refine List.filterMap_congr fun place among => ?_
  exact List.getElem?_append_left (inside place among)

theorem pick_append_last (items : List Item) (item : Item) {places : List Nat}
    (inside : ∀ place ∈ places, place < items.length) :
    pick (items ++ [item]) (places ++ [items.length]) = pick items places ++ [item] := by
  have last : pick (items ++ [item]) [items.length] = [item] := by simp [pick]
  rw [pick, List.filterMap_append]
  exact congrArg₂ (· ++ ·) (pick_append items [item] inside) last

/-- Picking commutes with a step that goes well for all items. -/
theorem mapM_pick {Failure : Type} {step : Item → Except Failure Result} {items : List Item}
    {results : List Result} (done : items.mapM step = .ok results) (places : List Nat) :
    (pick items places).mapM step = .ok (pick results places) := by
  induction places with
  | nil => rfl
  | cons place places inductionHypothesis =>
      have even := length_of_mapM_eq_ok done
      rw [pick] at inductionHypothesis
      rw [pick, pick, List.filterMap_cons, List.filterMap_cons]
      cases here : items[place]? with
      | none =>
          have gone : results[place]? = none := by
            rw [List.getElem?_eq_none_iff] at here ⊢
            omega
          rw [gone]
          exact inductionHypothesis
      | some item =>
          obtain ⟨result, made, there⟩ := getElem?_of_mapM_eq_ok done here
          simp only [there, List.mapM_cons, made, inductionHypothesis]
          rfl

theorem sortPlaces_perm (directions : List Bool) (keys : List (List SortKey)) :
    (sortPlaces directions keys).Perm (List.range keys.length) := by
  have sorted := (List.mergeSort_perm keys.zipIdx (precedes directions)).map Prod.snd
  rwa [List.zipIdx_map_snd, ← List.range_eq_range'] at sorted

theorem sortPositions_perm {directions : List Bool} {rows : List (List Cell)} {places : List Nat}
    (done : sortPositions directions rows = .ok places) :
    places.Perm (List.range rows.length) := by
  simp only [sortPositions, bind_eq_ok_iff, pure_eq_ok, Except.ok.injEq] at done
  obtain ⟨keys, read, rfl⟩ := done
  rw [← length_of_mapM_eq_ok read]
  exact sortPlaces_perm directions keys

theorem find?_eq_some_of_unique {test : Item → Bool} {items : List Item}
    {item : Item} (among : item ∈ items) (passes : test item = true)
    (unique : ∀ other ∈ items, test other = true → other = item) :
    items.find? test = some item := by
  cases found : items.find? test with
  | none => exact absurd passes (List.find?_eq_none.mp found item among)
  | some other =>
      rw [unique other (List.mem_of_find?_eq_some found) (List.find?_some found)]

namespace Evaluator

variable {evaluator : Evaluator}

/-- Sorting shows each row once. -/
theorem sortRows_perm {keys : List OrderKey} {context : Item → Context}
    {rows sorted : List Item} (done : evaluator.sortRows keys context rows = .ok sorted) :
    sorted.Perm rows := by
  rw [sortRows] at done
  split at done
  · simp only [pure_eq_ok, Except.ok.injEq] at done
    rw [done]
  · simp only [bind_eq_ok_iff, lift_data_eq_ok_iff, pure_eq_ok, Except.ok.injEq] at done
    obtain ⟨cells, evaluated, positions, ordered, rfl⟩ := done
    apply pick_perm
    rw [← length_of_mapM_eq_ok evaluated]
    exact sortPositions_perm ordered

/-- Rows in which the keys have values are picked at the places of these in their order. -/
theorem sortRows_eq_ok_iff {keys : List OrderKey} (some : keys ≠ []) {context : Item → Context}
    {rows : List Item} {cells : Item → List Cell}
    (valued : ∀ row ∈ rows, evaluator.values (context row) (keys.map (·.expr)) = .ok (cells row))
    (sorted : List Item) :
    evaluator.sortRows keys context rows = .ok sorted ↔
      ∃ places, sortPositions (keys.map (·.descending)) (rows.map cells) = .ok places ∧
        pick rows places = sorted := by
  have keyed : keys.isEmpty = false := by simpa using some
  rw [sortRows, keyed, mapM_eq_ok_of_forall valued]
  simp

theorem page_sublist (offset : Nat) (limit : Option Nat) (items : List Item) :
    (page offset limit items).Sublist items := by
  cases limit with
  | none => exact List.drop_sublist offset items
  | some count => exact (List.take_sublist count _).trans (List.drop_sublist offset items)

/-! ### Selection -/

/-- A selection goes through three stages: the condition, the keys, the limit. -/
theorem selectRows_eq_ok {table : Table} {condition : Expr} {orderBy : List OrderKey}
    {limit : Option Nat} {picked : List Row}
    (done : evaluator.selectRows table condition orderBy limit = .ok picked) :
    table.check condition = .ok () ∧
      (∀ key ∈ orderBy, table.check key.expr = .ok ()) ∧
      ∃ passing sorted,
        evaluator.filterRows table condition = .ok passing ∧
        evaluator.sortRows orderBy (fun row => Context.ofRow table row.cells) passing =
          .ok sorted ∧
        picked = page 0 limit sorted := by
  simp only [selectRows, bind_eq_ok_iff, lift_validation_eq_ok_iff, pure_eq_ok,
    Except.ok.injEq] at done
  obtain ⟨_, checked, _, keysChecked, passing, filtered, sorted, ordered, rfl⟩ := done
  refine ⟨checked, ?_, passing, sorted, filtered, ordered, rfl⟩
  simpa using forM_eq_ok_iff.mp keysChecked

/-- The rows that a selection picks are rows of the table, each at most as often as there. -/
theorem selectRows_subperm {table : Table} {condition : Expr} {orderBy : List OrderKey}
    {limit : Option Nat} {picked : List Row}
    (done : evaluator.selectRows table condition orderBy limit = .ok picked) :
    picked.Subperm table.rows := by
  obtain ⟨_, _, passing, sorted, filtered, ordered, rfl⟩ := selectRows_eq_ok done
  obtain ⟨passes, _, rfl⟩ := filterM_eq_ok filtered
  have paged : (page 0 limit sorted).Subperm sorted := (page_sublist 0 limit sorted).subperm
  have same : sorted.Subperm (table.rows.filter passes) := (sortRows_perm ordered).subperm
  exact (paged.trans same).trans List.filter_sublist.subperm

end Evaluator

end GridQuery
