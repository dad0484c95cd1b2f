import GridQuery.Proofs.Table.Assigned

/-!
# Rows of an INSERT

A row of VALUES has its values in the order of the columns, or those of named columns at the
places of the names.
-/

namespace GridQuery

namespace Table

theorem columnPosition_lt {table : Table} {name : String} {place : Nat}
    (found : table.columnPosition name = .ok place) : place < table.columns.length := by
  rw [columnPosition] at found
  split at found
  · next position here =>
      cases found
      obtain ⟨test, -, first⟩ := List.exists_of_findSome?_eq_some here
      exact (List.findIdx?_eq_some_iff_getElem.mp first).1
  · cases found

/-- The place of the column of a name; the first one if there is no such column. -/
def position (table : Table) (name : String) : Nat :=
  (table.columnPosition name).toOption.getD 0

end Table

/-- A row of VALUES puts a cell at a place: by its order, or as the last value for the column
of a name. -/
inductive Puts (table : Table) (cells : List Cell) : Option (List String) → Nat → Cell → Prop where
  | positional {place : Nat} {cell : Cell} : cells[place]? = some cell →
      Puts table cells none place cell
  | named {names : List String} {earlier later : List (String × Cell)} {name : String}
      {place : Nat} {cell : Cell} : names.zip cells = earlier ++ (name, cell) :: later →
      table.columnPosition name = .ok place →
      (∀ pair ∈ later, table.columnPosition pair.1 ≠ .ok place) →
      Puts table cells (some names) place cell

namespace Evaluator

variable {evaluator : Evaluator} {table : Table} {cells : List Cell} {row : List Datum}

/-- The values of a row with the places of their names, in the order in which they are set. -/
def namedPairs (table : Table) (pairs : List (String × Cell)) : List (Nat × Datum) :=
  pairs.map fun pair => (table.position pair.1, pair.2.toDatum)

theorem foldlM_set_eq_ok {pairs : List (String × Cell)} {start : List Datum}
    (done : (pairs.foldlM (fun row pair => do
      return row.set (← table.columnPosition pair.1) pair.2.toDatum) start :
        Except ValidationError (List Datum)) = .ok row) :
    (∀ pair ∈ pairs, table.columnPosition pair.1 = .ok (table.position pair.1)) ∧
      row = setAll start (namedPairs table pairs) := by
  induction pairs generalizing start with
  | nil =>
      cases done
      exact ⟨nofun, rfl⟩
  | cons pair pairs inductionHypothesis =>
      rw [List.foldlM_cons, bind_eq_ok_iff] at done
      obtain ⟨_, set, later⟩ := done
      obtain ⟨place, found, same⟩ := (bind_eq_ok_iff _ _ _).mp set
      cases same
      have here : table.position pair.1 = place := by
        rw [Table.position, found]
        rfl
      obtain ⟨known, made⟩ := inductionHypothesis later
      refine ⟨List.forall_mem_cons.mpr ⟨here ▸ found, known⟩, ?_⟩
      rw [made, namedPairs, namedPairs, List.map_cons, here]
      rfl

theorem namedRow_eq_ok {names : List String}
    (done : namedRow table names (cells.map Cell.toDatum) = .ok row) :
    (∀ pair ∈ names.zip cells, table.columnPosition pair.1 = .ok (table.position pair.1)) ∧
      row = setAll (List.replicate table.columns.length (.text ""))
        (namedPairs table (names.zip cells)) := by
  rw [namedRow] at done
  split at done
  · simp at done
  · rw [List.zip_map_right, List.foldlM_map] at done
    exact foldlM_set_eq_ok done

theorem getElem?_namedRow {names : List String} {place : Nat} {cell : Cell}
    (done : namedRow table names (cells.map Cell.toDatum) = .ok row)
    (puts : Puts table cells (some names) place cell) : row[place]? = some cell.toDatum := by
  obtain ⟨known, rfl⟩ := namedRow_eq_ok done
  cases puts with
  | @named _ earlier later name _ _ split here final =>
      rw [split] at known ⊢
      have target := known (name, cell) (by simp)
      rw [here, Except.ok.injEq] at target
      rw [namedPairs, List.map_append, List.map_cons, ← target]
      refine getElem?_setAll_last ?_ fun pair among => ?_
      · rw [List.length_replicate]
        exact Table.columnPosition_lt here
      · obtain ⟨other, inLater, rfl⟩ := List.mem_map.mp among
        intro same
        have position := known other (by simp [inLater])
        exact final other inLater (same ▸ position)

theorem getElem?_positionalRow {width place : Nat} {cell : Cell}
    (done : positionalRow (some width) (cells.map Cell.toDatum) = .ok row)
    (puts : Puts table cells none place cell) : row[place]? = some cell.toDatum := by
  cases puts with
  | positional here =>
      simp only [positionalRow] at done
      split at done
      · cases done
      · cases done
        have inside : place < (cells.map Cell.toDatum).length := by
          rw [List.length_map]
          exact (List.getElem?_eq_some_iff.mp here).1
        rw [List.getElem?_append_left inside, List.getElem?_map, here]
        rfl

/-- A row of VALUES that is inserted has the plain form of each of its values where it is
put. -/
theorem getElem?_planInsert {query : InsertQuery} {width : Nat} {rows : List (List Datum)}
    (done : evaluator.planInsert query (some table) (some width) = .ok rows) {index : Nat}
    {exprs : List Expr} (here : query.rows[index]? = some exprs)
    (valued : evaluator.values .constant exprs = .ok cells) :
    ∃ row, rows[index]? = some row ∧ ∀ place cell, Puts table cells query.columns place cell →
      row[place]? = some cell.toDatum := by
  obtain ⟨row, made, inRows⟩ := getElem?_of_mapM_eq_ok done here
  refine ⟨row, inRows, fun place cell puts => ?_⟩
  rw [valued] at made
  cases columns : query.columns with
  | none =>
      rw [columns] at made puts
      exact getElem?_positionalRow ((lift_validation_eq_ok_iff _ _).mp made) puts
  | some names =>
      rw [columns] at made puts
      exact getElem?_namedRow ((lift_validation_eq_ok_iff _ _).mp made) puts

end Evaluator

end GridQuery
