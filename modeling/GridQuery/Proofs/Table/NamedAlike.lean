import GridQuery.Proofs.Table.Built

/-!
# Names of columns in an INSERT

The columns that an INSERT names are searched for in their own way, without regard to the tables
that they come from. In a table that is not joined all come from one, so that no name is
ambiguous, and a name there means the column that it means in any other statement.
-/

namespace GridQuery.Table

variable {table : Table}

/-- Where columns come from one table, a name means the first of those that it can mean. -/
theorem resolve_of_owned
    (owned : ∃ owner, ∀ column ∈ table.columns, column.aliasName = owner) (name : String) :
    table.resolve ⟨none, name⟩ =
      match (firstHits (nameTests name) table.places).head? with
      | some (_, place) => .ok place
      | none => .error (.unknownColumnOf name table.describe) := by
  obtain ⟨owner, all⟩ := owned
  have ofOwner {pair : Column × Nat} (hit : pair ∈ firstHits (nameTests name) table.places) :
      pair.1.aliasName = owner :=
    all pair.1 (List.fst_mem_of_mem_zipIdx (firstHits_subset _ _ hit))
  simp only [resolve, candidates, bind, Except.bind]
  cases hits : firstHits (nameTests name) table.places with
  | nil => rfl
  | cons first rest =>
      have same : ∀ pair ∈ rest, pair.1.aliasName = first.1.aliasName := by
        intro pair among
        rw [ofOwner (hits ▸ List.mem_cons_of_mem first among),
          ofOwner (hits ▸ List.mem_cons_self)]
      simp only [all_aliasName same, if_true, List.head?_cons]
      rfl

/-- A name means the same column of a table that is not joined, or fails to mean one for the
same cause, wherever it is used. -/
theorem resolve_eq_columnPosition (built : table.Built) (unjoined : table.joined = false)
    (name : String) : table.resolve ⟨none, name⟩ = table.columnPosition name := by
  rw [resolve_of_owned (isSingle_of_unjoined built unjoined).owned, columnPosition,
    ← head?_firstHits, places]
  cases (firstHits (nameTests name) table.columns.zipIdx).head? with
  | none => rfl
  | some pair => rfl

/-! ### A range with a label that is the letter of another column -/

def soldRange : Location :=
  ⟨"book", "Sold!B:D", "Sold", "B", some "D", 1, none⟩

def crossLabelled : Table :=
  ⟨[⟨"B", "C", .string, none, true⟩, ⟨"C", "count", .number, none, true⟩,
      ⟨"D", "", .string, none, false⟩],
    [⟨0, [.text "ink", .int 3, .null]⟩], .grid soldRange, none, false,
    [.text "C", .text "count", .text ""]⟩

/-- The capital is the letter of the second column, and the small letter is first found in the
label of the first. -/
theorem crossLabelled_alike :
    crossLabelled.Built ∧ crossLabelled.joined = false ∧
      crossLabelled.resolve ⟨none, "C"⟩ = .ok 1 ∧ crossLabelled.resolve ⟨none, "c"⟩ = .ok 0 ∧
      crossLabelled.resolve ⟨none, "E"⟩ =
        .error (.unknownColumnOf "E" "range 'Sold!B:D'") := by
  have made : ofGrid soldRange
      [.list [.text "C", .text "count"], .list [.text "ink", .int 3]] 1 none =
        .ok crossLabelled := by cbv
  have built : crossLabelled.Built := .grid made
  have capital : crossLabelled.columnPosition "C" = .ok 1 := by decide +kernel
  have small : crossLabelled.columnPosition "c" = .ok 0 := by decide +kernel
  have absent : crossLabelled.columnPosition "E" =
      .error (.unknownColumnOf "E" "range 'Sold!B:D'") := by decide +kernel
  have alike := resolve_eq_columnPosition built rfl
  exact ⟨built, rfl, (alike "C").trans capital, (alike "c").trans small,
    (alike "E").trans absent⟩

end GridQuery.Table
