import GridQuery.Proofs.Fallible
import Mathlib.Data.List.Nodup
import Mathlib.Data.List.Perm.Subperm

/-!
# Rows and columns by their places

The rows of a table are numbered as they stand in its source, a reference means a column
that is there, and the columns of a range have the letters of the sheet's columns.
-/

namespace GridQuery

@[simp]
theorem mapM_rowItems_list (rows : List (List Datum)) :
    (rows.map Datum.list).mapM Datum.rowItems = .ok rows := by
  induction rows with
  | nil => rfl
  | cons row rows inductionHypothesis =>
      simp [Datum.rowItems, inductionHypothesis]

namespace Table

/-! ### Rows -/

theorem mem_numbered {rows : List (List Cell)} {row : Row} :
    row ∈ numbered rows ↔ rows[row.ordinal]? = some row.cells := by
  constructor
  · intro membership
    obtain ⟨⟨cells, ordinal⟩, found, rfl⟩ := List.mem_map.mp membership
    exact List.mem_zipIdx_iff_getElem?.mp found
  · intro found
    exact List.mem_map.mpr ⟨(row.cells, row.ordinal), List.mem_zipIdx_iff_getElem?.mpr found, rfl⟩

theorem map_ordinal_numbered (rows : List (List Cell)) :
    (numbered rows).map (·.ordinal) = List.range rows.length := by
  rw [numbered, List.map_map, List.range_eq_range', ← List.zipIdx_map_snd 0 rows]
  rfl

variable {picked : List Row} {cells : List (List Cell)}

theorem nodup_of_subperm_numbered (chosen : picked.Subperm (numbered cells)) :
    (picked.map (·.ordinal)).Nodup := by
  obtain ⟨_, same, sublist⟩ := chosen
  have distinct := (sublist.map (·.ordinal)).nodup
    (by rw [map_ordinal_numbered]; exact List.nodup_range)
  exact (same.map (·.ordinal)).nodup_iff.mp distinct

/-- Rows of a table are those at their places. -/
theorem mem_of_ordinal_mem (chosen : picked.Subperm (numbered cells)) {row : Row}
    (among : row ∈ numbered cells) (place : row.ordinal ∈ picked.map (·.ordinal)) :
    row ∈ picked := by
  obtain ⟨other, membership, same⟩ := List.mem_map.mp place
  have here := mem_numbered.mp among
  have there := mem_numbered.mp (chosen.subset membership)
  rw [same, here] at there
  have equal : other = row := by
    cases other
    cases row
    simp_all
  rwa [← equal]

/-! ### Columns -/

theorem mem_candidates {table : Table} {reference : ColumnRef} {found : List (Column × Nat)}
    (done : table.candidates reference = .ok found) : found ⊆ table.places := by
  rw [candidates] at done
  cases qualifier : reference.qualifier with
  | none =>
      simp only [qualifier, Except.ok.injEq] at done
      rw [done]
      exact List.Subset.refl found
  | some name =>
      simp only [qualifier] at done
      split at done
      · cases done
      · cases done
        exact List.filter_sublist.subset

/-- The first of the items that pass a test stands at the place that a search for it finds. -/
theorem head?_filter_zipIdx {Item : Type} (test : Item → Bool) (items : List Item) (start : Nat) :
    ((items.zipIdx start).filter fun (item, _) => test item).head?.map (·.2) =
      (items.findIdx? test).map (· + start) := by
  induction items generalizing start with
  | nil => rfl
  | cons item items inductionHypothesis =>
      rw [List.zipIdx_cons, List.filter_cons, List.findIdx?_cons]
      by_cases passes : test item = true
      · simp [passes]
      · simp only [passes, Bool.false_eq_true, if_false, Option.map_map]
        rw [inductionHypothesis (start + 1)]
        congr 1
        funext place
        exact Nat.add_right_comm place start 1

theorem findIdx?_eq_of_filter_zipIdx {Item : Type} {test : Item → Bool} {items : List Item}
    {start place : Nat} {first : Item} {rest : List (Item × Nat)}
    (hits : ((items.zipIdx start).filter fun (item, _) => test item) = (first, place) :: rest) :
    (items.findIdx? test).map (· + start) = some place := by
  rw [← head?_filter_zipIdx, hits]
  rfl

theorem firstHits_subset (tests : List (Column → Bool)) (columns : List (Column × Nat)) :
    firstHits tests columns ⊆ columns := by
  induction tests with
  | nil => exact List.nil_subset columns
  | cons test tests inductionHypothesis =>
      rw [firstHits]
      split
      · exact inductionHypothesis
      · exact List.filter_sublist.subset

/-- What passes the first test that anything passes begins at the place that the first search
with a result finds. -/
theorem head?_firstHits (tests : List (Column → Bool)) (columns : List Column) :
    (firstHits tests columns.zipIdx).head?.map (·.2) =
      tests.findSome? fun test => columns.findIdx? test := by
  induction tests with
  | nil => rfl
  | cons test tests inductionHypothesis =>
      have first := head?_filter_zipIdx test columns 0
      simp only [Nat.add_zero, Option.map_id'] at first
      rw [firstHits, List.findSome?_cons, ← first]
      cases columns.zipIdx.filter fun pair => test pair.1 with
      | nil => exact inductionHypothesis
      | cons pair rest => rfl

theorem all_aliasName {first : Column} {rest : List (Column × Nat)}
    (same : ∀ pair ∈ rest, pair.1.aliasName = first.aliasName) :
    (rest.all fun (other, _) => other.aliasName == first.aliasName) = true :=
  List.all_eq_true.mpr fun pair among => beq_iff_eq.mpr (same pair among)

/-- A column with its id is found by the first of the tests for a name. -/
theorem firstHits_of_mem {column : Column} {name : String} {columns : List (Column × Nat)}
    {place : Nat} (among : (column, place) ∈ columns)
    (called : column.id = name) :
    firstHits (nameTests name) columns = columns.filter fun (other, _) => other.id == name := by
  have hit : (column, place) ∈ columns.filter fun (other, _) => other.id == name :=
    List.mem_filter.mpr ⟨among, by simp [called]⟩
  rw [nameTests, firstHits]
  split
  · next none =>
      rw [none] at hit
      cases hit
  · rfl

theorem mem_firstHits {column : Column} {name : String} {columns : List (Column × Nat)}
    {place : Nat} (among : (column, place) ∈ columns) (called : column.id = name) :
    (column, place) ∈ firstHits (nameTests name) columns := by
  rw [firstHits_of_mem among called]
  exact List.mem_filter.mpr ⟨among, by simp [called]⟩

theorem mem_places_of_mem {table : Table} {column : Column} (among : column ∈ table.columns) :
    ∃ place, (column, place) ∈ table.places := by
  obtain ⟨place, within, found⟩ := List.mem_iff_getElem.mp among
  exact ⟨place, List.mem_zipIdx_iff_getElem?.mpr (found ▸ List.getElem?_eq_getElem within)⟩

/-- A reference means a column of the table. -/
theorem resolve_lt {table : Table} {reference : ColumnRef} {place : Nat}
    (done : table.resolve reference = .ok place) : place < table.columns.length := by
  simp only [resolve, bind_eq_ok_iff] at done
  obtain ⟨candidates, sought, chosen⟩ := done
  split at chosen
  · simp at chosen
  · next first here rest hits =>
      split at chosen
      · cases chosen
        have hit : (first, place) ∈ firstHits (nameTests reference.name) candidates := by
          rw [hits]
          exact List.mem_cons_self
        have known := mem_candidates sought (firstHits_subset _ _ hit)
        exact List.snd_lt_of_mem_zipIdx known
      · simp at chosen

/-! ### Ranges -/

theorem length_extended (labels : List String) (headers : List (List Datum)) :
    (headers.foldl (fun labels row =>
      labels.zipIdx.map fun (label, index) => extendLabel label (row.getD index .null))
      labels).length = labels.length := by
  induction headers generalizing labels with
  | nil => rfl
  | cons row headers inductionHypothesis =>
      rw [List.foldl_cons, inductionHypothesis, List.length_map, List.length_zipIdx]

theorem length_labelsOf (width : Nat) (headers : List (List Datum)) :
    (labelsOf width headers).length = width := by
  rw [labelsOf, length_extended, List.length_replicate]

/-- What the table of a range is, whatever its labels and types. -/
theorem ofGrid_eq_ok {location : Location} {rows : List (List Datum)} {headerRows : Nat}
    {aliasName : Option String} {table : Table}
    (made : ofGrid location (rows.map .list) headerRows aliasName = .ok table) :
    table.rows = numbered ((rows.drop headerRows).map fun items =>
        fit table.columns.length (items.map placeCell)) ∧
      ∀ place column, table.columns[place]? = some column →
        column.id = columnLetters (location.start + place) := by
  simp only [ofGrid, mapM_rowItems_list, bind_eq_ok_iff, lift_data_eq_ok_iff, pure_eq_ok,
    Except.ok.injEq] at made
  obtain ⟨raw, rfl, rfl⟩ := made
  refine ⟨?_, ?_⟩
  · simp only [List.length_map, List.length_zipIdx, length_labelsOf]
  · intro place column found
    simp only [List.getElem?_map, Option.map_eq_some_iff] at found
    obtain ⟨⟨label, index⟩, labelled, rfl⟩ := found
    simp only [List.getElem?_zipIdx, Option.map_eq_some_iff] at labelled
    obtain ⟨_, _, same⟩ := labelled
    cases same
    simp

/-- A row of the table of a range is what was read at its place below the header. -/
theorem getElem?_of_mem_ofGrid {location : Location} {rows : List (List Datum)}
    {headerRows : Nat} {aliasName : Option String} {table : Table}
    (made : ofGrid location (rows.map .list) headerRows aliasName = .ok table) {row : Row}
    (membership : row ∈ table.rows) :
    ∃ items, rows[headerRows + row.ordinal]? = some items ∧
      row.cells = fit table.columns.length (items.map placeCell) := by
  rw [(ofGrid_eq_ok made).1, mem_numbered, List.getElem?_map, List.getElem?_drop] at membership
  obtain ⟨items, found, same⟩ := Option.map_eq_some_iff.mp membership
  exact ⟨items, found, same.symm⟩

end Table

end GridQuery
