import GridQuery.Mutation
import GridQuery.Proofs.Table.Names
import GridQuery.Proofs.Table.Place

/-!
# Tables of virtual data

The table of a header and the rows below it, and what becomes of the rows when some of them
go: the others stay in their order, and those that go are known by their places.
-/

namespace GridQuery

namespace Table

variable {name : String} {aliasName : Option String} {header : List Datum}
  {raw : List (List Datum)}

theorem ofVirtual_eq {data : List Datum}
    (items : data.mapM Datum.rowItems = .ok (header :: raw)) :
    ofVirtual name data aliasName = .ok (ofHeader name aliasName header raw) := by
  cases data with
  | nil => simp at items
  | cons first rest =>
      simp only [List.mapM_cons, bind_eq_ok_iff, pure_eq_ok, Except.ok.injEq] at items
      obtain ⟨_, here, _, later, same⟩ := items
      cases same
      simp only [ofVirtual, here, later, bind_eq_ok_iff, lift_data_eq_ok_iff]
      exact ⟨header, rfl, raw, rfl, rfl⟩

theorem ofVirtual_eq_ok {data : List Datum} {table : Table}
    (made : ofVirtual name data aliasName = .ok table) :
    ∃ header raw, table = ofHeader name aliasName header raw := by
  unfold ofVirtual at made
  split at made
  · simp at made
  · simp only [bind_eq_ok_iff, lift_data_eq_ok_iff, pure_eq_ok, Except.ok.injEq] at made
    obtain ⟨header, -, raw, -, same⟩ := made
    exact ⟨header, raw, same.symm⟩

theorem length_columns_ofHeader :
    (ofHeader name aliasName header raw).columns.length = header.length := by
  simp [ofHeader]

/-- Rows below a header have its width. -/
theorem length_cells_ofHeader {row : Row}
    (membership : row ∈ (ofHeader name aliasName header raw).rows) :
    row.cells.length = (ofHeader name aliasName header raw).columns.length := by
  rw [length_columns_ofHeader]
  have found := mem_numbered.mp membership
  rw [List.getElem?_map] at found
  obtain ⟨items, _, same⟩ := Option.map_eq_some_iff.mp found
  rw [← same, fit, List.length_append, List.length_take, List.length_replicate]
  omega

theorem sameNames_ofHeader (other : List (List Datum)) :
    SameNames (ofHeader name aliasName header raw) (ofHeader name aliasName header other) := by
  constructor
  case columns =>
    simp only [ofHeader, List.map_map]
    rfl
  case source => rfl
  case joined => rfl

end Table

/-! ### Rows that go and rows that stay -/

/-- The rows below a header at the given places. -/
def removedRows (ordinals : List Nat) (rows : List (List Datum)) : List (List Datum) :=
  (rows.zipIdx.filter fun (_, ordinal) => ordinals.contains ordinal).map (·.1)

theorem mem_removeRows {ordinals : List Nat} {rows : List (List Datum)} {row : List Datum}
    (membership : row ∈ removeRows ordinals rows) :
    ∃ ordinal, rows[ordinal]? = some row ∧ ordinal ∉ ordinals := by
  obtain ⟨⟨_, ordinal⟩, kept, rfl⟩ := List.mem_map.mp membership
  obtain ⟨among, stays⟩ := List.mem_filter.mp kept
  exact ⟨ordinal, List.mem_zipIdx_iff_getElem?.mp among, by simpa using stays⟩

variable {convert : List Datum → List Cell} {rows : List (List Datum)} {picked : List Row}

theorem map_cells_filter_numbered (ordinals : List Nat) :
    ((Table.numbered (rows.map convert)).filter fun row =>
        ordinals.contains row.ordinal).map (·.cells) =
      (removedRows ordinals rows).map convert := by
  simp only [Table.numbered, removedRows, List.zipIdx_map, List.map_map, List.filter_map]
  rfl

theorem cells_perm_removedRows
    (chosen : picked.Subperm (Table.numbered (rows.map convert))) :
    (picked.map (·.cells)).Perm
      ((removedRows (picked.map (·.ordinal)) rows).map convert) := by
  rw [← map_cells_filter_numbered]
  refine List.Perm.map _ ?_
  have distinct := Table.nodup_of_subperm_numbered chosen
  have whole : (Table.numbered (rows.map convert)).Nodup := by
    refine List.Nodup.of_map (·.ordinal) ?_
    rw [Table.map_ordinal_numbered]
    exact List.nodup_range
  rw [List.perm_ext_iff_of_nodup (List.Nodup.of_map _ distinct) (whole.filter _)]
  intro row
  simp only [List.mem_filter, List.contains_iff_mem]
  constructor
  · intro membership
    exact ⟨chosen.subset membership, List.mem_map_of_mem membership⟩
  · rintro ⟨among, place⟩
    exact Table.mem_of_ordinal_mem chosen among place

end GridQuery
