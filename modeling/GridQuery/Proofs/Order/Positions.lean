import GridQuery.Proofs.Order

/-!
# Positions of sorted rows

Of two positions the one comes first whose row does: at the first keys that differ, in the
direction of the key. Where no keys differ, it is the one that stands first, or last if the last
key descends. There is only one order of all positions like this, and sorting finds it.
-/

namespace GridQuery

variable {directions : List Bool} {keys others : List SortKey}

/-! ### The first keys that differ -/

/-- No keys of two rows differ. -/
def OnPar (keys others : List SortKey) : Prop :=
  List.Forall₂ (fun key other => key.order other = .eq) keys others

/-- The first keys of two rows that differ are in their direction. -/
def DiffersInOrder (directions : List Bool) (keys others : List SortKey) : Prop :=
  ∃ place descending key other, directions[place]? = some descending ∧
    keys[place]? = some key ∧ others[place]? = some other ∧
    directed descending (key.order other) = .lt ∧
    OnPar (keys.take place) (others.take place)

theorem directed_eq_eq_iff {descending : Bool} {ordering : Ordering} :
    directed descending ordering = .eq ↔ ordering = .eq := by
  rw [directed_eq_iff]
  cases descending <;> rfl

theorem differsInOrder_cons {descending : Bool} {key other : SortKey} :
    DiffersInOrder (descending :: directions) (key :: keys) (other :: others) ↔
      directed descending (key.order other) = .lt ∨
        key.order other = .eq ∧ DiffersInOrder directions keys others := by
  constructor
  · rintro ⟨_ | place, _, _, _, inDirections, inKeys, inOthers, less, level⟩
    · cases inDirections
      cases inKeys
      cases inOthers
      exact .inl less
    · obtain ⟨first, later⟩ := List.forall₂_cons.mp level
      exact .inr ⟨first, place, _, _, _, inDirections, inKeys, inOthers, less, later⟩
  · rintro (less | ⟨first, place, _, _, _, inDirections, inKeys, inOthers, less, level⟩)
    · exact ⟨0, _, _, _, rfl, rfl, rfl, less, .nil⟩
    · exact ⟨place + 1, _, _, _, inDirections, inKeys, inOthers, less, .cons first level⟩

theorem compareKeys_cons {descending : Bool} {key other : SortKey} :
    compareKeys (descending :: directions) (key :: keys) (other :: others) =
      (directed descending (key.order other)).then (compareKeys directions keys others) :=
  rfl

theorem compareKeys_eq_eq_iff (width : keys.length = directions.length)
    (otherWidth : others.length = directions.length) :
    compareKeys directions keys others = .eq ↔ OnPar keys others := by
  induction directions generalizing keys others with
  | nil =>
      obtain rfl := List.length_eq_zero_iff.mp width
      obtain rfl := List.length_eq_zero_iff.mp otherWidth
      exact ⟨fun _ => .nil, fun _ => rfl⟩
  | cons descending directions inductionHypothesis =>
      obtain ⟨key, keys, rfl⟩ := List.exists_cons_of_length_eq_add_one width
      obtain ⟨other, others, rfl⟩ := List.exists_cons_of_length_eq_add_one otherWidth
      have later := inductionHypothesis (Nat.succ.inj width) (Nat.succ.inj otherWidth)
      rw [compareKeys_cons, Ordering.then_eq_eq, directed_eq_eq_iff, later]
      simp only [OnPar, List.forall₂_cons]

theorem compareKeys_eq_lt_iff (width : keys.length = directions.length)
    (otherWidth : others.length = directions.length) :
    compareKeys directions keys others = .lt ↔ DiffersInOrder directions keys others := by
  induction directions generalizing keys others with
  | nil =>
      constructor
      · intro less
        cases less
      · rintro ⟨_, _, _, _, inDirections, -⟩
        cases inDirections
  | cons descending directions inductionHypothesis =>
      obtain ⟨key, keys, rfl⟩ := List.exists_cons_of_length_eq_add_one width
      obtain ⟨other, others, rfl⟩ := List.exists_cons_of_length_eq_add_one otherWidth
      have later := inductionHypothesis (Nat.succ.inj width) (Nat.succ.inj otherWidth)
      rw [compareKeys_cons, Ordering.then_eq_lt, directed_eq_eq_iff, later, differsInOrder_cons]

/-! ### The order of positions -/

/-- A numbered row comes before another by their keys, or where no keys differ, by their
numbers. -/
def ComesFirst (directions : List Bool) (left right : List SortKey × Nat) : Prop :=
  DiffersInOrder directions left.1 right.1 ∨
    OnPar left.1 right.1 ∧
      if directions.getLast?.getD false then right.2 < left.2 else left.2 < right.2

theorem comparePlaced_eq_lt_iff {left right : List SortKey × Nat}
    (width : left.1.length = directions.length)
    (otherWidth : right.1.length = directions.length) :
    comparePlaced directions left right = .lt ↔ ComesFirst directions left right := by
  rw [comparePlaced, Ordering.then_eq_lt, compareKeys_eq_lt_iff width otherWidth,
    compareKeys_eq_eq_iff width otherWidth, ComesFirst]
  cases directions.getLast?.getD false <;>
    simp [directed, compare_lt_iff_lt, compare_gt_iff_gt]

/-- All positions of rows of keys, each before those whose rows it comes before. -/
structure InOrder (directions : List Bool) (keys : List (List SortKey)) (places : List Nat) : Prop
    where
  all : places.Perm (List.range keys.length)
  ordered : places.Pairwise fun place other =>
    ComesFirst directions (keys.getD place [], place) (keys.getD other [], other)

variable {keyRows : List (List SortKey)} {places : List Nat}

theorem isKeyRow_getD (all : ∀ row ∈ keyRows, IsKeyRow directions row) {place : Nat}
    (inside : place < keyRows.length) : IsKeyRow directions (keyRows.getD place []) := by
  rw [List.getD_eq_getElem _ _ inside]
  exact all _ (List.getElem_mem inside)

theorem inOrder_sortPlaces (all : ∀ row ∈ keyRows, IsKeyRow directions row) :
    InOrder directions keyRows (sortPlaces directions keyRows) := by
  have perm := sortPlaces_perm directions keyRows
  have width {place : Nat} (among : place ∈ sortPlaces directions keyRows) :
      (keyRows.getD place []).length = directions.length :=
    (isKeyRow_getD all (List.mem_range.mp (perm.mem_iff.mp among))).1
  refine ⟨perm, (pairwise_sortPlaces all).imp_of_mem ?_⟩
  intro place other here there less
  exact (comparePlaced_eq_lt_iff (width here) (width there)).mp less

/-- There is only one order of all positions. -/
theorem InOrder.unique (all : ∀ row ∈ keyRows, IsKeyRow directions row)
    (ordered : InOrder directions keyRows places) {again : List Nat}
    (other : InOrder directions keyRows again) : places = again := by
  have width {place : Nat} (among : place ∈ List.range keyRows.length) :
      (keyRows.getD place []).length = directions.length :=
    (isKeyRow_getD all (List.mem_range.mp among)).1
  refine List.Perm.eq_of_pairwise ?_ ordered.ordered other.ordered
    (ordered.all.trans other.all.symm)
  intro place later here there before after
  have inPlaces := width (ordered.all.mem_iff.mp here)
  have inAgain := width (other.all.mem_iff.mp there)
  rw [← comparePlaced_eq_lt_iff inPlaces inAgain] at before
  rw [← comparePlaced_eq_lt_iff inAgain inPlaces, (orders_comparePlaced directions).swap,
    before] at after
  cases after

/-- Rows of cells as many as there are directions, none of which is not a number or fails to be
read, have one order of positions, and sorting gives it. -/
theorem sortPositions_inOrder {rows : List (List Cell)}
    (width : ∀ cells ∈ rows, cells.length = directions.length)
    (given : ∀ cells ∈ rows, ∀ cell ∈ cells, ¬ cell.isNaN)
    (read : ∀ cells ∈ rows, ∀ cell ∈ cells, ∃ key, cell.sortKey = .ok key) :
    ∃ keys, rows.mapM (fun cells => cells.mapM Cell.sortKey) = .ok keys ∧
      ∃ places, sortPositions directions rows = .ok places ∧ InOrder directions keys places ∧
        ∀ others, InOrder directions keys others → others = places := by
  obtain ⟨keys, converted⟩ : ∃ keys, rows.mapM (fun cells => cells.mapM Cell.sortKey) =
      .ok keys := exists_mapM_eq_ok fun cells among => exists_mapM_eq_ok (read cells among)
  have all : ∀ row ∈ keys, IsKeyRow directions row := by
    intro row among
    obtain ⟨cells, inRows, found⟩ := exists_of_mem_mapM converted among
    exact isKeyRow_of_cells (width cells inRows) (given cells inRows) found
  have ordered := inOrder_sortPlaces all
  refine ⟨keys, converted, sortPlaces directions keys, ?_, ordered, ?_⟩
  · rw [sortPositions, converted]
    rfl
  · intro others other
    exact other.unique all ordered

/-- Rows of two cells, of several types. -/
def mixedRows : List (List Cell) :=
  [[.text "b", .boolean false], [.null, .boolean true], [.boolean true, .boolean false],
    [.boolean true, .boolean false]]

/-- The last two rows are on a par, and so the other way round where the last key descends. -/
theorem mixedRows_inOrder :
    (∀ cells ∈ mixedRows, cells.length = [false, true].length) ∧
    (∀ cells ∈ mixedRows, ∀ cell ∈ cells, ¬ cell.isNaN) ∧
    (∀ cells ∈ mixedRows, ∀ cell ∈ cells, ∃ key, cell.sortKey = .ok key) ∧
    sortPositions [false, true] mixedRows = .ok [1, 3, 2, 0] ∧
    ∃ keys, mixedRows.mapM (fun cells => cells.mapM Cell.sortKey) = .ok keys ∧
      InOrder [false, true] keys [1, 3, 2, 0] := by
  have width : ∀ cells ∈ mixedRows, cells.length = [false, true].length := by decide
  have given : ∀ cells ∈ mixedRows, ∀ cell ∈ cells, ¬ cell.isNaN := by
    have other : ∀ cells ∈ mixedRows, ∀ cell ∈ cells, cell ≠ .number (.float .nan) := by decide
    exact other
  have read : ∀ cells ∈ mixedRows, ∀ cell ∈ cells, ∃ key, cell.sortKey = .ok key := by
    have kept : ∀ cells ∈ mixedRows, ∀ cell ∈ cells, cell.sortKey.toOption.isSome = true := by
      decide
    intro cells among cell held
    have isKept := kept cells among cell held
    cases made : cell.sortKey with
    | error fault =>
        rw [made] at isKept
        cases isKept
    | ok key => exact ⟨key, rfl⟩
  have sorted : sortPositions [false, true] mixedRows = .ok [1, 3, 2, 0] := by cbv
  obtain ⟨keys, converted, places, done, ordered, -⟩ := sortPositions_inOrder width given read
  cases sorted.symm.trans done
  exact ⟨width, given, read, sorted, keys, converted, ordered⟩

end GridQuery
