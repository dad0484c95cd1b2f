import GridQuery.Proofs.Order

/-!
# Groups in the order of their keys

A group has all rows whose keys are the same, as they come. The groups stand in ascending
order of their keys, and those whose keys are on a par, such as the number 5 and the text 5,
in the order in which their first rows come. Nothing but a value that an expression does not
have, or a text whose key cannot be told, keeps rows from being grouped.
-/

namespace GridQuery

/-! ### Keys in ascending order -/

/-- The order of two rows of keys, each key in ascending order. -/
def compareAscending (left right : List SortKey) : Ordering :=
  compareKeys (left.map fun _ => false) left right

/-- The place of the first row of a key. -/
def firstPlace (keyOf : Row → List Cell) (rows : List Row) (key : List Cell) : Nat :=
  rows.findIdx fun row => sameCells key (keyOf row)

/-- Whether a group of one key comes before that of another: in the order of the keys, or of
the first rows if the keys are on a par. -/
def ComesBefore (keyOf : Row → List Cell) (rows : List Row) (key other : List Cell) : Prop :=
  ∃ keys others, key.mapM Cell.sortKey = .ok keys ∧ other.mapM Cell.sortKey = .ok others ∧
    (compareAscending keys others = .lt ∨
      compareAscending keys others = .eq ∧
        firstPlace keyOf rows key < firstPlace keyOf rows other)

theorem comparePlaced_ascending {Item : Type} {items : List Item} {keys others : List SortKey}
    (width : keys.length = items.length) {place other : Nat}
    (before : comparePlaced (items.map fun _ => false) (keys, place) (others, other) = .lt) :
    compareAscending keys others = .lt ∨ compareAscending keys others = .eq ∧ place < other := by
  have directions : (items.map fun _ => false) = keys.map fun _ => false := by
    simp [List.map_const', width]
  have last : ((items.map fun _ => false).getLast?.getD false) = false := by
    rw [List.getLast?_map]
    cases items.getLast? <;> rfl
  rw [comparePlaced, last, directions, Ordering.then_eq_lt] at before
  simpa [directed, compareAscending, Nat.compare_eq_lt] using before

/-- Rows fall into groups by their keys, each into one; the groups keep the rows as they come,
and stand in the order of their keys. -/
structure PartitionsInOrder (keyOf : Row → List Cell) (rows : List Row) (groups : List Group) :
    Prop where
  whole : (groups.flatMap (·.rows)).Perm rows
  once : ∀ row ∈ rows, ∃! place : Nat, ∃ group : Group,
    groups[place]? = some group ∧ row ∈ group.rows
  asTheyCome : ∀ group ∈ groups, group.rows.Sublist rows
  together : ∀ row ∈ rows, ∀ other ∈ rows,
    (∃ group ∈ groups, row ∈ group.rows ∧ other ∈ group.rows) ↔
      sameCells (keyOf row) (keyOf other) = true
  keyed : ∀ group ∈ groups, ∃ first rest, group.rows = first :: rest ∧ group.key = keyOf first
  ordered : groups.Pairwise fun earlier later =>
    ComesBefore keyOf rows earlier.key later.key

namespace Partitions

variable {keyOf : Row → List Cell} {rows : List Row} {groups : List Group}

theorem existsUnique_place (partitions : Partitions keyOf rows groups) {row : Row}
    (among : row ∈ rows) :
    ∃! place : Nat, ∃ group : Group, groups[place]? = some group ∧ row ∈ group.rows := by
  obtain ⟨group, inGroups, met⟩ := partitions.full row among
  obtain ⟨place, found⟩ := List.getElem?_of_mem inGroups
  refine ⟨place, ⟨group, found, (partitions.mem_rows inGroups).mpr ⟨among, met⟩⟩, ?_⟩
  rintro other ⟨otherGroup, otherFound, held⟩
  have otherMet := ((partitions.mem_rows (List.mem_of_getElem? otherFound)).mp held).2
  exact partitions.place_unique otherFound found otherMet met

theorem exists_group_iff (partitions : Partitions keyOf rows groups) {row other : Row}
    (among : row ∈ rows) (otherAmong : other ∈ rows) :
    (∃ group ∈ groups, row ∈ group.rows ∧ other ∈ group.rows) ↔
      sameCells (keyOf row) (keyOf other) = true := by
  constructor
  · rintro ⟨group, inGroups, held, otherHeld⟩
    have met := ((partitions.mem_rows inGroups).mp held).2
    have otherMet := ((partitions.mem_rows inGroups).mp otherHeld).2
    exact sameness_sameCells.trans (sameness_sameCells.symm met) otherMet
  · intro same
    obtain ⟨group, inGroups, met⟩ := partitions.full row among
    refine ⟨group, inGroups, (partitions.mem_rows inGroups).mpr ⟨among, met⟩, ?_⟩
    exact (partitions.mem_rows inGroups).mpr ⟨otherAmong, sameness_sameCells.trans met same⟩

end Partitions

namespace Evaluator

variable {evaluator : Evaluator} {table : Table} {exprs : List Expr} {rows : List Row}
  {groups : List Group}

/-- A bucket has the key of its first row. -/
theorem exists_first_of_mem_bucketsOf {bucket : List Cell × List Row}
    (among : bucket ∈ evaluator.bucketsOf table exprs rows) :
    ∃ first rest, bucket.2 = first :: rest ∧ bucket.1 = evaluator.keyAt table exprs first ∧
      first ∈ rows := by
  have start : Buckets.StartWith (evaluator.bucketsOf table exprs rows) _ :=
    Buckets.startWith_ofList _
  obtain ⟨entry, inFirsts, front⟩ := List.mem_map.mp (start ▸ List.mem_map_of_mem among)
  obtain ⟨row, inRows, rfl⟩ := List.mem_map.mp (Buckets.firsts_subset _ inFirsts)
  obtain ⟨key, head⟩ := Prod.mk.inj front
  obtain ⟨rest, held⟩ := List.head?_eq_some_iff.mp head.symm
  exact ⟨row, rest, held, key.symm, inRows⟩

/-- The rows of the groups are the rows that were grouped, each as often as there. -/
theorem flatMap_groups_perm (grouping : exprs ≠ [])
    (done : evaluator.groups table rows exprs = .ok groups) :
    (groups.flatMap (·.rows)).Perm rows := by
  have held := ((groups_eq_ok grouping done).2.map Group.rows).flatten
  have put : ((evaluator.bucketsOf table exprs rows).flatMap (·.2)).Perm
      ((rows.map fun row => (evaluator.keyAt table exprs row, row)).map (·.2)) :=
    Buckets.flatMap_ofList_perm _
  rw [List.map_map, List.map_id''] at put
  · rw [List.flatMap_def]
    refine held.trans ?_
    rw [List.map_map]
    exact put
  · exact fun _ => rfl

theorem isKeyRow_of_mem_bucketsOf (valued : evaluator.Valued table rows exprs)
    (numbers : evaluator.NeverNaN table rows exprs) {bucket : List Cell × List Row}
    (among : bucket ∈ evaluator.bucketsOf table exprs rows) {keys : List SortKey}
    (read : bucket.1.mapM Cell.sortKey = .ok keys) :
    IsKeyRow (exprs.map fun _ => false) keys := by
  obtain ⟨first, -, -, key, inRows⟩ := exists_first_of_mem_bucketsOf among
  refine isKeyRow_of_cells ?_ (fun cell held => ?_) read
  · rw [key, keyAt, List.length_map, List.length_map]
  · exact not_isNaN_of_mem_keyAt valued numbers inRows (key ▸ held)

/-- Buckets stand in the order in which their first rows come. -/
theorem firstPlace_lt_of_bucketsOf (valued : evaluator.Valued table rows exprs)
    (numbers : evaluator.NeverNaN table rows exprs) {place other : Nat}
    {bucket later : List Cell × List Row}
    (found : (evaluator.bucketsOf table exprs rows)[place]? = some bucket)
    (laterFound : (evaluator.bucketsOf table exprs rows)[other]? = some later)
    (less : place < other) :
    firstPlace (evaluator.keyAt table exprs) rows bucket.1 <
      firstPlace (evaluator.keyAt table exprs) rows later.1 := by
  have came := Buckets.pairwise_findIdx_ofList sameness_sameCells
    (rows.map fun row => (evaluator.keyAt table exprs row, row)) fun entry among => by
      obtain ⟨row, inRows, rfl⟩ := List.mem_map.mp among
      exact sameCells_keyAt_self valued numbers inRows
  obtain ⟨bound, rfl⟩ := List.getElem?_eq_some_iff.mp found
  obtain ⟨otherBound, rfl⟩ := List.getElem?_eq_some_iff.mp laterFound
  have here := List.pairwise_iff_getElem.mp (List.pairwise_map.mp came) place other bound
    otherBound less
  rwa [List.findIdx_map, List.findIdx_map] at here

/-- The groups stand in the order of their keys. -/
theorem pairwise_groups (grouping : exprs ≠ []) (numbers : evaluator.NeverNaN table rows exprs)
    (done : evaluator.groups table rows exprs = .ok groups) :
    groups.Pairwise fun earlier later =>
      ComesBefore (evaluator.keyAt table exprs) rows earlier.key later.key := by
  obtain ⟨valued, places, ordered, rfl⟩ := groups_eq_pick grouping done
  simp only [sortPositions, bind_eq_ok_iff, pure_eq_ok, Except.ok.injEq] at ordered
  obtain ⟨sortKeys, read, rfl⟩ := ordered
  have all (keys : List SortKey) (among : keys ∈ sortKeys) :
      IsKeyRow (exprs.map fun _ => false) keys := by
    obtain ⟨key, inKeys, found⟩ := exists_of_mem_mapM read among
    obtain ⟨bucket, inBuckets, rfl⟩ := List.mem_map.mp inKeys
    exact isKeyRow_of_mem_bucketsOf valued numbers inBuckets found
  have keysAt {place : Nat} {bucket : List Cell × List Row}
      (found : (evaluator.bucketsOf table exprs rows)[place]? = some bucket) :
      ∃ keys, bucket.1.mapM Cell.sortKey = .ok keys ∧ sortKeys.getD place [] = keys := by
    have key : ((evaluator.bucketsOf table exprs rows).map (·.1))[place]? = some bucket.1 := by
      rw [List.getElem?_map, found, Option.map_some]
    obtain ⟨keys, keysRead, keysFound⟩ := getElem?_of_mapM_eq_ok read key
    exact ⟨keys, keysRead, by rw [List.getD_eq_getElem?_getD, keysFound, Option.getD_some]⟩
  rw [pick, List.pairwise_filterMap]
  refine (pairwise_sortPlaces all).imp fun {place other} before group found later laterFound => ?_
  rw [List.getElem?_map, Option.map_eq_some_iff] at found laterFound
  obtain ⟨bucket, found, rfl⟩ := found
  obtain ⟨laterBucket, laterFound, rfl⟩ := laterFound
  obtain ⟨keys, keysRead, rfl⟩ := keysAt found
  obtain ⟨others, othersRead, rfl⟩ := keysAt laterFound
  have keyed := isKeyRow_of_mem_bucketsOf valued numbers (List.mem_of_getElem? found) keysRead
  rw [IsKeyRow, List.length_map] at keyed
  refine ⟨_, _, keysRead, othersRead, (comparePlaced_ascending keyed.1 before).imp_right ?_⟩
  exact And.imp_right (firstPlace_lt_of_bucketsOf valued numbers found laterFound)

/-- Groups are the parts of their rows, in the order of their keys. -/
theorem partitionsInOrder_groups (grouping : exprs ≠ [])
    (numbers : evaluator.NeverNaN table rows exprs)
    (done : evaluator.groups table rows exprs = .ok groups) :
    PartitionsInOrder (evaluator.keyAt table exprs) rows groups := by
  obtain ⟨-, partitions⟩ := partitions_groups grouping numbers done
  constructor
  case whole => exact flatMap_groups_perm grouping done
  case once => exact fun row among => partitions.existsUnique_place among
  case asTheyCome =>
    intro group among
    rw [partitions.held group among]
    exact List.filter_sublist
  case together => exact fun row among other otherAmong =>
    partitions.exists_group_iff among otherAmong
  case keyed =>
    intro group among
    obtain ⟨bucket, inBuckets, rfl⟩ := List.mem_map.mp ((groups_eq_ok grouping done).2.subset among)
    obtain ⟨first, rest, listed, key, -⟩ := exists_first_of_mem_bucketsOf inBuckets
    exact ⟨first, rest, listed, key⟩
  case ordered => exact pairwise_groups grouping numbers done

/-! ### Which rows can be grouped -/

/-- Each expression has in each of some rows a value whose place in the order of sorting can be
told. -/
def Sortable (evaluator : Evaluator) (table : Table) (rows : List Row) (exprs : List Expr) :
    Prop :=
  ∀ row ∈ rows, ∀ expr ∈ exprs, ∃ cell key,
    evaluator.value (.ofRow table row.cells) expr = .ok cell ∧ cell.sortKey = .ok key

theorem exists_sortKey_of_agrees {left right : Cell} (agree : left.Agrees right) {key : SortKey}
    (read : left.sortKey = .ok key) : ∃ other, right.sortKey = .ok other := by
  rcases agree with rfl | same
  · exact ⟨key, read⟩
  · cases right with
    | text content =>
        cases left <;> simp only [Cell.sameValue, Bool.false_eq_true, beq_iff_eq] at same
        exact ⟨key, same ▸ read⟩
    | null | number _ | boolean _ | date _ => exact ⟨_, rfl⟩

/-- Rows can be grouped just if the keys of all of them can be sorted. -/
theorem exists_groups_iff (grouping : exprs ≠ []) :
    (∃ groups, evaluator.groups table rows exprs = .ok groups) ↔
      evaluator.Sortable table rows exprs := by
  constructor
  · rintro ⟨groups, done⟩ row among expr inExprs
    obtain ⟨valued, places, ordered, -⟩ := groups_eq_pick grouping done
    simp only [sortPositions, bind_eq_ok_iff, pure_eq_ok, Except.ok.injEq] at ordered
    obtain ⟨sortKeys, read, -⟩ := ordered
    obtain ⟨group, inGroups, held⟩ :=
      List.mem_flatMap.mp ((flatMap_groups_perm grouping done).symm.subset among)
    obtain ⟨bucket, inBuckets, rfl⟩ :=
      List.mem_map.mp ((groups_eq_ok grouping done).2.subset inGroups)
    obtain ⟨first, -, -, key, inRows⟩ := exists_first_of_mem_bucketsOf inBuckets
    have met := (mem_of_mem_groups grouping done inGroups held).2
    rw [key] at met
    have cells := (mapM_eq_ok [] read).1 _ (List.mem_map_of_mem inBuckets)
    rw [key] at cells
    have cell := (mapM_eq_ok .null cells).1 _ (List.mem_map_of_mem inExprs)
    obtain ⟨other, otherRead⟩ := exists_sortKey_of_agrees (agrees_of_keyAt met inExprs) cell
    exact ⟨_, other, valued row among expr inExprs, otherRead⟩
  · intro sortable
    have valued : evaluator.Valued table rows exprs := by
      intro row among expr inExprs
      obtain ⟨cell, -, value, -⟩ := sortable row among expr inExprs
      rw [cellAt, value]
      rfl
    have keys : ∃ sortKeys, ((evaluator.bucketsOf table exprs rows).map (·.1)).mapM
        (fun cells => cells.mapM Cell.sortKey) = .ok sortKeys := by
      refine exists_mapM_eq_ok fun key inKeys => exists_mapM_eq_ok fun cell held => ?_
      obtain ⟨bucket, inBuckets, rfl⟩ := List.mem_map.mp inKeys
      obtain ⟨first, -, -, same, inRows⟩ := exists_first_of_mem_bucketsOf inBuckets
      rw [same] at held
      obtain ⟨expr, inExprs, rfl⟩ := List.mem_map.mp held
      obtain ⟨cell, key, value, read⟩ := sortable first inRows expr inExprs
      rw [cellAt, value]
      exact ⟨key, read⟩
    obtain ⟨sortKeys, read⟩ := keys
    rw [groups_of_valued grouping valued, sortPositions, read]
    exact ⟨_, rfl⟩

end Evaluator

end GridQuery
