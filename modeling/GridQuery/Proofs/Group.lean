import GridQuery.Group
import GridQuery.Proofs.Cell.Comparison
import GridQuery.Proofs.Selection

/-!
# Groups of rows by their keys

The key of a row is what the expressions to group by are in it. A group has the rows whose
keys are the same as its own; only a key that holds something that is not a number is the
same as no key, and its row is a group alone.
-/

namespace GridQuery

/-! ### Cells and keys that are the same -/

namespace Cell

theorem sameValue_symm {left right : Cell} (same : left.sameValue right = true) :
    right.sameValue left = true := by
  cases left <;> cases right <;> simp_all [sameValue, Number.sameValue_iff, and_comm]

theorem sameValue_trans {first second third : Cell} (same : first.sameValue second = true)
    (later : second.sameValue third = true) : first.sameValue third = true := by
  cases first <;> cases second <;> cases third <;> simp_all [sameValue, Number.sameValue_iff]
  next =>
    obtain ⟨place, here, there⟩ := same
    obtain ⟨other, again, beyond⟩ := later
    cases there.symm.trans again
    exact ⟨place, here, beyond⟩

/-- Not a number, and so the same as no cell. -/
def isNaN (cell : Cell) : Prop :=
  cell = number (.float .nan)

theorem sameValue_self {cell : Cell} (given : ¬ cell.isNaN) : cell.sameValue cell = true := by
  cases cell with
  | number value =>
      exact Number.sameValue_self fun equal => given (congrArg number equal)
  | null | text _ | boolean _ | date _ => simp [sameValue]

/-- Whether two cells are one cell, or have one value. -/
def Agrees (left right : Cell) : Prop :=
  left = right ∨ left.sameValue right = true

end Cell

theorem sameCells_iff_forall₂ {left right : List Cell} :
    sameCells left right = true ↔
      List.Forall₂ (fun cell other => Cell.sameValue cell other = true) left right := by
  induction left generalizing right with
  | nil => cases right <;> simp [sameCells]
  | cons cell left inductionHypothesis =>
      cases right <;> simp [sameCells, inductionHypothesis]

theorem sameness_sameCells : Buckets.Sameness sameCells where
  symm {left right} same := by
    rw [sameCells_iff_forall₂] at same ⊢
    exact (same.imp fun _ _ => Cell.sameValue_symm).flip
  trans {first second third} same later := by
    rw [sameCells_iff_forall₂] at same later ⊢
    induction same generalizing third with
    | nil => exact later
    | cons here _ inductionHypothesis =>
        cases later with
        | cons there rest =>
            exact .cons (Cell.sameValue_trans here there) (inductionHypothesis rest)

theorem sameCells_self {cells : List Cell} (given : ∀ cell ∈ cells, ¬ cell.isNaN) :
    sameCells cells cells = true :=
  sameCells_iff_forall₂.mpr (List.forall₂_same.mpr fun cell among =>
    Cell.sameValue_self (given cell among))

theorem length_eq_of_sameCells {left right : List Cell} (same : sameCells left right = true) :
    left.length = right.length :=
  (sameCells_iff_forall₂.mp same).length_eq

theorem sameCells_append {left right more others : List Cell}
    (even : left.length = right.length) :
    sameCells (left ++ more) (right ++ others) = true ↔
      sameCells left right = true ∧ sameCells more others = true := by
  induction left generalizing right with
  | nil =>
      obtain rfl := List.length_eq_zero_iff.mp even.symm
      simp [sameCells]
  | cons cell left inductionHypothesis =>
      cases right with
      | nil => cases even
      | cons other right =>
          have rest : sameCells (left ++ more) (right ++ others) = true ↔
              sameCells left right = true ∧ sameCells more others = true := by
            apply inductionHypothesis
            exact Nat.succ.inj even
          simp [sameCells, rest, and_assoc]

/-! ### Rows in groups of their keys -/

/-- Each row is in the one group whose key is the same as its own. -/
structure Partitions (keyOf : Row → List Cell) (rows : List Row) (groups : List Group) :
    Prop where
  apart : groups.Pairwise fun earlier later => sameCells earlier.key later.key = false
  held : ∀ group ∈ groups, group.rows = rows.filter fun row => sameCells group.key (keyOf row)
  keyed : ∀ group ∈ groups, ∃ row ∈ rows, group.key = keyOf row
  full : ∀ row ∈ rows, ∃ group ∈ groups, sameCells group.key (keyOf row) = true

namespace Partitions

variable {keyOf : Row → List Cell} {rows : List Row} {groups : List Group}

/-- Rows that are put in buckets by their keys are in groups of them. -/
theorem ofBuckets (defined : ∀ row ∈ rows, sameCells (keyOf row) (keyOf row) = true)
    (made : groups.Perm ((Buckets.ofList sameCells (rows.map fun row => (keyOf row, row))).map
      fun bucket => ⟨bucket.1, bucket.2⟩)) : Partitions keyOf rows groups := by
  have keyed (bucket : List Cell × List Row)
      (among : bucket ∈ Buckets.ofList sameCells (rows.map fun row => (keyOf row, row))) :
      ∃ row ∈ rows, bucket.1 = keyOf row := by
    have key := Buckets.map_key_ofList_subset _ (List.mem_map_of_mem among)
    obtain ⟨row, inRows, same⟩ := List.mem_map.mp (List.map_map ▸ key)
    exact ⟨row, inRows, same.symm⟩
  have found (key : List Cell) :
      Buckets.get sameCells key
          (Buckets.ofList sameCells (rows.map fun row => (keyOf row, row))) =
        rows.filter fun row => sameCells (keyOf row) key := by
    rw [Buckets.get_ofList sameness_sameCells, List.filter_map, List.map_map]
    exact List.map_id _
  constructor
  case apart =>
    refine (made.pairwise_iff fun {_ _} unmet => ?_).mpr ?_
    · exact Bool.eq_false_iff.mpr fun met =>
        Bool.eq_false_iff.mp unmet (sameness_sameCells.symm met)
    · rw [List.pairwise_map]
      exact List.pairwise_map.mp (Buckets.pairwise_ofList _)
  case held =>
    intro group among
    obtain ⟨bucket, inBuckets, rfl⟩ := List.mem_map.mp (made.subset among)
    obtain ⟨row, inRows, key⟩ := keyed bucket inBuckets
    have own := defined row inRows
    rw [← key] at own
    rw [← Buckets.get_of_mem sameness_sameCells (Buckets.pairwise_ofList _) inBuckets own, found]
    refine List.filter_congr fun row _ => Bool.eq_iff_iff.mpr ?_
    exact ⟨sameness_sameCells.symm, sameness_sameCells.symm⟩
  case keyed =>
    intro group among
    obtain ⟨bucket, inBuckets, rfl⟩ := List.mem_map.mp (made.subset among)
    exact keyed bucket inBuckets
  case full =>
    intro row inRows
    have member : row ∈ Buckets.get sameCells (keyOf row)
        (Buckets.ofList sameCells (rows.map fun row => (keyOf row, row))) := by
      rw [found]
      exact List.mem_filter.mpr ⟨inRows, defined row inRows⟩
    obtain ⟨bucket, inBuckets, met, -⟩ := Buckets.exists_of_mem_get member
    exact ⟨⟨bucket.1, bucket.2⟩, made.symm.subset (List.mem_map_of_mem inBuckets), met⟩

theorem mem_rows (partitions : Partitions keyOf rows groups) {group : Group}
    (among : group ∈ groups) {row : Row} :
    row ∈ group.rows ↔ row ∈ rows ∧ sameCells group.key (keyOf row) = true := by
  rw [partitions.held group among, List.mem_filter]

/-- The rows of a group are those whose keys are the same as one of their keys. -/
theorem rows_eq (partitions : Partitions keyOf rows groups) {group : Group}
    (among : group ∈ groups) {key : List Cell} (met : sameCells group.key key = true) :
    group.rows = rows.filter fun row => sameCells key (keyOf row) := by
  rw [partitions.held group among]
  refine List.filter_congr fun row _ => Bool.eq_iff_iff.mpr ⟨fun same => ?_, fun same => ?_⟩
  · exact sameness_sameCells.trans (sameness_sameCells.symm met) same
  · exact sameness_sameCells.trans met same

/-- No group is without rows. -/
theorem exists_first (partitions : Partitions keyOf rows groups)
    (defined : ∀ row ∈ rows, sameCells (keyOf row) (keyOf row) = true) {group : Group}
    (among : group ∈ groups) : ∃ first rest, group.rows = first :: rest := by
  obtain ⟨row, inRows, key⟩ := partitions.keyed group among
  have held := (partitions.mem_rows among).mpr ⟨inRows, key ▸ defined row inRows⟩
  exact List.exists_cons_of_ne_nil (List.ne_nil_of_mem held)

/-- Groups whose keys are the same as one key are one group, at one place. -/
theorem place_unique (partitions : Partitions keyOf rows groups) {place otherPlace : Nat}
    {group other : Group} (found : groups[place]? = some group)
    (otherFound : groups[otherPlace]? = some other) {key : List Cell}
    (met : sameCells group.key key = true) (otherMet : sameCells other.key key = true) :
    place = otherPlace := by
  have same := sameness_sameCells.trans met (sameness_sameCells.symm otherMet)
  have apart := List.pairwise_iff_getElem.mp partitions.apart
  obtain ⟨bound, rfl⟩ := List.getElem?_eq_some_iff.mp found
  obtain ⟨otherBound, rfl⟩ := List.getElem?_eq_some_iff.mp otherFound
  rcases Nat.lt_trichotomy place otherPlace with before | equal | after
  · rw [apart _ _ bound otherBound before] at same
    cases same
  · exact equal
  · have back := sameness_sameCells.symm same
    rw [apart _ _ otherBound bound after] at back
    cases back

theorem eq_of_met (partitions : Partitions keyOf rows groups) {group other : Group}
    (among : group ∈ groups) (otherAmong : other ∈ groups) {key : List Cell}
    (met : sameCells group.key key = true) (otherMet : sameCells other.key key = true) :
    group = other := by
  obtain ⟨place, found⟩ := List.getElem?_of_mem among
  obtain ⟨otherPlace, otherFound⟩ := List.getElem?_of_mem otherAmong
  obtain rfl := partitions.place_unique found otherFound met otherMet
  exact Option.some.inj (found.symm.trans otherFound)

end Partitions

namespace Evaluator

variable {evaluator : Evaluator} {table : Table} {exprs : List Expr} {rows : List Row}
  {groups : List Group}

/-! ### Keys -/

/-- What an expression is in a row, where it has a value there. -/
def cellAt (evaluator : Evaluator) (table : Table) (row : Row) (expr : Expr) : Cell :=
  (evaluator.value (.ofRow table row.cells) expr).toOption.getD .null

/-- What expressions are in a row. -/
def keyAt (evaluator : Evaluator) (table : Table) (exprs : List Expr) (row : Row) : List Cell :=
  exprs.map (evaluator.cellAt table row)

/-- Expressions have values in each of some rows. -/
def Valued (evaluator : Evaluator) (table : Table) (rows : List Row) (exprs : List Expr) : Prop :=
  ∀ row ∈ rows, ∀ expr ∈ exprs,
    evaluator.value (.ofRow table row.cells) expr = .ok (evaluator.cellAt table row expr)

theorem values_eq_keyAt (valued : evaluator.Valued table rows exprs) {row : Row}
    (among : row ∈ rows) :
    evaluator.values (.ofRow table row.cells) exprs = .ok (evaluator.keyAt table exprs row) :=
  mapM_eq_ok_of_forall (valued row among)

/-- The rows in buckets of their keys. -/
def bucketsOf (evaluator : Evaluator) (table : Table) (exprs : List Expr) (rows : List Row) :
    Buckets (List Cell) Row :=
  Buckets.ofList sameCells (rows.map fun row => (evaluator.keyAt table exprs row, row))

theorem groups_of_valued (some : exprs ≠ []) (valued : evaluator.Valued table rows exprs) :
    evaluator.groups table rows exprs = do
      let places ← sortPositions (exprs.map fun _ => false)
        ((evaluator.bucketsOf table exprs rows).map (·.1))
      return pick ((evaluator.bucketsOf table exprs rows).map
        fun bucket => ⟨bucket.1, bucket.2⟩) places := by
  have given : exprs.isEmpty = false := by simpa using some
  have keyed : (rows.mapM fun row => do
      return (← evaluator.values (.ofRow table row.cells) exprs, row) :
        Except Error (List (List Cell × Row))) =
      .ok (rows.map fun row => (evaluator.keyAt table exprs row, row)) :=
    mapM_eq_ok_of_forall fun row among => by
      rw [values_eq_keyAt valued among]
      rfl
  rw [Evaluator.groups, given, keyed, bucketsOf]
  simp only [Bool.false_eq_true, if_false, List.map_map]
  rfl

/-- Groups are made of rows in which all expressions to group by have values, and stand in
the order of their keys. -/
theorem groups_eq_pick (some : exprs ≠ [])
    (done : evaluator.groups table rows exprs = .ok groups) :
    evaluator.Valued table rows exprs ∧ ∃ places,
      sortPositions (exprs.map fun _ => false) ((evaluator.bucketsOf table exprs rows).map (·.1)) =
        .ok places ∧
      groups = pick ((evaluator.bucketsOf table exprs rows).map
        fun bucket => ⟨bucket.1, bucket.2⟩) places := by
  have given : exprs.isEmpty = false := by simpa using some
  have valued : evaluator.Valued table rows exprs := by
    intro row among
    simp only [Evaluator.groups, given, Bool.false_eq_true, if_false, bind_eq_ok_iff] at done
    obtain ⟨keyed, evaluated, -⟩ := done
    have here := (mapM_eq_ok ([], ⟨0, []⟩) evaluated).1 row among
    simp only [bind_eq_ok_iff] at here
    obtain ⟨cells, valued, -⟩ := here
    exact (mapM_eq_ok .null valued).1
  rw [groups_of_valued some valued] at done
  simp only [bind_eq_ok_iff, lift_data_eq_ok_iff, pure_eq_ok, Except.ok.injEq] at done
  obtain ⟨places, ordered, rfl⟩ := done
  exact ⟨valued, places, ordered, rfl⟩

theorem groups_eq_ok (some : exprs ≠ [])
    (done : evaluator.groups table rows exprs = .ok groups) :
    evaluator.Valued table rows exprs ∧
      groups.Perm ((evaluator.bucketsOf table exprs rows).map
        fun bucket => ⟨bucket.1, bucket.2⟩) := by
  obtain ⟨valued, places, ordered, rfl⟩ := groups_eq_pick some done
  refine ⟨valued, pick_perm ?_⟩
  simp only [sortPositions, bind_eq_ok_iff, pure_eq_ok, Except.ok.injEq] at ordered
  obtain ⟨sortKeys, read, rfl⟩ := ordered
  have perm := sortPlaces_perm (exprs.map fun _ => false) sortKeys
  rwa [length_of_mapM_eq_ok read, List.length_map, ← List.length_map] at perm

/-- A row of a group is one of the rows, and its key is that of the group. -/
theorem mem_of_mem_groups (some : exprs ≠ [])
    (done : evaluator.groups table rows exprs = .ok groups) {group : Group}
    (among : group ∈ groups) {row : Row} (held : row ∈ group.rows) :
    row ∈ rows ∧ (group.key = evaluator.keyAt table exprs row ∨
      sameCells group.key (evaluator.keyAt table exprs row) = true) := by
  obtain ⟨bucket, found, rfl⟩ := List.mem_map.mp ((groups_eq_ok some done).2.subset among)
  obtain ⟨key, put, met⟩ := Buckets.mem_of_mem_ofList found held
  obtain ⟨_, inRows, same⟩ := List.mem_map.mp put
  cases same
  exact ⟨inRows, met⟩

/-- Rows whose keys are the same agree in each expression of the key. -/
theorem agrees_of_keyAt {row other : Row}
    (same : evaluator.keyAt table exprs row = evaluator.keyAt table exprs other ∨
      sameCells (evaluator.keyAt table exprs row) (evaluator.keyAt table exprs other) = true)
    {expr : Expr} (grouped : expr ∈ exprs) :
    (evaluator.cellAt table row expr).Agrees (evaluator.cellAt table other expr) := by
  rcases same with equal | same
  · exact .inl (List.map_inj_left.mp equal expr grouped)
  · rw [sameCells_iff_forall₂, keyAt, keyAt, List.forall₂_map_left_iff,
      List.forall₂_map_right_iff, List.forall₂_same] at same
    exact .inr (same expr grouped)

/-- Rows of one group agree in each expression that they are grouped by. -/
theorem agrees_of_mem_groups (some : exprs ≠ [])
    (done : evaluator.groups table rows exprs = .ok groups) {group : Group}
    (among : group ∈ groups) {row other : Row} (held : row ∈ group.rows)
    (otherHeld : other ∈ group.rows) {expr : Expr} (grouped : expr ∈ exprs) :
    (evaluator.cellAt table row expr).Agrees (evaluator.cellAt table other expr) := by
  refine agrees_of_keyAt ?_ grouped
  have here := (mem_of_mem_groups some done among held).2
  have there := (mem_of_mem_groups some done among otherHeld).2
  rcases here with equal | met
  · rwa [equal] at there
  · have back := sameness_sameCells.symm met
    rcases there with equal | again
    · exact .inr (equal ▸ back)
    · exact .inr (sameness_sameCells.trans back again)

/-- No expression is in any of some rows what is not a number. -/
def NeverNaN (evaluator : Evaluator) (table : Table) (rows : List Row) (exprs : List Expr) :
    Prop :=
  ∀ row ∈ rows, ∀ expr ∈ exprs,
    evaluator.value (.ofRow table row.cells) expr ≠ .ok (.number (.float .nan))

theorem not_isNaN_of_mem_keyAt (valued : evaluator.Valued table rows exprs)
    (numbers : evaluator.NeverNaN table rows exprs) {row : Row} (among : row ∈ rows) {cell : Cell}
    (held : cell ∈ evaluator.keyAt table exprs row) : ¬ cell.isNaN := by
  obtain ⟨expr, inExprs, rfl⟩ := List.mem_map.mp held
  intro isNaN
  exact numbers row among expr inExprs ((valued row among expr inExprs).trans
    (congrArg Except.ok isNaN))

theorem sameCells_keyAt_self (valued : evaluator.Valued table rows exprs)
    (numbers : evaluator.NeverNaN table rows exprs) {row : Row} (among : row ∈ rows) :
    sameCells (evaluator.keyAt table exprs row) (evaluator.keyAt table exprs row) = true :=
  sameCells_self fun _ held => not_isNaN_of_mem_keyAt valued numbers among held

/-- Groups are those of the rows' keys, if all keys are the same as themselves. -/
theorem partitions_groups (some : exprs ≠ []) (numbers : evaluator.NeverNaN table rows exprs)
    (done : evaluator.groups table rows exprs = .ok groups) :
    evaluator.Valued table rows exprs ∧
      Partitions (evaluator.keyAt table exprs) rows groups := by
  obtain ⟨valued, made⟩ := groups_eq_ok some done
  exact ⟨valued, .ofBuckets (fun _ => sameCells_keyAt_self valued numbers) made⟩

/-- The groups that have rows. Without an expression to group by all rows have one key. -/
theorem partitions_filter_groups (numbers : evaluator.NeverNaN table rows exprs)
    (done : evaluator.groups table rows exprs = .ok groups) :
    evaluator.Valued table rows exprs ∧
      Partitions (evaluator.keyAt table exprs) rows (groups.filter (!·.rows.isEmpty)) := by
  by_cases some : exprs = []
  · subst some
    cases done
    refine ⟨fun _ _ _ impossible => (List.not_mem_nil impossible).elim, ?_⟩
    cases rows with
    | nil => exact ⟨List.Pairwise.nil, by simp, by simp, by simp⟩
    | cons first rest =>
        exact ⟨List.pairwise_singleton _ _, by simp [keyAt, sameCells],
          by simp [keyAt], by simp [keyAt, sameCells]⟩
  · obtain ⟨valued, partitions⟩ := partitions_groups some numbers done
    have defined (row : Row) (among : row ∈ rows) := sameCells_keyAt_self valued numbers among
    have all : groups.filter (!·.rows.isEmpty) = groups :=
      List.filter_eq_self.mpr fun group among => by
        obtain ⟨first, rest, rows⟩ := partitions.exists_first defined among
        simp [rows]
    rw [all]
    exact ⟨valued, partitions⟩

end Evaluator

end GridQuery
