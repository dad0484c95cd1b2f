import GridQuery.Proofs.Select.Grouped
import GridQuery.Proofs.Select.Stages

/-!
# A pivot and grouping by both keys

A pivot shows in the row of one key and the columns of another the aggregates of the rows
that have both. These are the groups of the rows by the two keys together: each is shown in
one row and under one key of the pivot, and the places of keys that no row has are null.
-/

namespace GridQuery

/-- Two queries for the same aggregates of the same rows, one of which groups the rows by
some expressions and makes columns of others, the other groups them by both. -/
structure Crosses (crossed flat : SelectQuery) (grouping pivot aggregates : List Expr) :
    Prop where
  filter : crossed.filter = flat.filter
  crossedItems : crossed.items.map SelectItem.expr? = (grouping ++ aggregates).map some
  flatItems : flat.items.map SelectItem.expr? = (grouping ++ pivot ++ aggregates).map some
  crossedGroupBy : crossed.groupBy = grouping
  crossedPivot : crossed.pivot = pivot
  flatGroupBy : flat.groupBy = grouping ++ pivot
  flatPivot : flat.pivot = []
  crossedAll : crossed.Unarranged
  flatAll : flat.Unarranged
  pivots : pivot ≠ []
  plain : ∀ expr ∈ grouping, expr.hasAggregate = false
  aggregating : ∀ expr ∈ aggregates, expr.hasAggregate = true

/-- The aggregates that the rows of a flat result show for a key, nulls if it has no row of
that key. -/
def aggregatesOf (flat : List (List Cell)) (count : Nat) (key : List Cell) : List Cell :=
  match flat.find? fun row => sameCells (row.take key.length) key with
  | some row => row.drop key.length
  | none => List.replicate count .null

/-- The rows of a crossed result in terms of those of a flat one, for the widths of the keys
of its rows and of its columns. -/
structure CrossTabulates (width pivotWidth count : Nat) (keys crossed flat : List (List Cell)) :
    Prop where
  /-- A row shows its key, and then for each key of the columns the aggregates of both. -/
  cells : ∀ row ∈ crossed, ∃ key, key.length = width ∧
    row = key ++ keys.flatMap fun pivotKey => aggregatesOf flat count (key ++ pivotKey)
  /-- No two rows of the flat result have the same key. -/
  apart : (flat.map (·.take (width + pivotWidth))).Pairwise
    fun earlier later => sameCells earlier later = false
  /-- Each row of the flat result belongs to one row and one key of the columns. -/
  once : ∀ group ∈ flat, ∃! place : Nat × Nat, ∃ row key,
    crossed[place.1]? = some row ∧ keys[place.2]? = some key ∧
      sameCells (row.take width ++ key) (group.take (width + pivotWidth)) = true

namespace Evaluator

variable {evaluator : Evaluator} {table : Table} {rows : List Row} {exprs pivot : List Expr}
  {groups : List Group}

/-- What rows show of an aggregate under a key of the pivot: nothing if none of them has the
key. -/
def shownUnder (evaluator : Evaluator) (table : Table) (pivot : List Expr) (rows : List Row)
    (key : List Cell) (aggregate : Expr) : Cell :=
  match rows.filter fun row => sameCells (evaluator.keyAt table pivot row) key with
  | [] => .null
  | found => evaluator.shownAt table found aggregate

theorem filter_keyed (keyOf : Row → List Cell) (test : List Cell → Bool) (rows : List Row) :
    ((rows.map fun row => (row, keyOf row)).filter fun (_, key) => test key).map (·.1) =
      rows.filter fun row => test (keyOf row) := by
  rw [List.filter_map, List.map_map]
  exact List.map_id _

/-- What a pivot column shows of a group: its aggregate over the rows of its key. -/
theorem crossedAt_eq (valued : evaluator.Valued table rows pivot) {group : Group}
    (within : group.rows ⊆ rows) (column : PivotColumn) :
    evaluator.crossedAt table pivot group column =
      evaluator.shownUnder table pivot group.rows column.key column.aggregate := by
  have keyed : group.rows.mapM (fun row => do
      return (row, ← evaluator.values (.ofRow table row.cells) pivot)) =
        .ok (group.rows.map fun row => (row, evaluator.keyAt table pivot row)) :=
    mapM_eq_ok_of_forall fun row among => by
      rw [values_eq_keyAt valued (within among)]
      rfl
  have rows := filter_keyed (evaluator.keyAt table pivot) (sameCells · column.key) group.rows
  have cell : evaluator.pivotCell table group pivot column =
      if (group.rows.filter fun row =>
          sameCells (evaluator.keyAt table pivot row) column.key).isEmpty then .ok .null
      else evaluator.value (.ofGroup evaluator table (group.rows.filter fun row =>
        sameCells (evaluator.keyAt table pivot row) column.key)) column.aggregate := by
    rw [pivotCell, keyed, ← rows]
    rfl
  rw [crossedAt, cell, shownUnder]
  cases group.rows.filter fun row => sameCells (evaluator.keyAt table pivot row) column.key <;> rfl

/-- The key that a group shows is the same as its own. -/
theorem sameCells_shownAt (valued : evaluator.Valued table rows exprs)
    (numbers : evaluator.NeverNaN table rows exprs)
    (partitions : Partitions (evaluator.keyAt table exprs) rows groups) {group : Group}
    (among : group ∈ groups) :
    sameCells group.key (exprs.map (evaluator.shownAt table group.rows)) = true := by
  obtain ⟨first, rest, equal⟩ :=
    partitions.exists_first (fun _ => sameCells_keyAt_self valued numbers) among
  obtain ⟨inRows, met⟩ := (partitions.mem_rows among).mp (equal ▸ List.mem_cons_self)
  rw [equal, map_shownAt_eq_keyAt valued inRows]
  exact met

/-- The rows that a flat result shows for its groups: their keys, then their aggregates. -/
def flatRows (evaluator : Evaluator) (table : Table) (keys aggregates : List Expr)
    (groups : List Group) : List (List Cell) :=
  groups.map fun group => keys.map (evaluator.shownAt table group.rows) ++
    aggregates.map (evaluator.shownAt table group.rows)

variable {aggregates : List Expr}

theorem take_flatRow (keys aggregates : List Expr) (shown : Expr → Cell) :
    (keys.map shown ++ aggregates.map shown).take keys.length = keys.map shown :=
  List.take_left' (List.length_map _)

/-- The aggregates of a key are those of the group of that key. -/
theorem aggregatesOf_flatRows (valued : evaluator.Valued table rows exprs)
    (numbers : evaluator.NeverNaN table rows exprs)
    (partitions : Partitions (evaluator.keyAt table exprs) rows groups) {group : Group}
    (among : group ∈ groups) {key : List Cell} (met : sameCells group.key key = true)
    (count : Nat) :
    aggregatesOf (evaluator.flatRows table exprs aggregates groups) count key =
      aggregates.map (evaluator.shownAt table group.rows) := by
  have shown (other : Group) (among : other ∈ groups) :=
    sameCells_shownAt valued numbers partitions among
  have width : key.length = exprs.length := by
    have even := length_eq_of_sameCells (sameness_sameCells.trans
      (sameness_sameCells.symm met) (shown group among))
    rwa [List.length_map] at even
  have found : groups.find? (fun group => sameCells (exprs.map (evaluator.shownAt table group.rows))
      key) = some group := by
    refine find?_eq_some_of_unique among ?_ fun other otherAmong same => ?_
    · exact sameness_sameCells.trans (sameness_sameCells.symm (shown group among)) met
    · exact partitions.eq_of_met otherAmong among
        (sameness_sameCells.trans (shown other otherAmong) same) met
  have test : ((fun row => sameCells (row.take key.length) key) ∘ fun group : Group =>
      exprs.map (evaluator.shownAt table group.rows) ++
        aggregates.map (evaluator.shownAt table group.rows)) =
      fun group => sameCells (exprs.map (evaluator.shownAt table group.rows)) key := by
    funext group
    rw [Function.comp_apply, width, take_flatRow]
  rw [aggregatesOf, flatRows, List.find?_map, test, found]
  exact List.drop_left' (by rw [List.length_map, width])

/-- Without a group of a key its aggregates are null. -/
theorem aggregatesOf_flatRows_of_none (valued : evaluator.Valued table rows exprs)
    (numbers : evaluator.NeverNaN table rows exprs)
    (partitions : Partitions (evaluator.keyAt table exprs) rows groups) {key : List Cell}
    (width : key.length = exprs.length)
    (unmet : ∀ group ∈ groups, sameCells group.key key ≠ true) (count : Nat) :
    aggregatesOf (evaluator.flatRows table exprs aggregates groups) count key =
      List.replicate count .null := by
  have none : (evaluator.flatRows table exprs aggregates groups).find?
      (fun row => sameCells (row.take key.length) key) = none := by
    refine List.find?_eq_none.mpr fun row among same => ?_
    obtain ⟨group, inGroups, rfl⟩ := List.mem_map.mp among
    rw [width, take_flatRow] at same
    exact unmet group inGroups (sameness_sameCells.trans
      (sameCells_shownAt valued numbers partitions inGroups) same)
  rw [aggregatesOf, none]

/-! ### Rows of both keys -/

variable {grouping : List Expr} {crossedGroups pivotGroups flatGroups : List Group}

theorem keyAt_append (row : Row) : evaluator.keyAt table (grouping ++ pivot) row =
    evaluator.keyAt table grouping row ++ evaluator.keyAt table pivot row :=
  List.map_append

theorem length_keyAt (exprs : List Expr) (row : Row) :
    (evaluator.keyAt table exprs row).length = exprs.length :=
  List.length_map _

/-- A row has the key of a group and a key of the pivot if it has both together. -/
theorem sameCells_both {key pivotKey : List Cell} (width : key.length = grouping.length)
    (row : Row) :
    sameCells (key ++ pivotKey) (evaluator.keyAt table (grouping ++ pivot) row) = true ↔
      sameCells key (evaluator.keyAt table grouping row) = true ∧
        sameCells pivotKey (evaluator.keyAt table pivot row) = true := by
  rw [keyAt_append, sameCells_append (width.trans (length_keyAt grouping row).symm)]

/-- The rows of a group that have a key of the pivot are the rows of the group of both
keys. -/
theorem filter_rows_eq
    (rowsBy : Partitions (evaluator.keyAt table grouping) rows crossedGroups)
    (bothBy : Partitions (evaluator.keyAt table (grouping ++ pivot)) rows flatGroups)
    {group both : Group} (among : group ∈ crossedGroups) (bothAmong : both ∈ flatGroups)
    {key pivotKey : List Cell} (width : key.length = grouping.length)
    (met : sameCells group.key key = true)
    (bothMet : sameCells both.key (key ++ pivotKey) = true) :
    (group.rows.filter fun row => sameCells (evaluator.keyAt table pivot row) pivotKey) =
      both.rows := by
  rw [rowsBy.rows_eq among met, bothBy.rows_eq bothAmong bothMet, List.filter_filter]
  refine List.filter_congr fun row _ => Bool.eq_iff_iff.mpr ?_
  rw [sameCells_both width, Bool.and_eq_true, and_comm]
  exact and_congr_right fun _ => ⟨sameness_sameCells.symm, sameness_sameCells.symm⟩

/-- Under a key of the pivot a group shows the aggregates that a flat result shows for both
keys. -/
theorem map_shownUnder (valued : evaluator.Valued table rows (grouping ++ pivot))
    (numbers : evaluator.NeverNaN table rows (grouping ++ pivot))
    (rowsBy : Partitions (evaluator.keyAt table grouping) rows crossedGroups)
    (bothBy : Partitions (evaluator.keyAt table (grouping ++ pivot)) rows flatGroups)
    {group : Group} (among : group ∈ crossedGroups) {key pivotKey : List Cell}
    (width : key.length = grouping.length) (pivotWidth : pivotKey.length = pivot.length)
    (met : sameCells group.key key = true) :
    aggregates.map (evaluator.shownUnder table pivot group.rows pivotKey) =
      aggregatesOf (evaluator.flatRows table (grouping ++ pivot) aggregates flatGroups)
        aggregates.length (key ++ pivotKey) := by
  by_cases found : ∃ both ∈ flatGroups, sameCells both.key (key ++ pivotKey) = true
  · obtain ⟨both, bothAmong, bothMet⟩ := found
    obtain ⟨first, rest, some⟩ := bothBy.exists_first
      (fun _ => sameCells_keyAt_self valued numbers) bothAmong
    rw [aggregatesOf_flatRows valued numbers bothBy bothAmong bothMet]
    refine List.map_congr_left fun aggregate _ => ?_
    rw [shownUnder, filter_rows_eq rowsBy bothBy among bothAmong width met bothMet, some]
  · have none : (group.rows.filter fun row =>
        sameCells (evaluator.keyAt table pivot row) pivotKey) = [] := by
      refine List.filter_eq_nil_iff.mpr fun row held same => found ?_
      obtain ⟨inRows, groupMet⟩ := (rowsBy.mem_rows among).mp held
      obtain ⟨both, bothAmong, bothMet⟩ := bothBy.full row inRows
      refine ⟨both, bothAmong, sameness_sameCells.trans bothMet (sameness_sameCells.symm ?_)⟩
      exact (sameCells_both width row).mpr ⟨sameness_sameCells.trans
        (sameness_sameCells.symm met) groupMet, sameness_sameCells.symm same⟩
    rw [aggregatesOf_flatRows_of_none valued numbers bothBy (by simp [width, pivotWidth])
      fun both bothAmong bothMet => found ⟨both, bothAmong, bothMet⟩]
    refine List.eq_replicate_iff.mpr ⟨List.length_map _, fun cell shown => ?_⟩
    obtain ⟨aggregate, -, rfl⟩ := List.mem_map.mp shown
    rw [shownUnder, none]

/-- Each group of both keys belongs to one group of the first and to one of the second. -/
theorem existsUnique_places
    (rowsBy : Partitions (evaluator.keyAt table grouping) rows crossedGroups)
    (keysBy : Partitions (evaluator.keyAt table pivot) rows pivotGroups) {row : Row}
    (among : row ∈ rows) :
    ∃! place : Nat × Nat, ∃ group keyGroup,
      crossedGroups[place.1]? = some group ∧ pivotGroups[place.2]? = some keyGroup ∧
        sameCells group.key (evaluator.keyAt table grouping row) = true ∧
        sameCells keyGroup.key (evaluator.keyAt table pivot row) = true := by
  obtain ⟨group, inGroups, met⟩ := rowsBy.full row among
  obtain ⟨keyGroup, inKeys, keyMet⟩ := keysBy.full row among
  obtain ⟨place, found⟩ := List.getElem?_of_mem inGroups
  obtain ⟨keyPlace, keyFound⟩ := List.getElem?_of_mem inKeys
  refine ⟨(place, keyPlace), ⟨group, keyGroup, found, keyFound, met, keyMet⟩, ?_⟩
  rintro ⟨other, keyOther⟩ ⟨otherGroup, otherKey, otherFound, otherKeyFound, otherMet, otherKeyMet⟩
  exact Prod.ext (rowsBy.place_unique otherFound found otherMet met)
    (keysBy.place_unique otherKeyFound keyFound otherKeyMet keyMet)

/-- The rows that a pivot shows for groups: their keys, then for each key of the pivot its
aggregates. -/
def crossedRows (evaluator : Evaluator) (table : Table) (grouping pivot aggregates : List Expr)
    (groups : List Group) (keys : List (List Cell)) : List (List Cell) :=
  groups.map fun group => grouping.map (evaluator.shownAt table group.rows) ++
    keys.flatMap fun key => aggregates.map (evaluator.shownUnder table pivot group.rows key)

theorem crossTabulates_of_partitions
    (valued : evaluator.Valued table rows (grouping ++ pivot))
    (numbers : evaluator.NeverNaN table rows (grouping ++ pivot))
    (rowsBy : Partitions (evaluator.keyAt table grouping) rows crossedGroups)
    (keysBy : Partitions (evaluator.keyAt table pivot) rows pivotGroups)
    (bothBy : Partitions (evaluator.keyAt table (grouping ++ pivot)) rows flatGroups) :
    CrossTabulates grouping.length pivot.length aggregates.length (pivotGroups.map (·.key))
      (evaluator.crossedRows table grouping pivot aggregates crossedGroups
        (pivotGroups.map (·.key)))
      (evaluator.flatRows table (grouping ++ pivot) aggregates flatGroups) := by
  have groupValued : evaluator.Valued table rows grouping :=
    fun row among expr inExprs => valued row among expr (List.mem_append_left _ inExprs)
  have groupNumbers : evaluator.NeverNaN table rows grouping :=
    fun row among expr inExprs => numbers row among expr (List.mem_append_left _ inExprs)
  have shown (group : Group) (among : group ∈ crossedGroups) :=
    sameCells_shownAt groupValued groupNumbers rowsBy among
  have width (group : Group) :
      (grouping.map (evaluator.shownAt table group.rows)).length = grouping.length :=
    List.length_map _
  constructor
  case cells =>
    intro row among
    obtain ⟨group, inGroups, rfl⟩ := List.mem_map.mp among
    refine ⟨_, width group, congrArg _ (List.flatMap_congr fun pivotKey inKeys => ?_)⟩
    obtain ⟨keyGroup, inKeyGroups, rfl⟩ := List.mem_map.mp inKeys
    obtain ⟨first, -, key⟩ := keysBy.keyed keyGroup inKeyGroups
    exact map_shownUnder valued numbers rowsBy bothBy inGroups (width group)
      (key ▸ length_keyAt pivot first) (shown group inGroups)
  case apart =>
    rw [flatRows, List.map_map, List.pairwise_map]
    refine List.Pairwise.imp_of_mem (fun {earlier later} before after unmet => ?_) bothBy.apart
    refine Bool.eq_false_iff.mpr fun same => Bool.eq_false_iff.mp unmet ?_
    rw [Function.comp_apply, Function.comp_apply, ← List.length_append, take_flatRow,
      take_flatRow] at same
    have here := sameCells_shownAt valued numbers bothBy before
    have there := sameCells_shownAt valued numbers bothBy after
    exact sameness_sameCells.trans here
      (sameness_sameCells.trans same (sameness_sameCells.symm there))
  case once =>
    intro row among
    obtain ⟨both, inBoth, rfl⟩ := List.mem_map.mp among
    obtain ⟨first, rest, listed⟩ :=
      bothBy.exists_first (fun _ => sameCells_keyAt_self valued numbers) inBoth
    have inRows := ((bothBy.mem_rows inBoth).mp (listed ▸ List.mem_cons_self)).1
    rw [← List.length_append, take_flatRow, listed, map_shownAt_eq_keyAt valued inRows]
    refine (existsUnique_congr fun place => ?_).mpr (existsUnique_places rowsBy keysBy inRows)
    rw [crossedRows, List.getElem?_map, List.getElem?_map]
    constructor
    · rintro ⟨row, key, foundRow, foundKey, same⟩
      obtain ⟨group, found, rfl⟩ := Option.map_eq_some_iff.mp foundRow
      obtain ⟨keyGroup, keyFound, rfl⟩ := Option.map_eq_some_iff.mp foundKey
      rw [List.take_left' (width group), sameCells_both (width group)] at same
      have met := shown group (List.mem_of_getElem? found)
      exact ⟨group, keyGroup, found, keyFound, sameness_sameCells.trans met same.1, same.2⟩
    · rintro ⟨group, keyGroup, found, keyFound, met, keyMet⟩
      refine ⟨_, _, Option.map_eq_some_iff.mpr ⟨group, found, rfl⟩,
        Option.map_eq_some_iff.mpr ⟨keyGroup, keyFound, rfl⟩, ?_⟩
      rw [List.take_left' (width group), sameCells_both (width group)]
      have own := shown group (List.mem_of_getElem? found)
      exact ⟨sameness_sameCells.trans (sameness_sameCells.symm own) met, keyMet⟩

/-- A pivot agrees with grouping by both keys. -/
theorem crossTabulates_of_select {crossed flat : SelectQuery}
    (crosses : Crosses crossed flat grouping pivot aggregates)
    {crossedShown flatShown : SelectResult}
    (onCrossed : evaluator.select crossed table = .ok crossedShown)
    (onFlat : evaluator.select flat table = .ok flatShown)
    (numbers : ∀ rows, evaluator.passingRows crossed table = .ok rows →
      evaluator.NeverNaN table rows (grouping ++ pivot)) :
    ∃ rows labels pivoted keys,
      evaluator.passingRows crossed table = .ok rows ∧
      labels.length = aggregates.length ∧
      evaluator.pivotColumns table rows pivot (aggregates.zip labels) = .ok pivoted ∧
      pivoted.map (fun column => (column.key, column.aggregate)) =
        (keys.flatMap fun key => aggregates.map fun aggregate => (key, aggregate)) ∧
      (crossedShown.columns.map (·.id)).drop grouping.length = pivoted.map (·.label) ∧
      CrossTabulates grouping.length pivot.length aggregates.length keys
        crossedShown.cellRows flatShown.cellRows := by
  have someFlat : flat.groupBy ≠ [] := by
    rw [crosses.flatGroupBy]
    exact List.append_ne_nil_of_right_ne_nil _ crosses.pivots
  obtain ⟨rows, groups, labels, pivoted, passed, grouped, even, made, ids, crossedCells⟩ :=
    cellRows_of_pivot crosses.crossedAll (crosses.crossedPivot ▸ crosses.pivots)
      crosses.crossedItems onCrossed
  obtain ⟨passing, flatGroups, flatPassed, flatGrouped, flatCells⟩ :=
    cellRows_of_groupBy crosses.flatAll someFlat crosses.flatPivot crosses.flatItems onFlat
  have sameRows : passing = rows := by
    rw [passingRows, ← crosses.filter] at flatPassed
    exact Except.ok.inj (flatPassed.symm.trans passed)
  subst sameRows
  have plain : (grouping ++ aggregates).filter (!·.hasAggregate) = grouping := by
    rw [List.filter_append, List.filter_eq_self.mpr fun expr among => by
        simp [crosses.plain expr among],
      List.filter_eq_nil_iff.mpr fun expr among => by simp [crosses.aggregating expr among],
      List.append_nil]
  have aggregating : (grouping ++ aggregates).filter Expr.hasAggregate = aggregates := by
    rw [List.filter_append, List.filter_eq_nil_iff.mpr fun expr among => by
        simp [crosses.plain expr among],
      List.filter_eq_self.mpr crosses.aggregating, List.nil_append]
  rw [aggregating] at even made
  rw [plain] at ids crossedCells
  rw [crosses.crossedPivot] at made crossedCells
  rw [crosses.crossedGroupBy] at grouped
  rw [crosses.flatGroupBy] at flatGrouped
  obtain ⟨keyed, keyedBy, pairs⟩ := pivotColumns_eq_ok made
  rw [List.map_fst_zip (Nat.le_of_eq even.symm)] at pairs
  have both := numbers passing passed
  obtain ⟨-, rowsBy⟩ := partitions_filter_groups
    (fun row among expr inExprs => both row among expr (List.mem_append_left _ inExprs)) grouped
  obtain ⟨pivotValued, keysBy⟩ := partitions_groups crosses.pivots
    (fun row among expr inExprs => both row among expr (List.mem_append_right _ inExprs)) keyedBy
  obtain ⟨valued, bothBy⟩ := partitions_groups (crosses.flatGroupBy ▸ someFlat) both flatGrouped
  refine ⟨passing, labels, pivoted, keyed.map (·.key), passed, even, made, pairs, ids, ?_⟩
  have inPivot (group : Group) (among : group ∈ groups.filter (!·.rows.isEmpty)) :
      pivoted.map (evaluator.crossedAt table pivot group) = (keyed.map (·.key)).flatMap fun key =>
        aggregates.map (evaluator.shownUnder table pivot group.rows key) := by
    have within : group.rows ⊆ passing := fun _ held => ((rowsBy.mem_rows among).mp held).1
    have uncurried := congrArg (List.map fun pair : List Cell × Expr =>
      evaluator.shownUnder table pivot group.rows pair.1 pair.2) pairs
    rw [List.map_map, List.map_flatMap] at uncurried
    simp only [List.map_map] at uncurried
    refine Eq.trans (List.map_congr_left fun column _ => ?_) uncurried
    exact crossedAt_eq pivotValued within column
  have crossedEqual : crossedShown.cellRows = evaluator.crossedRows table grouping pivot aggregates
      (groups.filter (!·.rows.isEmpty)) (keyed.map (·.key)) := by
    rw [crossedCells, crossedRows]
    exact List.map_congr_left fun group among => congrArg _ (inPivot group among)
  have flatEqual : flatShown.cellRows =
      evaluator.flatRows table (grouping ++ pivot) aggregates flatGroups := by
    rw [flatCells, flatRows]
    exact List.map_congr_left fun group _ => List.map_append
  rw [crossedEqual, flatEqual]
  exact crossTabulates_of_partitions valued both rowsBy keysBy bothBy

/-! ### Sales of two items in two places, one of them in no place -/

def placedSales : Table :=
  .ofHeader "sales" none [.text "item", .text "place", .text "sold"]
    [[.text "ink", .text "north", .int 10], [.text "pen", .text "south", .int 20],
      [.text "ink", .null, .int 30]]

def sumSold : Expr :=
  .aggregate .sum (named "sold")

def soldByPlace : SelectQuery :=
  { groupQuery [.expr (named "item") none, .expr sumSold none] [named "item"] with
    pivot := [named "place"] }

def soldByBoth : SelectQuery :=
  groupQuery [.expr (named "item") none, .expr (named "place") none, .expr sumSold none]
    [named "item", named "place"]

theorem crosses_sold :
    Crosses soldByPlace soldByBoth [named "item"] [named "place"] [sumSold] := by
  constructor <;> first | rfl | decide | exact ⟨rfl, rfl, rfl, rfl, rfl⟩

set_option maxRecDepth 4000 in
theorem placedSales_crossTabulates :
    ∃ crossedShown flatShown keys,
      morning.select soldByPlace placedSales = .ok crossedShown ∧
      morning.select soldByBoth placedSales = .ok flatShown ∧
      crossedShown.cellRows = [[.text "ink", .int 30, .int 10, .null],
        [.text "pen", .null, .null, .int 20]] ∧
      CrossTabulates 1 1 1 keys crossedShown.cellRows flatShown.cellRows := by
  have onCrossed : (morning.select soldByPlace placedSales).map SelectResult.cellRows =
      .ok [[.text "ink", .int 30, .int 10, .null], [.text "pen", .null, .null, .int 20]] := by
    cbv
  have onFlat : (morning.select soldByBoth placedSales).toOption.isSome = true := by
    cbv
  have numbers :
      morning.NeverNaN placedSales placedSales.rows ([named "item"] ++ [named "place"]) := by
    intro row among expr inExprs
    have rows : placedSales.rows = [⟨0, [.text "ink", .text "north", .int 10]⟩,
      ⟨1, [.text "pen", .text "south", .int 20]⟩, ⟨2, [.text "ink", .null, .int 30]⟩] := rfl
    simp only [rows, List.cons_append, List.nil_append, List.mem_cons, List.not_mem_nil,
      or_false] at among inExprs
    rcases among with rfl | rfl | rfl <;> rcases inExprs with rfl | rfl <;>
      (intro isNumber; cases isNumber)
  rw [map_eq_ok_iff] at onCrossed
  obtain ⟨crossedShown, crossed, cells⟩ := onCrossed
  cases flat : morning.select soldByBoth placedSales with
  | error failure => rw [flat] at onFlat; cases onFlat
  | ok flatShown =>
      obtain ⟨_, _, _, keys, -, -, -, -, -, tabulates⟩ := crossTabulates_of_select crosses_sold
        crossed flat fun rows passed => by cases passed; exact numbers
      exact ⟨crossedShown, flatShown, keys, crossed, rfl, cells, tabulates⟩

end Evaluator

end GridQuery
