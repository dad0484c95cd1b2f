import GridQuery.Proofs.Order
import GridQuery.Proofs.Select.Distinct
import GridQuery.Proofs.Select.Whole

/-!
# Counts, least and greatest cells

A count, a least and a greatest cell of a column can be read from the rows that have a cell
there, in their order: as many as there are, and the first of them, in either direction. Cells
that are on a par make a difference: of the least ones the first counts in both cases, but of
the greatest ones an aggregate takes the first and the sorted rows begin with the last.
-/

namespace GridQuery

/-! ### The first cell that no other precedes -/

/-- Of two keys at most one is ahead of the other. -/
theorem SortKey.order_ne_of_order_eq {wanted : Ordering} (strict : wanted ≠ .eq)
    {left right : SortKey} (ahead : left.order right = wanted) : right.order left ≠ wanted := by
  rw [SortKey.orders.swap left right, ahead]
  cases wanted with
  | eq => exact absurd rfl strict
  | lt | gt => exact Ordering.noConfusion

/-- What is ahead of one key is ahead of all that are not ahead of it. -/
theorem SortKey.order_eq_of_ne {wanted : Ordering} (strict : wanted ≠ .eq)
    {first second third : SortKey} (here : first.IsGiven) (there : second.IsGiven)
    (beyond : third.IsGiven) (ahead : first.order second = wanted)
    (behind : third.order second ≠ wanted) : first.order third = wanted := by
  cases wanted with
  | eq => exact absurd rfl strict
  | lt =>
      have after : (second.order third).isLE = true := by
        rw [SortKey.orders.swap third second]
        cases told : third.order second <;> simp_all
      exact SortKey.orders.lt_of_lt_of_isLE here there beyond ahead after
  | gt =>
      have before : (third.order second).isLE = true := by
        cases told : third.order second <;> simp_all
      have less : second.order first = .lt := by
        rw [SortKey.orders.swap first second, ahead]
        rfl
      rw [SortKey.orders.swap third first,
        SortKey.orders.lt_of_isLE_of_lt beyond there here before less]
      rfl

/-- The first of some cells and the rest that no other precedes, with its key. -/
def extremeEntry (wanted : Ordering) (first : SortKey × Cell) (rest : List (SortKey × Cell)) :
    SortKey × Cell :=
  rest.foldl (fun best candidate =>
    if candidate.1.order best.1 == wanted then candidate else best) first

/-- A cell is ahead of all cells before it, and none after it is ahead of it. -/
structure IsExtreme (wanted : Ordering) (before : List (SortKey × Cell)) (best : SortKey × Cell)
    (after : List (SortKey × Cell)) : Prop where
  ahead : ∀ earlier ∈ before, best.1.order earlier.1 = wanted
  behind : ∀ later ∈ after, later.1.order best.1 ≠ wanted

theorem IsExtreme.order_ne {wanted : Ordering} (strict : wanted ≠ .eq)
    {before after : List (SortKey × Cell)} {best : SortKey × Cell}
    (extreme : IsExtreme wanted before best after) :
    ∀ entry ∈ before ++ best :: after, entry.1.order best.1 ≠ wanted := by
  intro entry among
  rw [List.mem_append, List.mem_cons] at among
  rcases among with inBefore | rfl | inAfter
  · exact SortKey.order_ne_of_order_eq strict (extreme.ahead entry inBefore)
  · exact fun same => SortKey.order_ne_of_order_eq strict same same
  · exact extreme.behind entry inAfter

theorem extremeEntry_append (wanted : Ordering) (first last : SortKey × Cell)
    (rest : List (SortKey × Cell)) :
    extremeEntry wanted first (rest ++ [last]) =
      if last.1.order (extremeEntry wanted first rest).1 == wanted then last
      else extremeEntry wanted first rest := by
  rw [extremeEntry, List.foldl_append]
  rfl

theorem extremeEntry_mem (wanted : Ordering) (first : SortKey × Cell)
    (rest : List (SortKey × Cell)) : extremeEntry wanted first rest ∈ first :: rest := by
  induction rest using List.reverseRecOn with
  | nil => exact List.mem_cons_self
  | append_singleton rest last inductionHypothesis =>
      rw [extremeEntry_append, ← List.cons_append]
      split_ifs
      · exact List.mem_append_right _ List.mem_cons_self
      · exact List.mem_append_left _ inductionHypothesis

theorem extremeEntry_split {wanted : Ordering} (strict : wanted ≠ .eq) (first : SortKey × Cell)
    (rest : List (SortKey × Cell)) (given : ∀ entry ∈ first :: rest, entry.1.IsGiven) :
    ∃ before after, first :: rest = before ++ extremeEntry wanted first rest :: after ∧
      IsExtreme wanted before (extremeEntry wanted first rest) after := by
  induction rest using List.reverseRecOn with
  | nil => exact ⟨[], [], rfl, by simp, by simp⟩
  | append_singleton rest last inductionHypothesis =>
      have fewer : first :: rest ⊆ first :: (rest ++ [last]) :=
        List.cons_subset_cons first (List.subset_append_left rest [last])
      obtain ⟨before, after, split, extreme⟩ :=
        inductionHypothesis fun entry among => given entry (fewer among)
      rw [extremeEntry_append, ← List.cons_append]
      split_ifs with wins
      · refine ⟨first :: rest, [], rfl, fun earlier among => ?_, by simp⟩
        have here := given last (by simp)
        have there := given _ (fewer (extremeEntry_mem wanted first rest))
        have beyond := given earlier (fewer among)
        refine SortKey.order_eq_of_ne strict here there beyond (beq_iff_eq.mp wins) ?_
        exact extreme.order_ne strict earlier (split ▸ among)
      · refine ⟨before, after ++ [last], by rw [split]; simp, extreme.ahead, fun later among => ?_⟩
        rcases List.mem_append.mp among with inAfter | isLast
        · exact extreme.behind later inAfter
        · obtain rfl := List.mem_singleton.mp isLast
          exact fun same => wins (beq_iff_eq.mpr same)

/-! ### The first of the sorted cells -/

/-- The order of two entries of one key each. -/
theorem comparePlaced_single (descending : Bool) (left right : SortKey) (place other : Nat) :
    comparePlaced [descending] ([left], place) ([right], other) =
      (directed descending (left.order right)).then (directed descending (compare place other)) :=
  congrArg (Ordering.then · _) Ordering.then_eq

variable {descending : Bool} {keyed : List (SortKey × Cell)} {place : Nat} {places : List Nat}

/-- The entry at the first place is before all others. -/
theorem exists_front (given : ∀ entry ∈ keyed, entry.1.IsGiven)
    (sorted : sortPlaces [descending] (keyed.map fun entry => [entry.1]) = place :: places) :
    ∃ top, keyed[place]? = some top ∧ ∀ other entry, keyed[other]? = some entry →
      other = place ∨ comparePlaced [descending] ([top.1], place) ([entry.1], other) = .lt := by
  have all := sortPlaces_perm [descending] (keyed.map fun entry => [entry.1])
  rw [sorted, List.length_map] at all
  have rows : ∀ row ∈ keyed.map fun entry => [entry.1], IsKeyRow [descending] row := by
    intro row among
    obtain ⟨entry, inKeyed, rfl⟩ := List.mem_map.mp among
    exact ⟨rfl, fun key held => List.mem_singleton.mp held ▸ given entry inKeyed⟩
  have ordered := pairwise_sortPlaces rows
  rw [sorted, List.pairwise_cons] at ordered
  have keyAt {other : Nat} {entry : SortKey × Cell} (found : keyed[other]? = some entry) :
      (keyed.map fun entry => [entry.1]).getD other [] = [entry.1] := by
    rw [List.getD_eq_getElem?_getD, List.getElem?_map, found]
    rfl
  have within : place < keyed.length := List.mem_range.mp (all.subset List.mem_cons_self)
  have top := List.getElem?_eq_getElem within
  refine ⟨_, top, fun other entry found => ?_⟩
  have inRange : other ∈ List.range keyed.length :=
    List.mem_range.mpr (List.getElem?_eq_some_iff.mp found).1
  refine (List.mem_cons.mp (all.symm.subset inRange)).imp_right fun later => ?_
  have before := ordered.1 other later
  rwa [keyAt top, keyAt found] at before

/-- The entry at the first place is on a par with the extreme one; in ascending order it is
that one. -/
theorem front_of_extremeEntry {first : SortKey × Cell} {rest : List (SortKey × Cell)}
    (given : ∀ entry ∈ first :: rest, entry.1.IsGiven)
    (sorted : sortPlaces [descending] ((first :: rest).map fun entry => [entry.1]) =
      place :: places) :
    ∃ top, (first :: rest)[place]? = some top ∧
      (extremeEntry (directed descending .lt) first rest).1.order top.1 = .eq ∧
      (descending = false → top = extremeEntry (directed descending .lt) first rest) := by
  have strict : directed descending .lt ≠ .eq := by cases descending <;> decide
  obtain ⟨before, after, split, extreme⟩ := extremeEntry_split strict first rest given
  obtain ⟨top, found, least⟩ := exists_front given sorted
  generalize extremeEntry (directed descending .lt) first rest = best at *
  rw [split] at found
  have here : (first :: rest)[before.length]? = some best := by simp [split]
  refine ⟨top, split ▸ found, ?_⟩
  rcases least before.length best here with rfl | ahead
  · obtain rfl : best = top := by simpa using found
    exact ⟨SortKey.orders.order_self best.1, fun _ => rfl⟩
  · have behind := extreme.order_ne strict top (List.mem_of_getElem? found)
    rw [comparePlaced_single, Ordering.then_eq_lt, directed_eq_iff, directed_eq_iff,
      directed_eq_iff] at ahead
    obtain ⟨level, earlier⟩ := ahead.resolve_left behind
    have onPar : best.1.order top.1 = .eq := by
      rw [SortKey.orders.swap top.1 best.1, level]
      cases descending <;> rfl
    refine ⟨onPar, fun ascending => ?_⟩
    subst ascending
    have within : place < before.length := Nat.compare_eq_lt.mp earlier
    rw [List.getElem?_append_left within] at found
    cases onPar.symm.trans (extreme.ahead top (List.mem_of_getElem? found))

/-! ### Aggregates of cells -/

/-- Whether two cells are one as far as sorting can tell. -/
def Cell.OnAPar (left right : Cell) : Prop :=
  ∃ key other, left.sortKey = .ok key ∧ right.sortKey = .ok other ∧ key.order other = .eq

/-- The least of some cells, or the greatest. -/
def Aggregate.extreme (descending : Bool) : Aggregate :=
  if descending then .max else .min

/-- A cell is what sorted cells have in front: null if there are none, the first one itself if
they ascend, and one that is on a par with it if they descend. -/
structure IsInFront (descending : Bool) (cell : Cell) (sorted : List Cell) : Prop where
  none : sorted = [] → cell = .null
  some : ∀ top rest, sorted = top :: rest →
    cell ∈ sorted ∧ cell.OnAPar top ∧ (descending = false → cell = top)

/-- Cells that can be sorted have keys. -/
theorem exists_keyed {cells : List Cell}
    (ordered : sortPositions [descending] (cells.map ([·])) = .ok places) :
    ∃ keyed : List (SortKey × Cell),
      (cells.mapM fun cell => return (← cell.sortKey, cell) :
        Except DataFault (List (SortKey × Cell))) = .ok keyed ∧
      cells = keyed.map (·.2) ∧ (∀ entry ∈ keyed, entry.2.sortKey = .ok entry.1) ∧
      places = sortPlaces [descending] (keyed.map fun entry => [entry.1]) := by
  simp only [sortPositions, List.mapM_map, bind_eq_ok_iff, pure_eq_ok, Except.ok.injEq] at ordered
  obtain ⟨keys, read, rfl⟩ := ordered
  have single (cell : Cell) (keys : List SortKey) : ([cell].mapM Cell.sortKey) = .ok keys ↔
      ∃ key, cell.sortKey = .ok key ∧ [key] = keys := by
    simp
  have each : ∀ cell ∈ cells, cell.sortKey = .ok (cell.sortKey.toOption.getD .null) := by
    intro cell among
    obtain ⟨key, found, -⟩ := (single cell _).mp ((mapM_eq_ok [] read).1 cell among)
    rw [found]
    rfl
  refine ⟨cells.map fun cell => (cell.sortKey.toOption.getD .null, cell), ?_, ?_, ?_, ?_⟩
  · refine mapM_eq_ok_of_forall fun cell among => ?_
    rw [each cell among]
    rfl
  · rw [List.map_map]
    exact (List.map_id cells).symm
  · intro entry among
    obtain ⟨cell, inCells, rfl⟩ := List.mem_map.mp among
    exact each cell inCells
  · have keyed : cells.mapM (fun cell => [cell].mapM Cell.sortKey) =
        .ok (cells.map fun cell => [cell.sortKey.toOption.getD .null]) :=
      mapM_eq_ok_of_forall fun cell among => (single cell _).mpr ⟨_, each cell among, rfl⟩
    rw [List.map_map]
    exact congrArg _ (Except.ok.inj (read.symm.trans keyed))

/-- The extreme of cells with their keys is what the cells have in front once they are
sorted. -/
theorem isInFront_extremeCell (given : ∀ entry ∈ keyed, entry.1.IsGiven)
    (read : ∀ entry ∈ keyed, entry.2.sortKey = .ok entry.1) :
    IsInFront descending (extremeCell (directed descending .lt) keyed)
      (pick (keyed.map (·.2)) (sortPlaces [descending] (keyed.map fun entry => [entry.1]))) := by
  have all := sortPlaces_perm [descending] (keyed.map fun entry => [entry.1])
  rw [List.length_map] at all
  have picked := pick_perm all
  rw [pick_map]
  cases keyed with
  | nil => exact ⟨fun _ => rfl, fun top rest isFront => by simp [pick] at isFront⟩
  | cons first rest =>
      cases sorted : sortPlaces [descending] ((first :: rest).map fun entry => [entry.1]) with
      | nil =>
          rw [sorted] at all
          exact absurd all.length_eq (by simp)
      | cons place places =>
          obtain ⟨top, found, onPar, same⟩ := front_of_extremeEntry given sorted
          have best := extremeEntry_mem (directed descending .lt) first rest
          have front : pick (first :: rest) (place :: places) =
              top :: pick (first :: rest) places :=
            List.filterMap_cons_some found
          rw [sorted] at picked
          constructor
          case none => simp [front]
          case some =>
            intro cell others isFront
            have member := List.mem_map_of_mem (f := Prod.snd) (picked.symm.subset best)
            rw [front, List.map_cons] at isFront
            obtain ⟨rfl, -⟩ := List.cons.inj isFront
            have inKeyed := List.mem_of_getElem? found
            exact ⟨member, ⟨_, _, read _ best, read _ inKeyed, onPar⟩,
              fun ascending => congrArg Prod.snd (same ascending).symm⟩

/-- The extreme of some cells is what those of them that are not blank have in front. -/
theorem exists_extreme {cells : List Cell} (numbers : ∀ cell ∈ cells, ¬ cell.isNaN)
    (ordered : sortPositions [descending] ((cells.filter (!·.isBlank)).map ([·])) = .ok places) :
    ∃ cell, (Aggregate.extreme descending).apply cells = .ok cell ∧
      IsInFront descending cell (pick (cells.filter (!·.isBlank)) places) := by
  obtain ⟨keyed, made, present, read, rfl⟩ := exists_keyed ordered
  have given : ∀ entry ∈ keyed, entry.1.IsGiven := by
    intro entry among
    have inPresent : entry.2 ∈ cells.filter (!·.isBlank) := present ▸ List.mem_map_of_mem among
    have number := numbers entry.2 (List.mem_of_mem_filter inPresent)
    exact SortKey.isGiven_of_sortKey number (read entry among)
  have applied : (Aggregate.extreme descending).apply cells =
      .ok (extremeCell (directed descending .lt) keyed) := by
    cases descending <;> simp only [Aggregate.apply, made] <;> rfl
  rw [present]
  exact ⟨_, applied, isInFront_extremeCell given read⟩

@[simp]
theorem Cell.isTruthy_boolean (flag : Bool) : (boolean flag).isTruthy = flag := rfl

namespace Evaluator

variable {evaluator : Evaluator} {table : Table} {source : Option TableRef}
  {joins : List JoinClause} {condition : Expr} {reference : ColumnRef} {rows : List Row}
  {shown : SelectResult}

/-! ### The cells of a column, in their order -/

/-- A query for the cells of a column that are not blank, in their order. -/
def presentQuery (source : Option TableRef) (joins : List JoinClause) (condition : Expr)
    (reference : ColumnRef) (descending : Bool) : SelectQuery :=
  { groupQuery [.expr (.column reference) none] [] with
    source, joins
    filter := some (.compound .and condition (.nullCheck (.column reference) true))
    orderBy := [⟨.column reference, descending⟩] }

theorem holds_present {own : Nat} (resolved : table.resolve reference = .ok own) (row : Row) :
    evaluator.holds (.ofRow table row.cells)
        (.compound .and condition (.nullCheck (.column reference) true)) =
      (evaluator.holds (.ofRow table row.cells) condition).map
        (· && !(row.cells.getD own .null).isBlank) := by
  have given : evaluator.value (.ofRow table row.cells) (.nullCheck (.column reference) true) =
      .ok (.boolean !(row.cells.getD own .null).isBlank) := by
    rw [value, value_column resolved, ← Bool.bne_true]
    rfl
  rw [holds, holds, value, given]
  cases evaluator.value (.ofRow table row.cells) condition with
  | error cause => rfl
  | ok cell =>
      cases truth : cell.isTruthy <;>
        simp [bind, Except.bind, Except.map, truth]

/-- Of the rows that pass a condition those pass that have a cell in a column. -/
theorem filterRows_present {own : Nat} (resolved : table.resolve reference = .ok own)
    (done : evaluator.filterRows table
      (.compound .and condition (.nullCheck (.column reference) true)) = .ok rows) :
    ∃ passing, evaluator.filterRows table condition = .ok passing ∧
      rows = passing.filter fun row => !(row.cells.getD own .null).isBlank := by
  obtain ⟨passes, each, rfl⟩ := filterM_eq_ok done
  have both (row : Row) (among : row ∈ table.rows) : ∃ truth : Bool,
      evaluator.holds (.ofRow table row.cells) condition = .ok truth ∧
        (truth && !(row.cells.getD own .null).isBlank) = passes row := by
    rw [← map_eq_ok_iff, ← holds_present resolved]
    exact each row among
  choose! truth holds passed using both
  refine ⟨_, filterM_eq_ok_of_forall holds, ?_⟩
  rw [List.filter_filter]
  exact List.filter_congr fun row among => (passed row among).symm.trans (Bool.and_comm _ _)

theorem check_and_present :
    table.check (.compound .and condition (.nullCheck (.column reference) true)) = .ok () ↔
      table.check condition = .ok () ∧ ∃ own, table.resolve reference = .ok own := by
  rw [← check_column]
  simp only [Table.check, Expr.columns, forM_eq_ok_iff, List.mem_append]
  constructor
  · intro all
    exact ⟨fun own among => all own (.inl among), fun own among => all own (.inr among)⟩
  · rintro ⟨left, right⟩ own (among | among)
    · exact left own among
    · exact right own among

theorem isAggregated_presentQuery {columns : List OutputColumn} {descending : Bool}
    (listed : columns.map (·.expr) = [.column reference]) :
    (presentQuery source joins condition reference descending).isAggregated columns = false := by
  have shown (column : OutputColumn) (among : column ∈ columns) :
      column.expr.hasAggregate = false := by
    have inList := List.mem_map_of_mem (f := OutputColumn.expr) among
    rw [listed, List.mem_singleton] at inList
    rw [inList, Expr.hasAggregate]
  simpa [SelectQuery.isAggregated, presentQuery, groupQuery, Expr.hasAggregate] using shown

/-- The rows that have a cell are sorted by it. -/
theorem cells_of_arrange {own : Nat} (resolved : table.resolve reference = .ok own)
    {columns : List OutputColumn} {descending : Bool} {arranged : Output}
    (ordered : evaluator.arrange (presentQuery source joins condition reference descending)
      ⟨columns, rows.map (evaluator.shownRow table [.column reference])⟩ = .ok arranged) :
    ∃ places, sortPositions [descending] ((rows.map fun row => row.cells.getD own .null).map
        ([·])) = .ok places ∧
      arranged.rows.map (·.cells) =
        (pick (rows.map fun row => row.cells.getD own .null) places).map ([·]) := by
  simp only [arrange, distinctRows, presentQuery, groupQuery, Bool.not_false, if_true, pure_eq_ok,
    bind_eq_ok_iff, Except.ok.injEq, exists_eq_left', sortRows_map, map_eq_ok_iff] at ordered
  obtain ⟨_, ⟨sorted, sorts, rfl⟩, rfl⟩ := ordered
  have values (row : Row) (_ : row ∈ rows) :
      evaluator.values (evaluator.shownRow table [.column reference] row).context
        ([OrderKey.mk (.column reference) descending].map (·.expr)) =
          .ok [row.cells.getD own .null] := by
    simp only [values, shownRow, List.map_cons, List.map_nil, List.mapM_cons, List.mapM_nil,
      value_column resolved]
    rfl
  obtain ⟨places, positions, rfl⟩ :=
    (sortRows_eq_ok_iff (List.cons_ne_nil _ _) values sorted).mp sorts
  refine ⟨places, ?_, ?_⟩
  · rw [List.map_map]
    exact positions
  · rw [page, List.drop_zero, ← pick_map, ← pick_map, ← pick_map, List.map_map, List.map_map]
    refine congrArg (pick · places) (List.map_congr_left fun row _ => ?_)
    exact congrArg ([·]) (cellAt_column resolved row)

/-- What a query for the cells of a column has gone through, and its result. -/
theorem cellRows_of_presentQuery {descending : Bool}
    (done : evaluator.select (presentQuery source joins condition reference descending) table =
      .ok shown) :
    ∃ own passing places, table.resolve reference = .ok own ∧
      condition.hasAggregate = false ∧ table.check condition = .ok () ∧
      evaluator.filterRows table condition = .ok passing ∧
      sortPositions [descending] (((passing.map fun row => row.cells.getD own .null).filter
        (!·.isBlank)).map ([·])) = .ok places ∧
      shown.cellRows = (pick ((passing.map fun row => row.cells.getD own .null).filter
        (!·.isBlank)) places).map ([·]) := by
  simp only [select, bind_eq_ok_iff, lift_validation_eq_ok_iff] at done
  obtain ⟨columns, shows, _, checks, rows, passed, output, made, arranged, ordered, rendered⟩ :=
    done
  have checked := SelectQuery.check_eq_ok_iff.mp checks
  have plain : condition.hasAggregate = false := by
    have filtered := checked.filtered
    simp only [presentQuery, Option.any_some, Expr.hasAggregate, Bool.or_eq_false_iff] at filtered
    exact filtered.1
  obtain ⟨known, own, resolved⟩ := check_and_present.mp (checked.filter _ rfl)
  obtain ⟨passing, filtered, rfl⟩ := filterRows_present resolved passed
  have given : OutputColumn.ofItems table ([Expr.column reference].map (.expr · none)) =
      .ok columns := shows
  have listed : columns.map (·.expr) = [.column reference] := exprs_of_ofItems rfl given
  obtain rfl := outputOf_plain (isAggregated_presentQuery listed) rfl (plain_of_ofItems given) made
  rw [listed] at ordered
  obtain ⟨places, positions, cells⟩ := cells_of_arrange resolved ordered
  refine ⟨own, passing, places, resolved, plain, known, filtered, ?_, ?_⟩
  · rw [List.filter_map]
    exact positions
  · rw [(cellRows_of_render rendered).1, cells, List.filter_map]
    rfl

theorem filterRows_subset (done : evaluator.filterRows table condition = .ok rows) :
    rows ⊆ table.rows := by
  obtain ⟨passes, -, rfl⟩ := filterM_eq_ok done
  exact List.filter_subset_self _

theorem not_isNaN_getD {cells : List Cell} (numbers : ∀ cell ∈ cells, ¬ cell.isNaN) (place : Nat) :
    ¬ (cells.getD place .null).isNaN := by
  rw [List.getD_eq_getElem?_getD]
  cases found : cells[place]? with
  | none => exact Cell.noConfusion
  | some cell => exact numbers cell (List.mem_of_getElem? found)

/-- Aggregates of the cells that pass, from the query for them. -/
theorem select_extreme {descending : Bool}
    (numbers : ∀ row ∈ table.rows, ∀ cell ∈ row.cells, ¬ cell.isNaN)
    (done : evaluator.select (presentQuery source joins condition reference descending) table =
      .ok shown) :
    ∃ sorted, shown.cellRows = sorted.map ([·]) ∧
      (∃ whole, evaluator.select (wholeQuery source joins (some condition) .count reference)
        table = .ok whole ∧ whole.cellRows = [[.int sorted.length]]) ∧
      ∃ whole cell, evaluator.select (wholeQuery source joins (some condition)
        (.extreme descending) reference) table = .ok whole ∧ whole.cellRows = [[cell]] ∧
        IsInFront descending cell sorted := by
  obtain ⟨own, passing, places, resolved, plain, known, filtered, ordered, cells⟩ :=
    cellRows_of_presentQuery done
  have all (function : Aggregate) {cell : Cell}
      (applied : function.apply (passing.map fun row => row.cells.getD own .null) = .ok cell) :
      ∃ whole, evaluator.select (wholeQuery source joins (some condition) function reference)
        table = .ok whole ∧ whole.cellRows = [[cell]] := by
    have unaggregated : (some condition).any (·.hasAggregate) = false := plain
    have checked : ∀ other ∈ some condition, table.check other = .ok () := by simpa using known
    exact select_wholeQuery resolved unaggregated checked filtered applied
  refine ⟨_, cells, ?_, ?_⟩
  · have every := sortPositions_perm ordered
    rw [List.length_map] at every
    refine all .count ?_
    rw [(pick_perm every).length_eq]
    rfl
  · have given : ∀ cell ∈ passing.map fun row => row.cells.getD own .null, ¬ cell.isNaN := by
      intro cell among
      obtain ⟨row, inPassing, rfl⟩ := List.mem_map.mp among
      exact not_isNaN_getD (numbers row (filterRows_subset filtered inPassing)) own
    obtain ⟨cell, applied, inFront⟩ := exists_extreme given ordered
    obtain ⟨whole, selected, one⟩ := all _ applied
    exact ⟨whole, cell, selected, one, inFront⟩

/-- A count, a least and a greatest cell of a column are what the cells of the column show
that are not blank, in their order: how many there are, the first of them if they ascend, and
if they descend one that is on a par with the first. -/
theorem aggregates_of_sorted {ascending descending : SelectResult}
    (numbers : ∀ row ∈ table.rows, ∀ cell ∈ row.cells, ¬ cell.isNaN)
    (ascends : evaluator.select (presentQuery source joins condition reference false) table =
      .ok ascending)
    (descends : evaluator.select (presentQuery source joins condition reference true) table =
      .ok descending) :
    (∃ whole, evaluator.select (wholeQuery source joins (some condition) .count reference)
      table = .ok whole ∧ whole.cellRows = [[.int ascending.cellRows.length]]) ∧
    (∃ whole cell, evaluator.select (wholeQuery source joins (some condition) .min reference)
      table = .ok whole ∧ whole.cellRows = [[cell]] ∧
      (ascending.cellRows = [] → cell = .null) ∧
      ∀ first rest, ascending.cellRows = first :: rest → first = [cell]) ∧
    ∃ whole cell, evaluator.select (wholeQuery source joins (some condition) .max reference)
      table = .ok whole ∧ whole.cellRows = [[cell]] ∧
      (descending.cellRows = [] → cell = .null) ∧
      ∀ first rest, descending.cellRows = first :: rest →
        [cell] ∈ descending.cellRows ∧ ∃ top, first = [top] ∧ cell.OnAPar top := by
  obtain ⟨up, upRows, counted, least, cell, minimum, cells, inFront⟩ :=
    select_extreme numbers ascends
  obtain ⟨down, downRows, -, greatest, top, maximum, topCells, topFront⟩ :=
    select_extreme numbers descends
  rw [upRows, downRows, List.length_map]
  refine ⟨counted, ⟨least, cell, minimum, cells, ?_, ?_⟩, greatest, top, maximum, topCells, ?_, ?_⟩
  · exact fun empty => inFront.none (List.map_eq_nil_iff.mp empty)
  · intro first rest isFront
    obtain ⟨front, others, rfl, rfl, -⟩ := List.map_eq_cons_iff.mp isFront
    rw [(inFront.some front others rfl).2.2 rfl]
  · exact fun empty => topFront.none (List.map_eq_nil_iff.mp empty)
  · intro first rest isFront
    obtain ⟨front, others, rfl, rfl, -⟩ := List.map_eq_cons_iff.mp isFront
    obtain ⟨among, onPar, -⟩ := topFront.some front others rfl
    exact ⟨List.mem_map_of_mem among, front, rfl, onPar⟩

/-! ### The items of some sales, one of them sold twice -/

def isSold : Expr :=
  .nullCheck (named "sold") true

theorem sales_noNaN : ∀ row ∈ sales.rows, ∀ cell ∈ row.cells, ¬ cell.isNaN := by
  have rows : sales.rows = [⟨0, [.text "ink", .int 10]⟩, ⟨1, [.text "pen", .int 20]⟩,
    ⟨2, [.text "ink", .int 30]⟩] := rfl
  intro row among cell held isNaN
  cases isNaN
  simp only [rows, List.mem_cons, List.not_mem_nil, or_false] at among
  rcases among with rfl | rfl | rfl <;> simp [Cell.int] at held

set_option maxRecDepth 4000 in
theorem sales_extremes :
    ∃ ascending descending,
      morning.select (presentQuery none [] isSold ⟨none, "item"⟩ false) sales = .ok ascending ∧
      ascending.cellRows = [[.text "ink"], [.text "ink"], [.text "pen"]] ∧
      morning.select (presentQuery none [] isSold ⟨none, "item"⟩ true) sales = .ok descending ∧
      descending.cellRows = [[.text "pen"], [.text "ink"], [.text "ink"]] ∧
      (∃ whole, morning.select (wholeQuery none [] (some isSold) .count ⟨none, "item"⟩) sales =
        .ok whole ∧ whole.cellRows = [[.int 3]]) ∧
      (∃ whole, morning.select (wholeQuery none [] (some isSold) .min ⟨none, "item"⟩) sales =
        .ok whole ∧ whole.cellRows = [[.text "ink"]]) ∧
      ∃ whole cell, morning.select (wholeQuery none [] (some isSold) .max ⟨none, "item"⟩) sales =
        .ok whole ∧ whole.cellRows = [[cell]] ∧ cell.OnAPar (.text "pen") := by
  let items : List String → SelectResult := fun texts =>
    ⟨[⟨"item", "item", .string, none⟩], texts.map fun text => [⟨.text text, none⟩], .null⟩
  have ascends : morning.select (presentQuery none [] isSold ⟨none, "item"⟩ false) sales =
      .ok (items ["ink", "ink", "pen"]) := by
    cbv
  have descends : morning.select (presentQuery none [] isSold ⟨none, "item"⟩ true) sales =
      .ok (items ["pen", "ink", "ink"]) := by
    cbv
  obtain ⟨counted, ⟨least, cell, minimum, cells, -, first⟩, greatest, other, maximum, others, -,
    top⟩ := aggregates_of_sorted sales_noNaN ascends descends
  obtain ⟨rfl⟩ : cell = .text "ink" := by
    simpa using (first _ _ rfl).symm
  obtain ⟨-, front, isPen, onPar⟩ := top _ _ rfl
  obtain rfl : .text "pen" = front := List.head_eq_of_cons_eq isPen
  exact ⟨_, _, ascends, rfl, descends, rfl, counted, ⟨least, minimum, cells⟩, greatest, other,
    maximum, others, onPar⟩

end Evaluator

end GridQuery
