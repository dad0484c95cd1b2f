import GridQuery.Proofs.Cell.MatchKey
import GridQuery.Proofs.Table.Place
import GridQuery.Table.Join

/-!
# Joins, pair by pair

A join finds the partners of a row by an index of the other table's rows. Its rows are those
of going through the other table once for each row, in the same order and as often.
-/

namespace GridQuery

/-- Whether a join sets two rows side by side that are joined at two places. -/
def joinsAt (leftPlace rightPlace : Nat) (left right : List Cell) : Bool :=
  (left.getD leftPlace .null).joins (right.getD rightPlace .null)

/-- The rows of a join, found by trying every pair of rows. -/
def nestedRows (kind : JoinKind) (leftWidth rightWidth : Nat)
    (joins : List Cell → List Cell → Bool) (leftRows rightRows : List (List Cell)) :
    List (List Cell) :=
  match kind with
  | .inner =>
      leftRows.flatMap fun left => (rightRows.filter (joins left)).map fun right => left ++ right
  | .left =>
      leftRows.flatMap fun left =>
        match rightRows.filter (joins left) with
        | [] => [left ++ List.replicate rightWidth .null]
        | found => found.map fun right => left ++ right
  | .right =>
      rightRows.flatMap fun right =>
        match leftRows.filter fun left => joins left right with
        | [] => [List.replicate leftWidth .null ++ right]
        | found => found.map fun left => left ++ right

/-! ### The index -/

/-- The partners of a key are the rows whose keys meet it, in their order. -/
theorem partners_some (key : MatchKey) (rows : List KeyedRow) :
    partners (rowIndex rows) (some key) =
      (rows.filter fun row => row.1.any (·.meets key)).map (·.2) := by
  rw [partners, rowIndex, Buckets.get_ofList MatchKey.sameness_meets]
  induction rows with
  | nil => rfl
  | cons row rows inductionHypothesis =>
      obtain ⟨given, cells⟩ := row
      cases given with
      | none => simpa using inductionHypothesis
      | some other =>
          by_cases met : other.meets key = true <;> simpa [met] using inductionHypothesis

/-- Rows with the keys that they are joined by at a place. -/
def keyedAt (place : Nat) (rows : List (List Cell)) : List KeyedRow :=
  rows.map fun cells => ((cells.getD place .null).key?, cells)

/-- The partners of a cell's key are the rows that the cell is joined to. -/
theorem partners_keyedAt (place : Nat) (rows : List (List Cell)) (cell : Cell) :
    partners (rowIndex (keyedAt place rows)) cell.key? =
      rows.filter fun row => cell.joins (row.getD place .null) := by
  cases found : cell.key? with
  | none => simp [partners, Cell.joins_of_none found]
  | some key =>
      have test (row : List Cell) : cell.joins (row.getD place .null) =
          (row.getD place .null).key?.any (·.meets key) := by
        rw [Cell.joins_of_some found]
        congr 1
        funext other
        exact Bool.eq_iff_iff.mpr
          ⟨MatchKey.sameness_meets.symm, MatchKey.sameness_meets.symm⟩
      rw [partners_some, keyedAt, List.filter_map, List.map_map]
      simp only [test]
      exact List.map_id _

variable {leftPlace rightPlace : Nat}

/-- Each row beside each of its partners, or alone if it has none and is kept. -/
theorem pairRows_keyedAt (beside : List Cell → List Cell → List Cell)
    (alone : Option (List Cell)) (place other : Nat) (rows others : List (List Cell)) :
    pairRows beside alone (rowIndex (keyedAt other others)) (keyedAt place rows) =
      rows.flatMap fun row =>
        match others.filter (joinsAt place other row) with
        | [] => (alone.map (beside row)).toList
        | found => found.map (beside row) := by
  rw [pairRows]
  conv => lhs; arg 2; rw [keyedAt]
  rw [List.flatMap_map]
  simp only [partners_keyedAt]
  rfl

/-- A join by an index is the join by trying every pair. -/
theorem joinRows_keyedAt (kind : JoinKind) (leftWidth rightWidth : Nat)
    (leftRows rightRows : List (List Cell)) :
    joinRows kind leftWidth rightWidth (keyedAt leftPlace leftRows)
        (keyedAt rightPlace rightRows) =
      nestedRows kind leftWidth rightWidth (joinsAt leftPlace rightPlace) leftRows
        rightRows := by
  cases kind with
  | inner =>
      rw [joinRows, pairRows_keyedAt]
      refine List.flatMap_congr fun left _ => ?_
      cases rightRows.filter (joinsAt leftPlace rightPlace left) <;> rfl
  | left =>
      rw [joinRows, pairRows_keyedAt]
      rfl
  | right =>
      have joined (right : List Cell) : joinsAt rightPlace leftPlace right =
          fun left => joinsAt leftPlace rightPlace left right :=
        funext fun left => Cell.joins_comm _ _
      rw [joinRows, pairRows_keyedAt]
      simp only [joined]
      rfl

/-! ### Rows that are kept -/

variable {leftWidth rightWidth : Nat} {joins : List Cell → List Cell → Bool}
  {leftRows rightRows : List (List Cell)}

theorem mem_nestedRows_left {left : List Cell} (among : left ∈ leftRows) :
    ∃ beside, left ++ beside ∈ nestedRows .left leftWidth rightWidth joins leftRows rightRows := by
  cases found : rightRows.filter (joins left) with
  | nil =>
      refine ⟨List.replicate rightWidth .null, List.mem_flatMap.mpr ⟨left, among, ?_⟩⟩
      simp [found]
  | cons right rest =>
      refine ⟨right, List.mem_flatMap.mpr ⟨left, among, ?_⟩⟩
      simp [found]

theorem mem_nestedRows_right {right : List Cell} (among : right ∈ rightRows) :
    ∃ beside,
      beside ++ right ∈ nestedRows .right leftWidth rightWidth joins leftRows rightRows := by
  cases found : leftRows.filter fun left => joins left right with
  | nil =>
      refine ⟨List.replicate leftWidth .null, List.mem_flatMap.mpr ⟨right, among, ?_⟩⟩
      simp [found]
  | cons left rest =>
      refine ⟨left, List.mem_flatMap.mpr ⟨right, among, ?_⟩⟩
      simp [found]

/-- Rows that join stand side by side, whichever rows are kept besides. -/
theorem mem_nestedRows_of_joins (kind : JoinKind) {left right : List Cell}
    (inLeft : left ∈ leftRows) (inRight : right ∈ rightRows) (joined : joins left right = true) :
    left ++ right ∈ nestedRows kind leftWidth rightWidth joins leftRows rightRows := by
  have partner : right ∈ rightRows.filter (joins left) := List.mem_filter.mpr ⟨inRight, joined⟩
  have partner' : left ∈ leftRows.filter fun left => joins left right :=
    List.mem_filter.mpr ⟨inLeft, joined⟩
  cases kind with
  | inner =>
      exact List.mem_flatMap.mpr ⟨left, inLeft, List.mem_map.mpr ⟨right, partner, rfl⟩⟩
  | left =>
      refine List.mem_flatMap.mpr ⟨left, inLeft, ?_⟩
      split
      · simp_all
      · exact List.mem_map.mpr ⟨right, partner, rfl⟩
  | right =>
      refine List.mem_flatMap.mpr ⟨right, inRight, ?_⟩
      split
      · simp_all
      · exact List.mem_map.mpr ⟨left, partner', rfl⟩

namespace Table

theorem map_cells_numbered (rows : List (List Cell)) : (numbered rows).map (·.cells) = rows := by
  simp [numbered, List.map_map, Function.comp_def]

/-- The cells of a table's rows. -/
def cellRows (table : Table) : List (List Cell) :=
  table.rows.map (·.cells)

/-- Every cell at a place gives a key or none, and none of them a fault. -/
def Keyed (table : Table) (place : Nat) : Prop :=
  ∀ row ∈ table.rows, ∃ key, (row.cells.getD place .null).matchKey? = .ok key

variable {table left right : Table} {place : Nat} {clause : JoinClause}

theorem keyedRows_eq (keyed : table.Keyed place) :
    table.keyedRows place = .ok (keyedAt place table.cellRows) := by
  have each (row : Row) (among : row ∈ table.rows) :
      (do return (← (row.cells.getD place .null).matchKey?, row.cells) :
        Except DataFault KeyedRow) = .ok ((row.cells.getD place .null).key?, row.cells) := by
    obtain ⟨key, found⟩ := keyed row among
    rw [found, Cell.key?, found]
    rfl
  rw [keyedRows, mapM_eq_ok_of_forall each, keyedAt, cellRows, List.map_map]
  rfl

theorem keyed_of_keyedRows {rows : List KeyedRow} (done : table.keyedRows place = .ok rows) :
    table.Keyed place := by
  intro row among
  have found := (mapM_eq_ok default done).1 row among
  rw [bind_eq_ok_iff] at found
  obtain ⟨key, given, -⟩ := found
  exact ⟨key, given⟩

/-- The table of two tables' rows side by side, joined by their keys. -/
def sideBySide (left right : Table) (kind : JoinKind) (leftRows rightRows : List KeyedRow) :
    Table where
  columns := left.columns ++ right.columns
  rows := numbered (joinRows kind left.columns.length right.columns.length leftRows rightRows)
  source := left.source
  aliasName := none
  joined := true
  header := []

/-- What a join has gone through: it has found its columns, and each row has given its
key. -/
theorem join_eq_ok_iff (result : Table) :
    left.join right clause = .ok result ↔
      ∃ places leftRows rightRows, left.joinPlaces right clause = .ok places ∧
        left.keyedRows places.1 = .ok leftRows ∧ right.keyedRows places.2 = .ok rightRows ∧
        left.sideBySide right clause.kind leftRows rightRows = result := by
  rw [join]
  cases kind : clause.kind with
  | inner | left =>
      simp only [bind_eq_ok_iff, lift_validation_eq_ok_iff, lift_data_eq_ok_iff, pure_eq_ok,
        Except.ok.injEq]
      constructor
      · rintro ⟨places, resolved, rightRows, onRight, leftRows, onLeft, _, rfl, rfl⟩
        exact ⟨places, leftRows, rightRows, resolved, onLeft, onRight, rfl⟩
      · rintro ⟨places, leftRows, rightRows, resolved, onLeft, onRight, rfl⟩
        exact ⟨places, resolved, rightRows, onRight, leftRows, onLeft, _, rfl, rfl⟩
  | right =>
      simp only [bind_eq_ok_iff, lift_validation_eq_ok_iff, lift_data_eq_ok_iff, pure_eq_ok,
        Except.ok.injEq]
      constructor
      · rintro ⟨places, resolved, leftRows, onLeft, rightRows, onRight, _, rfl, rfl⟩
        exact ⟨places, leftRows, rightRows, resolved, onLeft, onRight, rfl⟩
      · rintro ⟨places, leftRows, rightRows, resolved, onLeft, onRight, rfl⟩
        exact ⟨places, resolved, leftRows, onLeft, rightRows, onRight, _, rfl, rfl⟩

/-- The rows of a join are those of trying every pair of rows. -/
theorem cellRows_sideBySide (kind : JoinKind) :
    (left.sideBySide right kind (keyedAt leftPlace left.cellRows)
        (keyedAt rightPlace right.cellRows)).cellRows =
      nestedRows kind left.columns.length right.columns.length (joinsAt leftPlace rightPlace)
        left.cellRows right.cellRows := by
  rw [cellRows, sideBySide, map_cells_numbered, joinRows_keyedAt]

/-- A join of tables whose rows all give their keys or are without one has the rows of
trying every pair, in the order of the rows that it goes through. All rows of the side that
it keeps are among them, and a blank cell is joined to none. -/
theorem join_nestedRows
    (resolved : left.joinPlaces right clause = .ok (leftPlace, rightPlace))
    (leftKeyed : left.Keyed leftPlace) (rightKeyed : right.Keyed rightPlace) :
    ∃ result, left.join right clause = .ok result ∧
      result.cellRows =
        nestedRows clause.kind left.columns.length right.columns.length
          (joinsAt leftPlace rightPlace) left.cellRows right.cellRows ∧
      (clause.kind = .left →
        ∀ cells ∈ left.cellRows, ∃ beside, cells ++ beside ∈ result.cellRows) ∧
      (clause.kind = .right →
        ∀ cells ∈ right.cellRows, ∃ beside, beside ++ cells ∈ result.cellRows) ∧
      ∀ leftCells rightCells : List Cell,
        (leftCells.getD leftPlace .null).isBlank ∨ (rightCells.getD rightPlace .null).isBlank →
          joinsAt leftPlace rightPlace leftCells rightCells = false := by
  have onLeft := keyedRows_eq leftKeyed
  have onRight := keyedRows_eq rightKeyed
  have rows : (left.sideBySide right clause.kind (keyedAt leftPlace left.cellRows)
      (keyedAt rightPlace right.cellRows)).cellRows =
        nestedRows clause.kind left.columns.length right.columns.length
          (joinsAt leftPlace rightPlace) left.cellRows right.cellRows :=
    cellRows_sideBySide clause.kind
  refine ⟨_, (join_eq_ok_iff _).mpr ⟨_, _, _, resolved, onLeft, onRight, rfl⟩, rows, ?_, ?_, ?_⟩
  · intro kind cells among
    rw [rows, kind]
    exact mem_nestedRows_left among
  · intro kind cells among
    rw [rows, kind]
    exact mem_nestedRows_right among
  · intro leftCells rightCells blank
    exact Cell.joins_of_isBlank blank

/-! ### Orders and the customers who made them, some of them under numbers in texts -/

def orders : Table :=
  ofHeader "orders" none [.text "item", .text "by"]
    [[.text "ink", .int 10], [.text "pen", .text "20"], [.text "nib"], [.text "cap", .int 40]]

def customers : Table :=
  ofHeader "customers" none [.text "id"] [[.text "10"], [.int 20], [.text ""], [.int 10]]

def orderedBy (kind : JoinKind) : JoinClause :=
  ⟨kind, ⟨"customers", true, none⟩, ⟨none, "by"⟩, ⟨none, "id"⟩⟩

theorem orders_join_customers :
    ∃ result, orders.join customers (orderedBy .left) = .ok result ∧
      result.cellRows =
        [[.text "ink", .int 10, .text "10"], [.text "ink", .int 10, .int 10],
          [.text "pen", .text "20", .int 20], [.text "nib", .null, .null],
          [.text "cap", .int 40, .null]] := by
  have resolved : orders.joinPlaces customers (orderedBy .left) = .ok (1, 0) := by rfl
  have byOrder : ∃ rows, orders.keyedRows 1 = .ok rows := ⟨_, by rfl⟩
  have byCustomer : ∃ rows, customers.keyedRows 0 = .ok rows := ⟨_, by rfl⟩
  obtain ⟨_, onLeft⟩ := byOrder
  obtain ⟨_, onRight⟩ := byCustomer
  obtain ⟨result, done, rows, -⟩ := join_nestedRows resolved (keyed_of_keyedRows onLeft)
    (keyed_of_keyedRows onRight)
  exact ⟨result, done, rows.trans (by decide +kernel)⟩

end Table

end GridQuery
