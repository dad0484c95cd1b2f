import GridQuery.Grid.Memory
import Mathlib.Data.List.Basic

/-!
# The rows of a sheet under reading and writing

A read shows rows of the sheet where they stand, a write sets single cells and leaves the
others as they are, and rows that go take no other row with them.
-/

namespace GridQuery.SheetRows

/-! ### Cells -/

/-- The cell of a row, counted from one, in a column, counted from zero. -/
def cell? (rows : SheetRows) : Nat → Nat → Option Datum
  | 0, _ => none
  | place + 1, column => (rows[place]?).bind (·[column]?)

/-- One cell to be set: the row counted from one, the column from zero. -/
structure CellWrite where
  row : Nat
  column : Nat
  value : Datum

def CellWrite.apply (rows : SheetRows) (write : CellWrite) : SheetRows :=
  setCell (write.row - 1) write.column write.value rows

/-- The row of a write is one of the sheet's. -/
def CellWrite.Inside (rows : SheetRows) (write : CellWrite) : Prop :=
  1 ≤ write.row ∧ write.row ≤ rows.length

theorem getElem?_setInRow (column : Nat) (value : Datum) (row : List Datum) (other : Nat) :
    (setInRow column value row)[other]? =
      if other = column then some value
      else if other < row.length then row[other]?
      else if other < column then some (.text "")
      else none := by
  rw [setInRow, List.getElem?_set]
  by_cases same : column = other
  · subst same
    simp
    omega
  · have different : ¬ other = column := fun equal => same equal.symm
    rw [if_neg same, if_neg different, List.getElem?_append]
    split
    · rfl
    · rw [List.getElem?_replicate]
      congr 1
      simp
      omega

variable {rows : SheetRows} {write : CellWrite}

theorem apply_eq_modify (inside : write.Inside rows) :
    write.apply rows = rows.modify (write.row - 1) (setInRow write.column write.value) := by
  have enough : write.row - 1 + 1 - rows.length = 0 := by
    have := inside.1
    have := inside.2
    omega
  simp [CellWrite.apply, setCell, enough]

theorem length_apply (inside : write.Inside rows) :
    (write.apply rows).length = rows.length := by
  rw [apply_eq_modify inside, List.length_modify]

/-- What one write does to each cell. -/
theorem cell?_apply (inside : write.Inside rows) (row column : Nat) :
    (write.apply rows).cell? row column =
      if row = write.row ∧ column = write.column then some write.value
      else if row = write.row ∧ column < write.column ∧ rows.cell? row column = none then
        some (.text "")
      else rows.cell? row column := by
  cases row with
  | zero =>
      have := inside.1
      have different : ¬ 0 = write.row := by omega
      simp [cell?, different]
  | succ place =>
      rw [cell?, apply_eq_modify inside, List.getElem?_modify, cell?]
      by_cases same : place + 1 = write.row
      · have here : write.row - 1 = place := by omega
        have bound : place < rows.length := by
          have := inside.2
          omega
        simp only [here, List.getElem?_eq_getElem bound]
        simp only [if_true, Option.map_eq_map, Option.map_some, Option.bind_some,
          getElem?_setInRow, same, true_and]
        by_cases target : column = write.column
        · simp [target]
        · by_cases within : column < rows[place].length
          · simp [target, within]
          · simp [target, within]
      · have elsewhere : write.row - 1 ≠ place := by
          have := inside.1
          omega
        simp [elsewhere, same]

/-- One write after another. -/
def applyAll (rows : SheetRows) (writes : List CellWrite) : SheetRows :=
  writes.foldl CellWrite.apply rows

theorem CellWrite.Inside.apply {other : CellWrite} (inside : write.Inside rows)
    (otherInside : other.Inside rows) : other.Inside (write.apply rows) := by
  rw [CellWrite.Inside, length_apply inside]
  exact otherInside

theorem length_applyAll {writes : List CellWrite}
    (inside : ∀ write ∈ writes, write.Inside rows) :
    (applyAll rows writes).length = rows.length := by
  induction writes generalizing rows with
  | nil => rfl
  | cons write writes inductionHypothesis =>
      have first := inside write List.mem_cons_self
      have later : ∀ other ∈ writes, other.Inside (write.apply rows) := fun other membership =>
        first.apply (inside other (List.mem_cons_of_mem write membership))
      calc (applyAll (write.apply rows) writes).length
          = (write.apply rows).length := inductionHypothesis later
        _ = rows.length := length_apply first

/-- A cell that no write is for stays as it is, or is filled up with an empty text on the
way to a cell further right in its row. -/
theorem cell?_applyAll_of_forall_ne {writes : List CellWrite}
    (inside : ∀ write ∈ writes, write.Inside rows) {row column : Nat}
    (other : ∀ write ∈ writes, ¬ (row = write.row ∧ column = write.column)) :
    (applyAll rows writes).cell? row column = rows.cell? row column ∨
      rows.cell? row column = none ∧
        (applyAll rows writes).cell? row column = some (.text "") ∧
        ∃ write ∈ writes, row = write.row ∧ column < write.column := by
  induction writes generalizing rows with
  | nil => exact .inl rfl
  | cons write writes inductionHypothesis =>
      have first := inside write List.mem_cons_self
      have notFirst := other write List.mem_cons_self
      have later := inductionHypothesis
        (fun next membership => first.apply (inside next (List.mem_cons_of_mem write membership)))
        (fun next membership => other next (List.mem_cons_of_mem write membership))
      have step := cell?_apply first row column
      rw [if_neg notFirst] at step
      change (applyAll (write.apply rows) writes).cell? row column = _ ∨ _ ∧
        (applyAll (write.apply rows) writes).cell? row column = _ ∧ _
      split at step
      · next padded =>
          -- Once padded, the cell holds something and later writes leave it alone.
          rcases later with same | ⟨missing, _⟩
          · exact .inr ⟨padded.2.2, same.trans step, write, List.mem_cons_self, padded.1,
              padded.2.1⟩
          · simp [step] at missing
      · rw [step] at later
        rcases later with same | ⟨missing, filled, next, membership, beyond⟩
        · exact .inl same
        · exact .inr ⟨missing, filled, next, List.mem_cons_of_mem write membership, beyond⟩

/-- A cell holds the value of the last write that is for it. -/
theorem cell?_applyAll_last {earlier later : List CellWrite} {last : CellWrite}
    (inside : ∀ write ∈ earlier ++ last :: later, write.Inside rows)
    (final : ∀ write ∈ later, ¬ (last.row = write.row ∧ last.column = write.column)) :
    (applyAll rows (earlier ++ last :: later)).cell? last.row last.column =
      some last.value := by
  induction earlier generalizing rows with
  | nil =>
      have first := inside last List.mem_cons_self
      have step := cell?_apply first last.row last.column
      rw [if_pos ⟨rfl, rfl⟩] at step
      have frame := cell?_applyAll_of_forall_ne
        (fun write membership => first.apply (inside write (List.mem_cons_of_mem last membership)))
        final
      rw [step] at frame
      rcases frame with same | ⟨missing, _⟩
      · exact same
      · cases missing
  | cons write earlier inductionHypothesis =>
      have first := inside write List.mem_cons_self
      exact inductionHypothesis fun next membership =>
        first.apply (inside next (List.mem_cons_of_mem write membership))

/-! ### Reading -/

theorem trimmed_prefix (rows : SheetRows) : trimmed rows <+: rows := by
  have suffix := List.dropWhile_suffix (l := rows.reverse) fun row =>
    row.all Datum.isEmptyPlace
  simpa [trimmed] using List.reverse_prefix.mpr suffix

theorem getElem?_upTo {location : Location} {place : Nat} {row : List Datum}
    (found : (upTo location rows)[place]? = some row) : rows[place]? = some row := by
  cases rowsEnd : location.lastRow with
  | none => simpa [upTo, rowsEnd] using found
  | some last =>
      simp only [upTo, rowsEnd, List.getElem?_take] at found
      split at found
      · exact found
      · cases found

/-- A row that is read stands on the sheet at its place after the first row. -/
theorem getElem?_window {location : Location} {place : Nat} {cells : List Datum}
    (read : (window location rows)[place]? = some cells) :
    ∃ row, rows[location.firstRow - 1 + place]? = some row ∧ cells = cut location row := by
  have shown : (((upTo location rows).drop (location.firstRow - 1)).map
      (cut location))[place]? = some cells := by
    obtain ⟨blank, whole⟩ := trimmed_prefix
      (((upTo location rows).drop (location.firstRow - 1)).map (cut location))
    have bound : place < (window location rows).length :=
      (List.getElem?_eq_some_iff.mp read).1
    rw [← whole]
    exact (List.getElem?_append_left bound).trans read
  rw [List.getElem?_map, List.getElem?_drop] at shown
  obtain ⟨row, found, rfl⟩ := Option.map_eq_some_iff.mp shown
  exact ⟨row, getElem?_upTo found, rfl⟩

/-! ### Rows that go -/

/-- The rows whose numbers, counted from a first one, pass a test, in their order. -/
def keepingFrom (first : Nat) (keep : Nat → Bool) : SheetRows → SheetRows
  | [] => []
  | row :: rows =>
      if keep first then row :: keepingFrom (first + 1) keep rows
      else keepingFrom (first + 1) keep rows

/-- The rows whose numbers, counted from one, pass a test, in their order. -/
def keeping (keep : Nat → Bool) (rows : SheetRows) : SheetRows :=
  keepingFrom 1 keep rows

theorem keepingFrom_eq_self {first : Nat} {keep : Nat → Bool} (rows : SheetRows)
    (all : ∀ number, first ≤ number → keep number = true) :
    keepingFrom first keep rows = rows := by
  induction rows generalizing first with
  | nil => rfl
  | cons row rows inductionHypothesis =>
      have later : keepingFrom (first + 1) keep rows = rows :=
        inductionHypothesis fun number above => all number (by omega)
      rw [keepingFrom, if_pos (all first (Nat.le_refl first)), later]

/-- With one row gone, the rows before it keep their numbers. -/
theorem keepingFrom_eraseIdx {first place : Nat} {keep : Nat → Bool} (rows : SheetRows)
    (above : ∀ number, first + place ≤ number → keep number = true) :
    keepingFrom first keep (rows.eraseIdx place) =
      keepingFrom first (fun number => keep number && number != first + place) rows := by
  induction rows generalizing first place with
  | nil => rfl
  | cons row rows inductionHypothesis =>
      cases place with
      | zero =>
          have left : keepingFrom first keep rows = rows := keepingFrom_eq_self rows above
          have right :
              keepingFrom (first + 1) (fun number => keep number && number != first) rows =
                rows :=
            keepingFrom_eq_self rows fun number later => by
              have different : number ≠ first := by omega
              simp [above number (by omega), different]
          simp only [List.eraseIdx_cons_zero, Nat.add_zero, left]
          simp [keepingFrom, right]
      | succ place =>
          have later : keepingFrom (first + 1) keep (rows.eraseIdx place) =
              keepingFrom (first + 1) (fun number => keep number && number != first + 1 + place)
                rows :=
            inductionHypothesis fun number atLeast => above number (by omega)
          have shifted : first + 1 + place = first + (place + 1) := by omega
          have different : (first != first + (place + 1)) = true := by simp
          simp only [List.eraseIdx_cons_succ, keepingFrom, later, shifted, different,
            Bool.and_true]

/-- Rows that go one after another, the highest first, are those of the given numbers. -/
theorem foldl_eraseIdx_eq_keeping {numbers : List Nat}
    (descending : numbers.Pairwise (· > ·)) (positive : ∀ number ∈ numbers, 0 < number)
    (rows : SheetRows) :
    numbers.foldl
        (fun left number => if number == 0 then left else left.eraseIdx (number - 1)) rows =
      keeping (fun number => !numbers.contains number) rows := by
  induction numbers generalizing rows with
  | nil =>
      rw [List.foldl_nil, keeping, keepingFrom_eq_self rows]
      intro number _
      rfl
  | cons highest numbers inductionHypothesis =>
      obtain ⟨below, descending⟩ := List.pairwise_cons.mp descending
      have nonzero : 0 < highest := positive highest List.mem_cons_self
      have missing (number : Nat) (above : 1 + (highest - 1) ≤ number) :
          (!numbers.contains number) = true := by
        have absent : number ∉ numbers := fun membership => by
          have := below number membership
          omega
        simpa using absent
      have notZero : ¬ (highest == 0) = true := by
        simp
        omega
      rw [List.foldl_cons, if_neg notZero,
        inductionHypothesis descending
          (fun number membership => positive number (List.mem_cons_of_mem highest membership)),
        keeping, keepingFrom_eraseIdx rows missing, keeping]
      congr 1
      funext number
      have same : 1 + (highest - 1) = highest := by omega
      rw [same, List.contains_cons, Bool.not_or, Bool.and_comm]
      rfl

/-- Numbers from the greatest to the least, each of which comes once. -/
theorem descending_mergeSort {numbers : List Nat} (distinct : numbers.Nodup) :
    (numbers.mergeSort fun left right => decide (right ≤ left)).Pairwise (· > ·) := by
  have same := List.mergeSort_perm numbers fun left right => decide (right ≤ left)
  have ordered : (numbers.mergeSort fun left right => decide (right ≤ left)).Pairwise
      fun left right => decide (right ≤ left) = true :=
    List.pairwise_mergeSort
      (fun a b c => by simpa using fun first second => Nat.le_trans second first)
      (fun a b => by simpa using Nat.le_total b a) numbers
  refine (ordered.and (same.nodup_iff.mpr distinct)).imp ?_
  intro left right pair
  have atMost : right ≤ left := by simpa using pair.1
  have different := pair.2
  omega

theorem without_eq_keeping {numbers : List Nat} (distinct : numbers.Nodup)
    (positive : ∀ number ∈ numbers, 0 < number) (rows : SheetRows) :
    without numbers rows = keeping (fun number => !numbers.contains number) rows := by
  have same := List.mergeSort_perm numbers fun left right => decide (right ≤ left)
  rw [without, foldl_eraseIdx_eq_keeping (descending_mergeSort distinct)
    fun number membership => positive number (same.mem_iff.mp membership)]
  congr 1
  funext number
  rw [same.contains_eq]

end GridQuery.SheetRows
