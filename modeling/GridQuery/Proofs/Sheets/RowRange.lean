import GridQuery.Proofs.Grid.Sheet
import GridQuery.Sheets.Client

/-!
# Rows that a batch of requests removes

The requests of a batch are carried out one after another, each on the sheet that those before
it have left. They ask for rows from the bottom up, so that each finds its row where it has
been from the start.
-/

namespace GridQuery.Sheets

/-- Rows of a sheet by their places, counted from zero: from one on, up to another one that is
not among them. -/
structure RowRange where
  sheetId : Datum
  start : Nat
  stop : Nat

namespace RowRange

def place? : Datum → Option Nat
  | .number (.int value) => value.toNat?
  | _ => none

/-- The rows that a request asks to remove, if this is what it asks for. -/
def ofRequest? (request : Datum) : Option RowRange := do
  let range ← (← request.field? "deleteDimension").field? "range"
  match range.field? "dimension" with
  | some (.text "ROWS") =>
      return ⟨← range.field? "sheetId", ← place? (← range.field? "startIndex"),
        ← place? (← range.field? "endIndex")⟩
  | _ => none

def ofBatch? (body : Datum) : Option (List RowRange) :=
  match body.field? "requests" with
  | some (.list requests) => requests.mapM ofRequest?
  | _ => none

/-- What a removal leaves of a sheet, on which the rows have to be. -/
def remove? (rows : SheetRows) (range : RowRange) : Option SheetRows :=
  if range.start < range.stop ∧ range.stop ≤ rows.length then
    some (rows.take range.start ++ rows.drop range.stop)
  else none

/-- The row of a number, counted from one. -/
def ofNumber (sheetId : Datum) (number : Nat) : RowRange :=
  ⟨sheetId, number - 1, number⟩

variable {sheetId : Datum} {number : Nat} {numbers : List Nat} {rows : SheetRows}

theorem ofRequest?_deletion (positive : 1 ≤ number) :
    ofRequest? (Access.deletion sheetId number) = some (ofNumber sheetId number) := by
  have start : ((number : Int) - 1).toNat? = some (number - 1) := by
    have shifted : (number : Int) - 1 = (number - 1 : Nat) := by omega
    rw [shifted]
    rfl
  have stop : (number : Int).toNat? = some number := rfl
  simp [ofRequest?, Access.deletion, Datum.field?, Datum.int, place?, List.lookup_cons, ofNumber,
    start, stop]

theorem mapM_ofRequest?_deletion (positive : ∀ number ∈ numbers, 1 ≤ number) :
    (numbers.map (Access.deletion sheetId)).mapM ofRequest? =
      some (numbers.map (ofNumber sheetId)) := by
  induction numbers with
  | nil => rfl
  | cons number numbers inductionHypothesis =>
      have later := inductionHypothesis fun other among =>
        positive other (List.mem_cons_of_mem number among)
      rw [List.map_cons, List.mapM_cons, ofRequest?_deletion (positive number List.mem_cons_self),
        later]
      rfl

theorem remove?_ofNumber (positive : 1 ≤ number) (onSheet : number ≤ rows.length) :
    remove? rows (ofNumber sheetId number) = some (rows.eraseIdx (number - 1)) := by
  have inside : number - 1 < number ∧ number ≤ rows.length := ⟨by omega, onSheet⟩
  have next : number - 1 + 1 = number := by omega
  rw [ofNumber, remove?, if_pos inside, List.eraseIdx_eq_take_drop_succ, next]

/-- A row that goes leaves all rows with lesser numbers on the sheet. -/
theorem foldlM_remove?_ofNumber (descending : numbers.Pairwise (· > ·))
    (onSheet : ∀ number ∈ numbers, 1 ≤ number ∧ number ≤ rows.length) :
    (numbers.map (ofNumber sheetId)).foldlM remove? rows =
      some (numbers.foldl
        (fun left number => if number == 0 then left else left.eraseIdx (number - 1)) rows) := by
  induction numbers generalizing rows with
  | nil => rfl
  | cons highest numbers inductionHypothesis =>
      obtain ⟨below, descending⟩ := List.pairwise_cons.mp descending
      have inside := onSheet highest List.mem_cons_self
      have notZero : ¬ (highest == 0) = true := by
        simp
        omega
      have left : ∀ number ∈ numbers,
          1 ≤ number ∧ number ≤ (rows.eraseIdx (highest - 1)).length := by
        intro number among
        have lesser := below number among
        have bounds := onSheet number (List.mem_cons_of_mem highest among)
        have place : highest - 1 < rows.length := by omega
        rw [List.length_eraseIdx_of_lt place]
        omega
      rw [List.map_cons, List.foldlM_cons, remove?_ofNumber inside.1 inside.2, List.foldl_cons,
        if_neg notZero]
      exact inductionHypothesis descending left

end RowRange

/-- The batch for the rows of some numbers is for the sheet that it is made for and asks for
rows that are there; without them the sheet has the rows of all other numbers, in their
order. -/
theorem deleteRequest_removes (access : Access) (location : Location) (sheetId : Datum)
    {numbers : List Nat} {rows : SheetRows} (distinct : numbers.Nodup)
    (onSheet : ∀ number ∈ numbers, 1 ≤ number ∧ number ≤ rows.length) :
    ∃ body ranges, (access.deleteRequest location sheetId numbers).body = some body ∧
      RowRange.ofBatch? body = some ranges ∧ (∀ range ∈ ranges, range.sheetId = sheetId) ∧
      ranges.foldlM RowRange.remove? rows =
        some (SheetRows.keeping (fun number => !numbers.contains number) rows) := by
  have same : (Access.bottomUp numbers).Perm numbers := List.mergeSort_perm numbers _
  have sorted : ∀ number ∈ Access.bottomUp numbers, 1 ≤ number ∧ number ≤ rows.length := by
    intro number among
    exact onSheet number (same.mem_iff.mp among)
  refine ⟨_, (Access.bottomUp numbers).map (RowRange.ofNumber sheetId), rfl, ?_, ?_, ?_⟩
  · exact RowRange.mapM_ofRequest?_deletion fun number among => (sorted number among).1
  · intro range among
    obtain ⟨number, -, rfl⟩ := List.mem_map.mp among
    rfl
  · have descending : (Access.bottomUp numbers).Pairwise (· > ·) :=
      SheetRows.descending_mergeSort distinct
    rw [RowRange.foldlM_remove?_ofNumber descending sorted, ← SheetRows.without_eq_keeping distinct
      fun number among => (onSheet number among).1]
    rfl

/-- Three rows of five, of which the first and the last but one stay. -/
theorem fiveRows_removes :
    ([3, 5, 2] : List Nat).Nodup ∧ (∀ number ∈ [3, 5, 2], 1 ≤ number ∧ number ≤ 5) ∧
      ∃ body ranges, (Access.deleteRequest ⟨({} : Settings), "key"⟩
          ⟨"ledger", "A:A", "", "A", none, 1, none⟩ (.int 7) [3, 5, 2]).body = some body ∧
        RowRange.ofBatch? body = some ranges ∧ (∀ range ∈ ranges, range.sheetId = .int 7) ∧
        ranges.foldlM RowRange.remove? [[], [.null], [.int 3], [.text "four"], [.int 5]] =
          some [[], [.text "four"]] :=
  ⟨by decide, by decide, deleteRequest_removes _ _ _ (by decide) (by decide)⟩

end GridQuery.Sheets
