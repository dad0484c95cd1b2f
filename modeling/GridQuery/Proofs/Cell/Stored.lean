import GridQuery.Proofs.Cell.Comparison

/-!
# Cells read back from stored data

A cell is stored as plain data and becomes a cell again when the data are read. A number may
come back as an integer and a moment as its text, and either equals what was stored, with one
exception: a midnight of a year below 1000 is written with fewer than four digits for the
year, and that text names no day.
-/

namespace GridQuery

/-! ### Numbers -/

namespace Number

theorem place?_finite (negative : Bool) (code : Fin Double.codeLimit) :
    (float (.finite negative code)).place? =
      (Double.finite negative code).units?.map .units := rfl

/-- An integral number stands where it stood. -/
theorem place?_integral (number : Number) : number.integral.place? = number.place? := by
  rcases number with value | _ | _ | ⟨negative, code⟩
  · rfl
  · rfl
  · rfl
  · rw [integral]
    split
    · next integer whole =>
        simp only [Double.toInt?] at whole
        split at whole
        · next units here =>
            split at whole
            · next divides =>
                cases whole
                rw [place?_finite, here, place?, Int.ediv_mul_cancel
                  (Int.dvd_of_emod_eq_zero (beq_iff_eq.mp divides))]
                rfl
            · cases whole
        · cases whole
    · rfl

theorem order_eq_of_place? {left right : Number} (same : left.place? = right.place?) :
    left.order right = .eq := by
  rw [order, same]
  cases right.place? with
  | none => rfl
  | some place => cases place <;> simp [Place.compare]

end Number

/-! ### Moments -/

namespace Moment

/-- A midnight of a year that is written with fewer than four digits. -/
def isEarlyDay (moment : Moment) : Bool :=
  moment.isMidnight && decide (moment.date.year < 1000)

theorem read_text {moment : Moment} (whole : moment.microsecond = 0) :
    Moment.read moment.text = .ok (if moment.isEarlyDay then none else some moment) := by
  rw [text, isEarlyDay]
  cases midnight : moment.isMidnight with
  | false => exact read_secondText moment whole
  | true =>
      by_cases early : moment.date.year < 1000
      · simpa [early] using read_dayText_of_early moment early
      · simpa [early, dayText_eq_isoText moment (Nat.le_of_not_lt early)] using
          read_isoText_midnight moment midnight

theorem order_self (moment : Moment) : moment.order moment = .eq :=
  Nat.compare_eq_eq.mpr rfl

end Moment

/-! ### Cells -/

namespace Cell

/-- The cell that is read where a cell was stored. -/
def readBack (cell : Cell) : Cell :=
  ofDatum cell.toDatum

/-- What can be stored and found again: neither null nor what is not a number, and no
fraction of a second. -/
def IsStorable : Cell → Prop
  | null => False
  | text _ => True
  | number value => value ≠ .float .nan
  | boolean _ => True
  | date moment => moment.microsecond = 0

def isEarlyDay : Cell → Bool
  | date moment => moment.isEarlyDay
  | _ => false

theorem readBack_number {value : Number} (given : value ≠ .float .nan) :
    (number value).readBack = number value.integral := by
  have kept : value.integral ≠ .float .nan := by
    intro lost
    obtain ⟨place, here⟩ := Number.exists_place given
    rw [← Number.place?_integral, lost] at here
    cases here
  rw [readBack, toDatum, ofDatum]
  exact kept

/-- A cell and the one that is read in its place are equal in a condition, on either side,
but for a midnight of an early year. -/
theorem holds_readBack {cell : Cell} (storable : cell.IsStorable) :
    Comparison.eq.holds cell cell.readBack = .ok !cell.isEarlyDay ∧
      Comparison.eq.holds cell.readBack cell = .ok !cell.isEarlyDay := by
  cases cell with
  | null => cases storable
  | text content =>
      constructor <;>
        simp [Comparison.holds, readBack, toDatum, ofDatum, order, type, isNull,
          Comparison.accepts, isEarlyDay]
  | boolean flag =>
      constructor <;> cases flag <;> rfl
  | number value =>
      have ahead := Number.order_eq_of_place? (Number.place?_integral value)
      have behind := Number.order_eq_of_place? (Number.place?_integral value).symm
      rw [readBack_number storable]
      constructor <;>
        simp [Comparison.holds, order, type, isNull, asNumber?, orderViews, ahead, behind,
          Comparison.accepts, isEarlyDay]
  | date moment =>
      have read := Moment.read_text storable
      have back : (date moment).readBack = text moment.text := rfl
      rw [back]
      cases early : moment.isEarlyDay <;> constructor <;>
        simp [Comparison.holds, order, type, isNull, asDate?, orderViews, read, early,
          Moment.order_self, Comparison.accepts, isEarlyDay]

end Cell

end GridQuery
