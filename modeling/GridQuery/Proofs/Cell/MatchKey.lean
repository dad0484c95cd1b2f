import GridQuery.Cell.Order
import GridQuery.Proofs.Buckets
import GridQuery.Proofs.Fallible

/-!
# The keys that cells are joined by
-/

namespace GridQuery

/-- Two numbers have one value if they stand at one place. -/
theorem Number.sameValue_iff (left right : Number) :
    left.sameValue right = true ↔
      ∃ place, left.place? = some place ∧ right.place? = some place := by
  unfold Number.sameValue
  cases left.place? with
  | none => simp
  | some leftPlace =>
      cases right.place? with
      | none => simp
      | some rightPlace =>
          constructor
          · intro equal
            exact ⟨leftPlace, rfl, congrArg some (beq_iff_eq.mp equal).symm⟩
          · rintro ⟨place, here, there⟩
            exact beq_iff_eq.mpr (Option.some.inj (here.trans there.symm))

/-- Keys that find each other are of one type and value; a number finds every number of its
value. -/
theorem MatchKey.sameness_meets : Buckets.Sameness MatchKey.meets := by
  constructor
  case symm =>
    intro left right met
    cases left <;> cases right <;> simp_all [MatchKey.meets, Number.sameValue_iff, and_comm]
  case trans =>
    intro first second third met later
    cases first <;> cases second <;> cases third <;>
      simp_all [MatchKey.meets, Number.sameValue_iff]
    next =>
      obtain ⟨place, here, there⟩ := met
      obtain ⟨other, again, beyond⟩ := later
      cases there.symm.trans again
      exact ⟨place, here, beyond⟩

namespace Cell

/-- The key of a cell that gives one. -/
def key? (cell : Cell) : Option MatchKey :=
  cell.matchKey?.toOption.getD none

/-- Whether a join finds two cells by each other: both give keys, and these meet. -/
def joins (left right : Cell) : Bool :=
  match left.key?, right.key? with
  | some leftKey, some rightKey => leftKey.meets rightKey
  | _, _ => false

theorem joins_of_none {left : Cell} (none : left.key? = none) (right : Cell) :
    left.joins right = false := by
  simp [joins, none]

theorem joins_of_some {left : Cell} {key : MatchKey} (found : left.key? = some key)
    (right : Cell) : left.joins right = right.key?.any key.meets := by
  unfold joins
  rw [found]
  cases right.key? <;> rfl

theorem joins_comm (left right : Cell) : left.joins right = right.joins left := by
  unfold joins
  cases left.key? with
  | none => cases right.key? <;> rfl
  | some leftKey =>
      cases right.key? with
      | none => rfl
      | some rightKey =>
          exact Bool.eq_iff_iff.mpr
            ⟨MatchKey.sameness_meets.symm, MatchKey.sameness_meets.symm⟩

theorem key?_of_isBlank {cell : Cell} (blank : cell.isBlank = true) : cell.key? = none := by
  simp [key?, matchKey?, blank, Except.toOption]

/-- A blank cell is joined to no cell. -/
theorem joins_of_isBlank {left right : Cell}
    (blank : left.isBlank = true ∨ right.isBlank = true) : left.joins right = false := by
  rcases blank with blank | blank
  · exact joins_of_none (key?_of_isBlank blank) right
  · rw [joins_comm]
    exact joins_of_none (key?_of_isBlank blank) left

end Cell

end GridQuery
