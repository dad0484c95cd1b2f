import GridQuery.Proofs.Cell.Reading
import GridQuery.Proofs.Order

/-!
# Comparisons from both sides

Two cells are compared in the type of one of them, and it makes no difference on which side
that one stands: the order seen from the other side is the opposite one, and it fails for the
same fault. So each comparison holds of two cells just if its counterpart holds of them the
other way round, and of cells that are in an order the comparisons tell which.
-/

namespace GridQuery

/-! ### Turning an order round -/

/-- The comparison that says the same from the other side. -/
def Comparison.flipped : Comparison → Comparison
  | eq => eq
  | neq => neq
  | lt => gt
  | lte => gte
  | gt => lt
  | gte => lte

@[simp]
theorem Comparison.accepts_flipped (comparison : Comparison) (ordering : Ordering) :
    comparison.flipped.accepts ordering.swap = comparison.accepts ordering := by
  cases comparison <;> cases ordering <;> rfl

namespace Cell

variable {View : Type}

theorem orderViews_swap {compareViews : View → View → Ordering}
    (swap : ∀ left right, compareViews right left = (compareViews left right).swap)
    (left right : Option View) :
    orderViews compareViews right left =
      (orderViews compareViews left right).map Ordering.swap := by
  cases left with
  | none => cases right <;> rfl
  | some leftView =>
      cases right with
      | none => rfl
      | some rightView => exact congrArg some (swap leftView rightView)

/-- Where one side has to be read, the reading is the same from either side. -/
theorem read_bind_swap (reading : Except DataFault View) {turned ordered : View → Option Ordering}
    (each : ∀ view, turned view = (ordered view).map Ordering.swap) :
    (reading >>= fun view => .ok (turned view)) =
      (reading >>= fun view => .ok (ordered view)).map (Option.map Ordering.swap) := by
  cases reading with
  | error fault => rfl
  | ok view => exact congrArg Except.ok (each view)

/-- The order of two cells seen from the other side is the opposite one. It is defined if the
first is, and fails if the first does, for the same fault. -/
theorem order_swap (left right : Cell) :
    right.order left = (left.order right).map (Option.map Ordering.swap) := by
  have numbers := orderViews_swap Number.orders.swap
  have dates := orderViews_swap Moment.orders.swap
  have flags (flag other : Bool) : compare other flag = (compare flag other).swap :=
    Std.OrientedOrd.eq_swap
  have booleans := orderViews_swap flags
  -- Of two cells at most one is read, and that is a text.
  cases left <;> cases right
  case number.number leftValue rightValue =>
    exact congrArg Except.ok (numbers (some leftValue) (some rightValue))
  case number.text value content =>
    exact read_bind_swap (Number.read content) (numbers (some value))
  case text.number content value =>
    exact read_bind_swap (Number.read content) (numbers · (some value))
  case date.date leftMoment rightMoment =>
    exact congrArg Except.ok (dates (some leftMoment) (some rightMoment))
  case date.text moment content =>
    exact read_bind_swap (Moment.read content) (dates (some moment))
  case text.date content moment =>
    exact read_bind_swap (Moment.read content) (dates · (some moment))
  case boolean.boolean leftFlag rightFlag =>
    exact congrArg Except.ok (booleans (some leftFlag) (some rightFlag))
  case boolean.text flag content =>
    exact congrArg Except.ok (booleans (some flag) (asBoolean? (text content)))
  case text.boolean content flag =>
    exact congrArg Except.ok (booleans (asBoolean? (text content)) (some flag))
  case text.text leftContent rightContent =>
    exact congrArg (Except.ok ∘ some) (Std.OrientedOrd.eq_swap (α := String))
  all_goals rfl

end Cell

/-! ### What the comparisons say together -/

theorem Comparison.holds_of_order {left right : Cell} {ordering? : Option Ordering}
    (leftGiven : left.isNull = false) (rightGiven : right.isNull = false)
    (ordered : left.order right = .ok ordering?) (comparison : Comparison) :
    comparison.holds left right = .ok (ordering?.any comparison.accepts) := by
  unfold holds
  rw [leftGiven, rightGiven, ordered]
  cases ordering? <;> rfl

/-- A comparison holds of two cells just if its counterpart does of them the other way round,
and neither has a result just if the other has none. -/
theorem Comparison.holds_flipped (comparison : Comparison) (left right : Cell) :
    comparison.flipped.holds right left = comparison.holds left right := by
  by_cases null : left.isNull = true ∨ right.isNull = true
  · unfold holds
    rw [if_pos (by simpa [or_comm] using null), if_pos (by simpa using null)]
    cases comparison <;> simp [flipped, Bool.and_comm, Bool.xor_comm]
  · obtain ⟨leftGiven, rightGiven⟩ : left.isNull = false ∧ right.isNull = false := by
      simpa using null
    cases ordered : left.order right with
    | error fault =>
        have turned := Cell.order_swap left right
        rw [ordered] at turned
        simp [holds, leftGiven, rightGiven, ordered, turned, Except.map]
    | ok ordering? =>
        have turned := Cell.order_swap left right
        rw [ordered] at turned
        rw [holds_of_order leftGiven rightGiven ordered,
          holds_of_order rightGiven leftGiven turned]
        cases ordering? <;> simp

theorem Comparison.existsUnique_accepts (ordering : Ordering) :
    ∃! comparison : Comparison,
      comparison ∈ [.lt, .eq, .gt] ∧ comparison.accepts ordering = true := by
  cases ordering with
  | lt => exact ⟨.lt, by decide, fun other => by cases other <;> decide⟩
  | eq => exact ⟨.eq, by decide, fun other => by cases other <;> decide⟩
  | gt => exact ⟨.gt, by decide, fun other => by cases other <;> decide⟩

/-- Each comparison of two cells has a result, one cell is before the other, equal to it or
after it, and the other comparisons follow from that. -/
structure SplitsThreeWays (left right : Cell) : Prop where
  decided : ∀ comparison : Comparison, ∃ result, comparison.holds left right = .ok result
  exactlyOne : ∃! comparison : Comparison,
    comparison ∈ [.lt, .eq, .gt] ∧ comparison.holds left right = .ok true
  neq : Comparison.neq.holds left right = .ok true ↔ Comparison.eq.holds left right = .ok false
  lte : Comparison.lte.holds left right = .ok true ↔
    Comparison.lt.holds left right = .ok true ∨ Comparison.eq.holds left right = .ok true
  gte : Comparison.gte.holds left right = .ok true ↔
    Comparison.gt.holds left right = .ok true ∨ Comparison.eq.holds left right = .ok true

theorem splitsThreeWays_of_order {left right : Cell} {ordering : Ordering}
    (leftGiven : left.isNull = false) (rightGiven : right.isNull = false)
    (ordered : left.order right = .ok (some ordering)) : SplitsThreeWays left right := by
  have each := Comparison.holds_of_order leftGiven rightGiven ordered
  constructor
  case decided => exact fun comparison => ⟨_, each comparison⟩
  case exactlyOne =>
    simpa [each] using Comparison.existsUnique_accepts ordering
  case neq =>
    simp only [each]
    cases ordering <;> decide
  case lte =>
    simp only [each]
    cases ordering <;> decide
  case gte =>
    simp only [each]
    cases ordering <;> decide

/-- The order of two cells is the same from both sides but opposite, and so is each
comparison. Of cells that are not null and are in an order just one of before, equal and
after holds, and the other comparisons follow from that; of cells in no order none holds. -/
theorem comparisons_coherent (left right : Cell) :
    right.order left = (left.order right).map (Option.map Ordering.swap) ∧
      (∀ comparison : Comparison,
        comparison.holds left right = comparison.flipped.holds right left) ∧
      (left.isNull = false → right.isNull = false →
        (∀ ordering, left.order right = .ok (some ordering) → SplitsThreeWays left right) ∧
        (left.order right = .ok none →
          ∀ comparison : Comparison, comparison.holds left right = .ok false)) := by
  refine ⟨Cell.order_swap left right, ?_, ?_⟩
  · intro comparison
    exact (comparison.holds_flipped left right).symm
  · intro leftGiven rightGiven
    constructor
    · intro ordering ordered
      exact splitsThreeWays_of_order leftGiven rightGiven ordered
    · intro unordered comparison
      exact comparison.holds_of_order leftGiven rightGiven unordered

/-- The number 10 is after the text 9, since that is read as a number. -/
theorem ten_comparisons_coherent :
    SplitsThreeWays (.int 10) (.text "9") ∧
      Comparison.gt.holds (.int 10) (.text "9") = .ok true ∧
      Comparison.lt.holds (.text "9") (.int 10) = .ok true := by
  have ordered : (Cell.int 10).order (.text "9") = .ok (some .gt) := by decide +kernel
  have after : Comparison.gt.holds (.int 10) (.text "9") = .ok true := by decide +kernel
  obtain ⟨-, turned, split⟩ := comparisons_coherent (.int 10) (.text "9")
  exact ⟨(split rfl rfl).1 .gt ordered, after, (turned .gt).symm.trans after⟩

end GridQuery
