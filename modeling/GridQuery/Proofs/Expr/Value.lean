import GridQuery.Group
import GridQuery.Proofs.Fallible

/-!
# What the value of an expression depends on

Without an aggregate an expression has its value from its columns alone, wherever it is
evaluated.
-/

namespace GridQuery

theorem Expr.bareColumns_subset (expr : Expr) : expr.bareColumns ⊆ expr.columns := by
  induction expr with
  | literal _ | countRows | today => exact List.Subset.refl _
  | column _ => exact List.Subset.refl _
  | aggregate _ _ _ => exact List.nil_subset _
  | changeCase _ _ inductionHypothesis
  | negate _ inductionHypothesis
  | nullCheck _ _ inductionHypothesis
  | not _ inductionHypothesis => exact inductionHypothesis
  | arithmetic _ _ _ leftHypothesis rightHypothesis
  | condition _ _ _ leftHypothesis rightHypothesis
  | compound _ _ _ leftHypothesis rightHypothesis =>
      apply List.append_subset.mpr
      exact ⟨List.subset_append_of_subset_left _ leftHypothesis,
        List.subset_append_of_subset_right _ rightHypothesis⟩

namespace Evaluator

variable {evaluator : Evaluator} {context other : Context}

/-- Where all that an expression reads is alike, so is its value. -/
theorem value_congr_of_alike {expr : Expr}
    (groups : expr.hasAggregate = true →
      context.countRows = other.countRows ∧ context.aggregate = other.aggregate)
    (alike : ∀ reference ∈ expr.bareColumns, context.column reference = other.column reference) :
    evaluator.value context expr = evaluator.value other expr := by
  induction expr with
  | literal cell => rfl
  | column reference => exact alike reference List.mem_cons_self
  | countRows => exact (groups rfl).1
  | aggregate function argument => exact congrFun (congrFun (groups rfl).2 function) argument
  | today => rfl
  | changeCase letterCase operand inductionHypothesis
  | negate operand inductionHypothesis
  | nullCheck operand negated inductionHypothesis
  | not operand inductionHypothesis =>
      simp only [value, inductionHypothesis groups alike]
  | arithmetic operator left right leftHypothesis rightHypothesis
  | condition relation left right leftHypothesis rightHypothesis
  | compound connective left right leftHypothesis rightHypothesis =>
      simp only [Expr.hasAggregate, Bool.or_eq_true] at groups
      simp only [Expr.bareColumns, List.mem_append] at alike
      have onLeft := leftHypothesis (fun some => groups (.inl some))
        fun reference among => alike reference (.inl among)
      have onRight := rightHypothesis (fun some => groups (.inr some))
        fun reference among => alike reference (.inr among)
      simp only [value, onLeft, onRight]

/-- Where all columns of an expression without an aggregate are alike, so is its value. -/
theorem value_congr {expr : Expr} (plain : expr.hasAggregate = false)
    (alike : ∀ reference ∈ expr.bareColumns, context.column reference = other.column reference) :
    evaluator.value context expr = evaluator.value other expr :=
  value_congr_of_alike (fun some => absurd some (Bool.eq_false_iff.mp plain)) alike

/-- An expression that names no column has one value in all rows of a table. -/
theorem value_ofRow_of_constant {expr : Expr} (constant : expr.columns = []) (table : Table)
    (cells other : List Cell) :
    evaluator.value (.ofRow table cells) expr = evaluator.value (.ofRow table other) expr := by
  refine value_congr_of_alike (fun _ => ⟨rfl, rfl⟩) fun reference among => ?_
  have known := expr.bareColumns_subset among
  rw [constant] at known
  cases known

/-- What has a value in a row has it in a group of which the row is the first: where a row
has a value, nothing was aggregated. -/
theorem value_ofGroup_of_value {table : Table} {first : Row} (rest : List Row) {expr : Expr}
    {cell : Cell} (valued : evaluator.value (.ofRow table first.cells) expr = .ok cell) :
    evaluator.value (.ofGroup evaluator table (first :: rest)) expr = .ok cell := by
  induction expr generalizing cell with
  | literal _ => exact valued
  | column reference => exact valued
  | countRows => simp [value, Context.ofRow] at valued
  | aggregate function argument => simp [value, Context.ofRow] at valued
  | today => exact valued
  | changeCase letterCase operand inductionHypothesis
  | negate operand inductionHypothesis
  | nullCheck operand negated inductionHypothesis
  | not operand inductionHypothesis =>
      simp only [value, bind_eq_ok_iff] at valued ⊢
      obtain ⟨inner, here, valued⟩ := valued
      exact ⟨inner, inductionHypothesis here, valued⟩
  | arithmetic operator left right leftHypothesis rightHypothesis
  | condition relation left right leftHypothesis rightHypothesis =>
      simp only [value, bind_eq_ok_iff] at valued ⊢
      obtain ⟨leftCell, onLeft, rightCell, onRight, valued⟩ := valued
      exact ⟨leftCell, leftHypothesis onLeft, rightCell, rightHypothesis onRight, valued⟩
  | compound connective left right leftHypothesis rightHypothesis =>
      simp only [value, bind_eq_ok_iff] at valued ⊢
      obtain ⟨leftCell, onLeft, valued⟩ := valued
      refine ⟨leftCell, leftHypothesis onLeft, ?_⟩
      have onRight (cell : Cell) :
          (evaluator.value (.ofRow table first.cells) right >>= fun rightCell =>
            pure (.boolean rightCell.isTruthy)) = .ok cell →
          (evaluator.value (.ofGroup evaluator table (first :: rest)) right >>= fun rightCell =>
            pure (.boolean rightCell.isTruthy)) = .ok cell := by
        simp only [bind_eq_ok_iff]
        rintro ⟨rightCell, here, valued⟩
        exact ⟨rightCell, rightHypothesis here, valued⟩
      cases connective <;> cases truth : leftCell.isTruthy <;>
        simp only [truth, Bool.not_true, Bool.not_false, if_true, Bool.false_eq_true,
          if_false] at valued ⊢
      · exact valued
      · exact onRight cell valued
      · exact onRight cell valued
      · exact valued

end Evaluator

end GridQuery
