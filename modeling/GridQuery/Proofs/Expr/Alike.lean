import GridQuery.Proofs.Group
import GridQuery.Proofs.Statement.Grammatical

/-!
# Expressions that are alike

Two expressions are alike if they differ in nothing but the kinds of equal numbers. Each
expression that holds only numbers is like itself, and those that are like one are like each
other.
-/

namespace GridQuery

namespace Expr

theorem sameAs_self {expr : Expr} (numbers : ∀ cell ∈ expr.literals, ¬ cell.isNaN) :
    expr.sameAs expr = true := by
  induction expr with
  | literal cell => exact Cell.sameValue_self (numbers cell List.mem_cons_self)
  | column reference => exact beq_self_eq_true reference
  | countRows | today => rfl
  | negate _ inductionHypothesis
  | not _ inductionHypothesis => exact inductionHypothesis numbers
  | aggregate _ _ inductionHypothesis
  | changeCase _ _ inductionHypothesis
  | nullCheck _ _ inductionHypothesis =>
      simp only [sameAs, beq_self_eq_true, Bool.true_and]
      exact inductionHypothesis numbers
  | arithmetic _ _ _ leftHypothesis rightHypothesis
  | condition _ _ _ leftHypothesis rightHypothesis
  | compound _ _ _ leftHypothesis rightHypothesis =>
      simp only [literals, List.mem_append] at numbers
      simp only [sameAs, beq_self_eq_true, Bool.true_and, Bool.and_eq_true]
      exact ⟨leftHypothesis fun cell among => numbers cell (.inl among),
        rightHypothesis fun cell among => numbers cell (.inr among)⟩

theorem sameAs_symm {left right : Expr} (same : left.sameAs right = true) :
    right.sameAs left = true := by
  fun_induction sameAs left right with
  | case1 left right => exact Cell.sameValue_symm same
  | case13 => cases same
  | _ => simp_all [sameAs]

theorem sameAs_trans {first second third : Expr} (same : first.sameAs second = true)
    (later : second.sameAs third = true) : first.sameAs third = true := by
  fun_induction sameAs first second generalizing third with
  | case1 left right =>
      cases third <;> first | cases later | exact Cell.sameValue_trans same later
  | case13 => cases same
  | _ =>
      cases third <;>
        simp only [sameAs, Bool.and_eq_true, beq_iff_eq, Bool.false_eq_true] at same later ⊢ <;>
        grind

theorem hasAggregate_of_sameAs {left right : Expr} (same : left.sameAs right = true) :
    left.hasAggregate = right.hasAggregate := by
  fun_induction sameAs left right with
  | case13 => cases same
  | _ => simp_all [hasAggregate]

end Expr

end GridQuery
