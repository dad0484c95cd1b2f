import GridQuery.Proofs.Statement.ReadExpr

/-!
# Operands and predicates read from their tokens

Where only some of the operands stand in parentheses, the rest of an expression decides how
far it goes. An operand is read before any operator, and a predicate before `AND`, `OR` and
whatever ends expressions: it is read as the first part of the expression, which goes on from
it.
-/

namespace GridQuery.Statement

open GridQuery.Statement.Parser

variable {before others rest : List Token} {expr left right : Expr}

@[simp]
theorem endsBelow_cons (rank : Nat) (token : Token) (rest : List Token) :
    EndsBelow rank (token :: rest) ↔ token ≠ .symbol .dot ∧ token ≠ .symbol .openParen ∧
      ∀ operator ∈ operator? token, operator.rank < rank := by
  simp [EndsBelow]

/-- Tokens are read as one operand before any operator and before what ends expressions. -/
structure IsOperand (before : List Token) (expr : Expr) : Prop where
  starts : ∃ token later, before = token :: later ∧ startsExpr token = true
  undotted : .symbol .dot ∉ before
  reads : ∀ fuel rest, 2 * before.length ≤ fuel + 1 → EndsBelow (Level.rank .product + 1) rest →
    Reads (operand fuel) (before ++ rest) expr rest

/-- Tokens are read as the first part of an expression, which goes on from it however much
fuel is left of at least the spare one. -/
def Leads (before : List Token) (expr : Expr) : Prop :=
  ∀ (fuel rank spare : Nat) (rest : List Token) (out : Expr) (after : List Token),
    2 * before.length + spare ≤ fuel + 1 → rank ≤ Level.rank .relation →
    EndsBelow (Level.rank .relation) rest →
    (∀ fuel related, spare ≤ fuel →
      Reads (operatorsAfter fuel rank related expr) rest out after) →
    Reads (exprOf fuel rank) (before ++ rest) out after

theorem IsOperand.length_pos (reads : IsOperand before expr) : 0 < before.length := by
  obtain ⟨token, later, rfl, -⟩ := reads.starts
  exact Nat.succ_pos _

theorem IsOperand.readsAs (reads : IsOperand before expr) : ReadsAs before expr := by
  intro fuel rest enough ends
  have positive := reads.length_pos
  obtain ⟨fuel, rfl⟩ := Nat.exists_eq_add_of_le' (show 2 ≤ fuel by omega)
  exact reads_exprOf_operand (reads.reads (fuel + 1) rest enough (ends.below _)) (ends.below _)

/-- What leads is read as a whole expression where that ends. -/
theorem Leads.readsAs (leads : Leads before expr) : ReadsAs before expr := by
  intro fuel rest enough ends
  refine leads fuel _ 1 rest expr rest (by omega) (by decide) (ends.below _) ?_
  intro fuel related spare
  obtain ⟨fuel, rfl⟩ := Nat.exists_eq_add_of_le' spare
  exact reads_operatorsAfter_ends fuel _ related expr ends

/-! ### Operands -/

theorem isOperand_token {token : Token} (starts : startsExpr token = true)
    (undotted : token ≠ .symbol .dot)
    (reads : ∀ fuel rest, EndsBelow (Level.rank .product + 1) rest →
      Reads (operand (fuel + 1)) (token :: rest) expr rest) : IsOperand [token] expr where
  starts := ⟨token, [], rfl, starts⟩
  undotted := by simpa using undotted.symm
  reads := by
    intro fuel rest enough ends
    obtain ⟨fuel, rfl⟩ := Nat.exists_eq_add_of_le' (show 1 ≤ fuel by simpa using enough)
    exact reads fuel rest ends

theorem isOperand_column (name : String) : IsOperand [.identifier name] (.column ⟨none, name⟩) :=
  isOperand_token rfl (by simp) fun _ _ ends => reads_column ⟨none, name⟩ ends

theorem isOperand_int (value : Int) :
    IsOperand (Word.number (.int value)).tokens (.literal (.number (.int value))) := by
  constructor
  case starts =>
    by_cases negative : value < 0
    · exact ⟨.symbol .minus, [.integer value.natAbs], by simp [Word.tokens, negative], rfl⟩
    · exact ⟨.integer value.natAbs, [], by simp [Word.tokens, negative], rfl⟩
  case undotted =>
    by_cases negative : value < 0 <;> simp [Word.tokens, negative]
  case reads =>
    intro fuel rest enough _
    refine reads_int value rest ?_
    have positive : 0 < (Word.number (.int value)).tokens.length := by
      by_cases negative : value < 0 <;> simp [Word.tokens, negative]
    omega

theorem isOperand_float (value : Double) :
    IsOperand [.float value] (.literal (.number (.float value))) :=
  isOperand_token rfl (by simp) fun fuel rest _ => reads_float fuel value rest

/-- A minus before a number that is no integer is part of the number. -/
theorem isOperand_negative (value : Double) :
    IsOperand [.symbol .minus, .float value] (.literal (.number (.float value.neg))) where
  starts := ⟨_, _, rfl, rfl⟩
  undotted := by simp
  reads := by
    intro fuel rest enough _
    simp only [List.length_cons, List.length_nil] at enough
    obtain ⟨fuel, rfl⟩ := Nat.exists_eq_add_of_le' (show 2 ≤ fuel by omega)
    exact reads_minus (reads_float fuel value rest)

theorem isOperand_text (content : String) :
    IsOperand [.text content] (.literal (.text content)) :=
  isOperand_token rfl (by simp) fun fuel rest _ => reads_text fuel content rest

theorem isOperand_boolean (flag : Bool) (written : String) :
    IsOperand [.keyword (if flag then .TRUE else .FALSE) written] (.literal (.boolean flag)) :=
  isOperand_token (by cases flag <;> rfl) (by simp)
    fun fuel rest _ => reads_boolean fuel flag written rest

theorem isOperand_date {content : String} {moment : Moment}
    (read : Moment.read content = .ok (some moment)) (written : String) :
    IsOperand [.keyword .DATE written, .text content] (.literal (.date moment)) where
  starts := ⟨_, _, rfl, rfl⟩
  undotted := by simp
  reads := by
    intro fuel rest enough _
    simp only [List.length_cons, List.length_nil] at enough
    obtain ⟨fuel, rfl⟩ := Nat.exists_eq_add_of_le' (show 1 ≤ fuel by omega)
    exact reads_date fuel read written rest

theorem isOperand_call {name : String} {argument : Expr}
    (called : call name (.exprs [argument]) = .ok expr) (inner : IsOperand before argument) :
    IsOperand (.identifier name :: .symbol .openParen :: (before ++ [.symbol .closeParen]))
      expr where
  starts := ⟨_, _, rfl, rfl⟩
  undotted := by simp [inner.undotted]
  reads := by
    intro fuel rest enough _
    simp only [List.length_cons, List.length_append, List.length_nil] at enough
    obtain ⟨fuel, rfl⟩ := Nat.exists_eq_add_of_le' (show 1 ≤ fuel by omega)
    simp only [List.cons_append, List.append_assoc, List.nil_append]
    exact reads_call called (reads_argumentsOf inner.readsAs inner.starts rest (by omega))

/-- An operation in parentheses is an operand. -/
theorem isOperand_arithmetic (operator : Arithmetic) (onLeft : IsOperand before left)
    (onRight : IsOperand others right) :
    IsOperand (.symbol .openParen :: (before ++ .symbol operator.symbol :: others ++
      [.symbol .closeParen])) (.arithmetic operator left right) := by
  have inner : ReadsAs (before ++ .symbol operator.symbol :: others)
      (.arithmetic operator left right) := by
    intro fuel rest enough ends
    have positive := onRight.length_pos
    simp only [List.length_append, List.length_cons] at enough
    obtain ⟨fuel, rfl⟩ := Nat.exists_eq_add_of_le' (show 4 ≤ fuel by omega)
    have apart :
        EndsBelow (Level.rank .product + 1) (.symbol operator.symbol :: (others ++ rest)) := by
      cases operator <;> simp [Arithmetic.symbol, operator?, Operator.rank, Level.rank]
    rw [List.append_assoc]
    apply reads_exprOf (onLeft.reads (fuel + 3) _ (by omega) apart)
    apply reads_arithmetic operator (by cases operator <;> decide)
    · exact reads_exprOf_operand (onRight.reads (fuel + 1) rest (by omega) (ends.below _))
        (ends.below _)
    · exact reads_operatorsAfter_ends _ _ _ _ ends
  constructor
  case starts => exact ⟨_, _, rfl, rfl⟩
  case undotted =>
    have sign : Symbol.dot ≠ operator.symbol := by cases operator <;> decide
    simp [onLeft.undotted, onRight.undotted, sign]
  case reads =>
    intro fuel rest enough _
    simp only [List.length_cons, List.length_append, List.length_nil] at enough
    have reads : Reads (operand fuel) _ _ rest := inner.operand rest
      (by simp only [List.length_append, List.length_cons]; omega)
    simpa using reads

/-! ### Predicates -/

theorem leads_of_operand (nonempty : before ≠ [])
    (reads : ∀ fuel rest, 2 * before.length ≤ fuel + 2 → EndsBelow (Level.rank .relation) rest →
      Reads (operand fuel) (before ++ rest) expr rest) : Leads before expr := by
  intro fuel rank spare rest out after enough bound ends later
  have positive := List.length_pos_iff.mpr nonempty
  obtain ⟨fuel, rfl⟩ := Nat.exists_eq_add_of_le' (show 1 ≤ fuel by omega)
  exact reads_exprOf (reads fuel rest (by omega) ends) (later fuel false (by omega))

theorem leads_condition (relation : Relation) (written : Keyword → String)
    (onLeft : IsOperand before left) (onRight : IsOperand others right) :
    Leads (before ++ (relationTokens written relation ++ others))
      (.condition relation left right) := by
  intro fuel rank spare rest out after enough bound ends later
  have positiveLeft := onLeft.length_pos
  have positiveRight := onRight.length_pos
  have sign : 0 < (relationTokens written relation).length := by
    cases relation <;> exact Nat.succ_pos _
  have apart : EndsBelow (Level.rank .product + 1)
      (relationTokens written relation ++ (others ++ rest)) := by
    cases relation with
    | compare comparison =>
        cases comparison <;>
          simp [relationTokens, Comparison.symbol, operator?, Operator.rank, Level.rank]
    | _ => simp [relationTokens, operator?, Operator.rank, Level.rank]
  simp only [List.length_append] at enough
  obtain ⟨fuel, rfl⟩ := Nat.exists_eq_add_of_le' (show 4 ≤ fuel by omega)
  rw [List.append_assoc, List.append_assoc]
  apply reads_exprOf (onLeft.reads (fuel + 3) _ (by omega) apart)
  apply reads_condition relation written bound
  · exact reads_exprOf_operand
      (onRight.reads (fuel + 1) rest (by omega) (ends.mono (by decide))) (ends.mono (by decide))
  · exact later _ true (by omega)

theorem leads_nullCheck (negated : Bool) (written no null : String)
    (inner : IsOperand before expr) :
    Leads (before ++ .keyword .IS written ::
      ((if negated then [.keyword .NOT no] else []) ++ [.keyword .NULL null]))
      (.nullCheck expr negated) := by
  intro fuel rank spare rest out after enough bound ends later
  have positive := inner.length_pos
  have apart (rest : List Token) :
      EndsBelow (Level.rank .product + 1) (.keyword .IS written :: rest) := by
    simp [operator?, Operator.rank, Level.rank]
  simp only [List.length_append, List.length_cons, List.length_nil] at enough
  obtain ⟨fuel, rfl⟩ := Nat.exists_eq_add_of_le' (show 2 ≤ fuel by omega)
  simp only [List.append_assoc, List.cons_append, List.nil_append]
  apply reads_exprOf (inner.reads (fuel + 1) _ (by omega) (apart _))
  apply reads_nullCheck negated written no null (Nat.le_trans bound (by decide))
  exact later fuel false (by omega)

theorem leads_not (written : String) (inner : ReadsAs before expr) :
    Leads (.keyword .NOT written :: .symbol .openParen :: (before ++ [.symbol .closeParen]))
      (.not expr) := by
  apply leads_of_operand (List.cons_ne_nil _ _)
  intro fuel rest enough ends
  simp only [List.length_cons, List.length_append, List.length_nil] at enough
  obtain ⟨fuel, rfl⟩ := Nat.exists_eq_add_of_le' (show 3 ≤ fuel by omega)
  have enclosed : Reads (operand (fuel + 1)) _ expr rest := inner.operand rest (by omega)
  simp only [List.append_assoc, List.cons_append, List.nil_append]
  exact reads_not written (reads_exprOf_operand enclosed ends)

/-- Two predicates in parentheses are an operand. -/
theorem leads_compound (connective : Connective) (written : String) (onLeft : Leads before left)
    (onRight : Leads others right) :
    Leads (.symbol .openParen :: (before ++ .keyword connective.keyword written :: others ++
      [.symbol .closeParen])) (.compound connective left right) := by
  have inner : ReadsAs (before ++ .keyword connective.keyword written :: others)
      (.compound connective left right) := by
    intro fuel rest enough ends
    simp only [List.length_append, List.length_cons] at enough
    have apart : EndsBelow (Level.rank .relation)
        (.keyword connective.keyword written :: (others ++ rest)) := by
      cases connective <;> simp [Connective.keyword, operator?, Operator.rank, Level.rank]
    rw [List.append_assoc]
    refine onLeft fuel _ (2 * others.length + 2) _ _ _ (by omega) (by decide) apart ?_
    intro fuel related spare
    obtain ⟨fuel, rfl⟩ := Nat.exists_eq_add_of_le' (show 2 ≤ fuel by omega)
    apply reads_compound connective (by cases connective <;> decide)
    · refine onRight (fuel + 1) _ 1 rest right rest (by omega) (by cases connective <;> decide)
        (ends.below _) ?_
      intro fuel related spare
      obtain ⟨fuel, rfl⟩ := Nat.exists_eq_add_of_le' spare
      exact reads_operatorsAfter_ends fuel _ related right ends
    · exact reads_operatorsAfter_ends _ _ _ _ ends
  apply leads_of_operand (List.cons_ne_nil _ _)
  intro fuel rest enough _
  simp only [List.length_cons, List.length_append, List.length_nil] at enough
  have reads : Reads (operand fuel) _ _ rest := inner.operand rest
    (by simp only [List.length_append, List.length_cons]; omega)
  simpa using reads

end GridQuery.Statement
