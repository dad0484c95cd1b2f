import GridQuery.Proofs.Native.RereadQuery
import GridQuery.Proofs.Statement.Sparing

/-!
# Expressions with few parentheses are read back

The operators of such an expression are read while the ranks allow. So the expression is read
on its way: after its tokens the reader goes on with the operators after it, by induction on
the expression. An operand in parentheses is read whole; one without them is read on its way
if it stands on the left of its operator, and up to the next operator on the right.
-/

namespace GridQuery

open Statement Statement.Parser

namespace Expr

/-- Whether an expression is a relation, after which no other follows on its level. -/
def isRelation : Expr → Bool
  | condition _ _ _ => true
  | _ => false

/-- The tightest rank that an expression without parentheses is read at: with `NOT` before it,
it is read as an operand is. -/
def reach : Expr → Nat
  | not _ => 7
  | expr => expr.binding

theorem binding_pos (expr : Expr) : 1 ≤ expr.binding := by
  cases expr with
  | compound connective left right => cases connective <;> simp [binding, Connective.binding]
  | arithmetic operator left right => cases operator <;> simp [binding, Arithmetic.binding]
  | _ => simp [binding]

theorem binding_le_reach (expr : Expr) : expr.binding ≤ expr.reach := by
  cases expr <;> simp [reach, binding]

/-- What `NOT` takes without parentheses goes as far as a relation does. -/
theorem four_le_reach {expr : Expr} (tight : 3 ≤ expr.binding) : 4 ≤ expr.reach := by
  cases expr with
  | not operand => simp [reach]
  | arithmetic operator left right => cases operator <;> simp [reach, binding, Arithmetic.binding]
  | compound connective left right =>
      cases connective <;> simp [binding, Connective.binding] at tight
  | _ => simp [reach, binding]

theorem reach_build (operator : Binary) (left right : Expr) :
    (operator.build left right).reach = operator.binding := by
  cases operator <;> rfl

theorem isRelation_eq_false {expr : Expr} (other : expr.binding ≠ 4) :
    expr.isRelation = false := by
  cases expr <;> simp_all [isRelation, binding]

end Expr

namespace Statement

variable {fuel rank required : Nat} {expr left right : Expr} {rest : List Token}

/-! ### Operators between operands -/

theorem exists_operator (operator : Binary) :
    ∃ token later meaning, tokens operator.words = token :: later ∧
      operator? token = some meaning ∧ meaning.rank = operator.binding := by
  cases operator with
  | connective sign => cases sign <;> exact ⟨_, _, _, rfl, rfl, rfl⟩
  | relation sign =>
      cases sign with
      | compare comparison => cases comparison <;> exact ⟨_, _, _, rfl, rfl, rfl⟩
      | _ => exact ⟨_, _, _, rfl, rfl, rfl⟩
  | arithmetic sign => cases sign <;> exact ⟨_, _, _, rfl, rfl, rfl⟩

/-- What binds more tightly than an operator does not go on with it. -/
theorem endsBelow_words (operator : Binary) (bound : operator.binding < rank)
    (rest : List Token) : EndsBelow rank (tokens operator.words ++ rest) := by
  obtain ⟨token, later, meaning, shape, meant, ranked⟩ := exists_operator operator
  rw [shape, List.cons_append, endsBelow_cons, meant]
  refine ⟨?_, ?_, ?_⟩
  · rintro rfl
    cases meant
  · rintro rfl
    cases meant
  · rintro found ⟨rfl⟩
    omega

theorem length_words_pos (operator : Binary) : 1 ≤ (tokens operator.words).length := by
  obtain ⟨token, later, meaning, shape, -⟩ := exists_operator operator
  simp [shape]

theorem rank_connective (connective : Connective) :
    (Operator.connective connective).rank = connective.binding := by
  cases connective <;> rfl

theorem rank_arithmetic (operator : Arithmetic) :
    (Operator.arithmetic operator).rank = operator.binding := by
  cases operator <;> rfl

/-- After an operand, its operator is taken and the other operand is read. -/
theorem continues_binary (operator : Binary) (fuel : Nat) {related : Bool} (left : Expr)
    (middle : List Token) (bound : rank ≤ operator.binding)
    (unrelated : 5 ≤ operator.leftBinding → related = false) :
    Continues (operatorsAfter (fuel + 1) rank related left) (tokens operator.words ++ middle)
      (exprOf fuel (operator.binding + 1) >>= fun right =>
        operatorsAfter fuel rank (operator.build left right).isRelation
          (operator.build left right)) middle := by
  cases operator with
  | connective sign =>
      have takes : Continues (operatorsAfter (fuel + 1) rank related left) _ _ middle :=
        continues_compound sign (String.ofList sign.keyword.letters) related left middle
          (rank_connective sign ▸ bound)
      rwa [rank_connective] at takes
  | relation sign =>
      rw [unrelated (Nat.le_refl 5), Binary.words, tokens_relation]
      exact continues_condition sign _ left middle bound
  | arithmetic sign =>
      have takes : Continues (operatorsAfter (fuel + 1) rank related left) _ _ middle :=
        continues_arithmetic sign related left middle (rank_arithmetic sign ▸ bound)
      rwa [rank_arithmetic] at takes

/-! ### How expressions begin -/

/-- The tokens begin with an expression, and are not all columns of a table. -/
structure BeginsExpr (before : List Token) : Prop where
  starts : ∃ token later, before = token :: later ∧ startsExpr token = true
  unstarred : ∀ name later, before ≠ .identifier name :: .symbol .dot :: .symbol .star :: later

theorem beginsExpr_cons {token : Token} (starts : startsExpr token = true)
    (unnamed : ∀ name, token ≠ .identifier name) (rest : List Token) : BeginsExpr (token :: rest) :=
  ⟨⟨token, rest, rfl, starts⟩, fun name _ same => unnamed name (List.cons.inj same).1⟩

theorem beginsExpr_name (name : String) (undotted : rest.head? ≠ some (.symbol .dot)) :
    BeginsExpr (.identifier name :: rest) := by
  refine ⟨⟨_, rest, rfl, rfl⟩, fun other later same => undotted ?_⟩
  rw [(List.cons.inj same).2, List.head?_cons]

theorem beginsExpr_call (name : String) (words : List Word) (rest : List Token) :
    BeginsExpr (tokens (.name name :: enclosed words) ++ rest) := by
  rw [tokens_cons, tokens_name, tokens_enclosed]
  exact beginsExpr_name name (by simp)

theorem beginsExpr_literal (value : Cell) (rest : List Token) :
    BeginsExpr (tokens value.words ++ rest) := by
  obtain ⟨token, later, shape, starts⟩ := exists_start (.literal value)
  rw [show tokens value.words = token :: later from shape]
  refine beginsExpr_cons starts ?_ _
  rintro name rfl
  cases value with
  | number number =>
      cases number with
      | int value =>
          by_cases negative : value < 0 <;>
            simp [Expr.words, Cell.words, Word.tokens, negative] at shape
      | float value => simp [Expr.words, Cell.words, Word.tokens] at shape
  | _ => simp [Expr.words, Cell.words] at shape

theorem beginsExpr_fitted {binding : Nat} {words : List Word}
    (begins : BeginsExpr (tokens words ++ rest)) :
    BeginsExpr (tokens (fitted required binding words) ++ rest) := by
  unfold fitted
  split
  · exact begins
  · rw [tokens_enclosed]
    exact beginsExpr_cons rfl (by simp) _

theorem beginsExpr_left (operator : Binary) {left : Expr} (rest : List Token)
    (begins : ∀ {rest}, rest.head? ≠ some (.symbol .dot) →
      BeginsExpr (tokens left.sparing ++ rest)) :
    BeginsExpr
      (tokens (left.fittedTo operator.leftBinding) ++ (tokens operator.words ++ rest)) := by
  refine beginsExpr_fitted (begins fun dot => ?_)
  exact (endsBelow_words operator (Nat.lt_succ_self _) rest _ dot).1 rfl

theorem beginsExpr_build (operator : Binary) {left : Expr} (right : Expr) (rest : List Token)
    (begins : ∀ {rest}, rest.head? ≠ some (.symbol .dot) →
      BeginsExpr (tokens left.sparing ++ rest)) :
    BeginsExpr (tokens (operator.build left right).sparing ++ rest) := by
  rw [operator.sparing_build, tokens_append, tokens_append, List.append_assoc, List.append_assoc]
  exact beginsExpr_left operator _ begins

theorem beginsExpr_sparing (expr : Expr) (undotted : rest.head? ≠ some (.symbol .dot)) :
    BeginsExpr (tokens expr.sparing ++ rest) := by
  induction expr generalizing rest with
  | literal value => exact beginsExpr_literal value rest
  | column reference =>
      rcases reference with ⟨_ | qualifier, name⟩
      · exact beginsExpr_name name undotted
      · exact ⟨⟨_, _, rfl, rfl⟩, by simp [Expr.sparing, ColumnRef.words]⟩
  | countRows => exact beginsExpr_call _ _ rest
  | aggregate function argument => exact beginsExpr_call _ _ rest
  | changeCase letterCase argument => exact beginsExpr_call _ _ rest
  | today => exact beginsExpr_call _ _ rest
  | arithmetic operator left right onLeft =>
      exact beginsExpr_build (.arithmetic operator) right rest onLeft
  | negate operand => exact beginsExpr_cons rfl (by simp) _
  | condition relation left right onLeft =>
      exact beginsExpr_build (.relation relation) right rest onLeft
  | nullCheck operand negated onOperand =>
      rw [Expr.sparing, tokens_append, List.append_assoc]
      exact beginsExpr_fitted (onOperand (by simp))
  | compound connective left right onLeft =>
      exact beginsExpr_build (.connective connective) right rest onLeft
  | not operand => exact beginsExpr_cons rfl (by simp) _

theorem exists_start_sparing (expr : Expr) :
    ∃ token later, tokens expr.sparing = token :: later ∧ startsExpr token = true := by
  have begins : BeginsExpr (tokens expr.sparing ++ []) := beginsExpr_sparing expr (by simp)
  simpa using begins.starts

theorem length_sparing_pos (expr : Expr) : 0 < (tokens expr.sparing).length := by
  obtain ⟨token, later, shape, -⟩ := exists_start_sparing expr
  simp [shape]

/-! ### Reading on the way -/

/-- An expression is read on its way: from its tokens the reader comes to the operators after
it, with a reading less for each step. What binds as tightly as a sign before it is also read
as an operand. -/
structure ReadsOn (expr : Expr) : Prop where
  leads : ∀ (fuel rank spare : Nat) {rest : List Token},
    2 * (tokens expr.sparing).length + spare ≤ fuel + 1 → 1 ≤ spare → rank ≤ expr.reach →
    EndsBelow (expr.binding + 1) rest →
    ∃ remaining, spare ≤ remaining ∧
      Continues (exprOf fuel rank) (tokens expr.sparing ++ rest)
        (operatorsAfter remaining rank expr.isRelation expr) rest
  operand : 7 ≤ expr.binding → ∀ {fuel rank : Nat} {rest : List Token},
    2 * (tokens expr.sparing).length ≤ fuel + 1 → EndsBelow rank rest →
    Reads (operand fuel) (tokens expr.sparing ++ rest) expr rest

namespace ReadsOn

theorem reads (reads : ReadsOn expr)
    (enough : 2 * (tokens expr.sparing).length ≤ fuel) (reached : rank ≤ expr.reach)
    (within : rank ≤ expr.binding + 1) (ends : EndsBelow rank rest) :
    Reads (exprOf fuel rank) (tokens expr.sparing ++ rest) expr rest := by
  obtain ⟨remaining, room, continues⟩ :=
    reads.leads fuel rank 1 (by omega) (Nat.le_refl 1) reached (ends.mono within)
  obtain ⟨remaining, rfl⟩ := Nat.exists_eq_add_of_le' room
  exact continues.reads (reads_operatorsAfter_below remaining expr.isRelation expr ends)

/-- An expression is read as a whole where nothing goes on after it. -/
theorem readsAs (reads : ReadsOn expr) : ReadsAs (tokens expr.sparing) expr := by
  intro fuel rest enough ends
  have positive := expr.binding_pos
  exact reads.reads enough (Nat.le_trans positive expr.binding_le_reach)
    (Nat.le_succ_of_le positive) (ends.below _)

end ReadsOn

theorem length_enclosed (words : List Word) :
    (tokens (enclosed words)).length = (tokens words).length + 2 := by
  simp [Nat.add_assoc]

/-! An operand, in parentheses if it needs them. -/

theorem reads_enclosed_sparing (reads : ReadsOn expr) (rest : List Token)
    (enough : 2 * (tokens (enclosed expr.sparing)).length ≤ fuel + 3) :
    Reads (operand fuel) (tokens (enclosed expr.sparing) ++ rest) expr rest := by
  rw [length_enclosed] at enough
  simpa using ReadsAs.operand reads.readsAs rest (by omega)

/-- An operand on the left is read on its way to its operator. Where it is no relation, the
operator may be one. -/
theorem continues_fitted (reads : ReadsOn left) (fuel rank spare : Nat)
    (enough : 2 * (tokens (left.fittedTo required)).length + spare ≤ fuel + 1)
    (positive : 1 ≤ spare) (within : rank ≤ required) (ends : EndsBelow (required + 1) rest) :
    ∃ remaining related, spare ≤ remaining ∧ (5 ≤ required → related = false) ∧
      Continues (exprOf fuel rank) (tokens (left.fittedTo required) ++ rest)
        (operatorsAfter remaining rank related left) rest := by
  unfold Expr.fittedTo fitted at enough ⊢
  split at enough
  · next tight =>
      rw [if_pos tight]
      have reached : rank ≤ left.reach :=
        Nat.le_trans within (Nat.le_trans tight left.binding_le_reach)
      obtain ⟨remaining, room, continues⟩ :=
        reads.leads fuel rank spare enough positive reached (ends.mono (Nat.succ_le_succ tight))
      exact ⟨remaining, left.isRelation, room,
        fun above => Expr.isRelation_eq_false (by omega), continues⟩
  · next loose =>
      rw [if_neg loose]
      have size := length_enclosed left.sparing
      obtain ⟨fuel, rfl⟩ := Nat.exists_eq_add_of_le' (show 1 ≤ fuel by omega)
      exact ⟨fuel, false, by omega, fun _ => rfl,
        continues_exprOf (reads_enclosed_sparing reads rest (by omega))⟩

/-- An operand on the right is read up to the next operator that is too loose. -/
theorem reads_fitted (reads : ReadsOn right) (fuel : Nat)
    (enough : 2 * (tokens (right.fittedTo required)).length ≤ fuel)
    (reached : required ≤ right.binding → rank ≤ right.reach) (within : rank ≤ required + 1)
    (ends : EndsBelow rank rest) :
    Reads (exprOf fuel rank) (tokens (right.fittedTo required) ++ rest) right rest := by
  unfold Expr.fittedTo fitted at enough ⊢
  split at enough
  · next tight =>
      rw [if_pos tight]
      exact reads.reads enough (reached tight) (by omega) ends
  · next loose =>
      rw [if_neg loose]
      have size := length_enclosed right.sparing
      obtain ⟨fuel, rfl⟩ := Nat.exists_eq_add_of_le' (show 2 ≤ fuel by omega)
      exact reads_exprOf_operand (reads_enclosed_sparing reads rest (by omega)) ends

/-- After a minus an operand is read alone. -/
theorem reads_operand_fitted (reads : ReadsOn expr)
    (enough : 2 * (tokens (expr.fittedTo 7)).length ≤ fuel + 1) (ends : EndsBelow rank rest) :
    Reads (operand fuel) (tokens (expr.fittedTo 7) ++ rest) expr rest := by
  unfold Expr.fittedTo fitted at enough ⊢
  split at enough
  · next tight =>
      rw [if_pos tight]
      exact reads.operand tight enough ends
  · next loose =>
      rw [if_neg loose]
      exact reads_enclosed_sparing reads rest (by omega)

/-! ### Each kind of expression -/

theorem readsOn_of_operand (tight : 7 ≤ expr.binding)
    (reads : ∀ {fuel rank : Nat} {rest : List Token},
      2 * (tokens expr.sparing).length ≤ fuel + 1 → EndsBelow rank rest →
      Reads (operand fuel) (tokens expr.sparing ++ rest) expr rest) : ReadsOn expr := by
  refine ⟨?_, fun _ => reads⟩
  intro fuel rank spare rest enough positive reached ends
  have nonempty := length_sparing_pos expr
  obtain ⟨fuel, rfl⟩ := Nat.exists_eq_add_of_le' (show 1 ≤ fuel by omega)
  rw [Expr.isRelation_eq_false (by omega)]
  exact ⟨fuel, by omega, continues_exprOf (reads (by omega) ends)⟩

/-- A call is read on its way if what stands between its parentheses is read. -/
theorem readsOn_of_call {name : String} {arguments : Arguments} {inner : List Token}
    (called : call name arguments = .ok expr) (tight : 7 ≤ expr.binding)
    (shape : tokens expr.sparing =
      .identifier name :: .symbol .openParen :: (inner ++ [.symbol .closeParen]))
    (reads : ∀ fuel rest, 2 * inner.length + 2 ≤ fuel →
      Reads (argumentsOf fuel) (inner ++ .symbol .closeParen :: rest) arguments
        (.symbol .closeParen :: rest)) : ReadsOn expr :=
  readsOn_of_operand tight fun enough _ => reads_operand_call called shape reads _ enough

/-- An expression that begins with an operand and its operator goes on with the other
operand. -/
theorem continues_left (operator : Binary) (onLeft : ReadsOn left) (fuel rank spare : Nat)
    (middle : List Token)
    (enough : 2 * ((tokens (left.fittedTo operator.leftBinding)).length +
      (tokens operator.words).length) + spare ≤ fuel + 1)
    (bound : rank ≤ operator.binding) :
    ∃ remaining, spare + 1 ≤ remaining ∧
      Continues (exprOf fuel rank)
        (tokens (left.fittedTo operator.leftBinding) ++ (tokens operator.words ++ middle))
        (exprOf remaining (operator.binding + 1) >>= fun right =>
          operatorsAfter remaining rank (operator.build left right).isRelation
            (operator.build left right)) middle := by
  have written := length_words_pos operator
  have within := operator.binding_le_leftBinding
  obtain ⟨remaining, related, room, unrelated, leads⟩ := continues_fitted onLeft fuel rank
    (2 * (tokens operator.words).length + spare) (by omega) (by omega)
    (Nat.le_trans bound within) (endsBelow_words operator (Nat.lt_succ_of_le within) middle)
  obtain ⟨remaining, rfl⟩ := Nat.exists_eq_add_of_le' (show 1 ≤ remaining by omega)
  exact ⟨remaining, by omega,
    leads.trans (continues_binary operator remaining left middle bound unrelated)⟩

theorem readsOn_build (operator : Binary) (onLeft : ReadsOn left) (onRight : ReadsOn right) :
    ReadsOn (operator.build left right) := by
  refine ⟨?_, fun tight => absurd tight (by simpa using operator.binding_lt)⟩
  intro fuel rank spare rest enough positive reached ends
  rw [operator.sparing_build, tokens_append, tokens_append, List.length_append,
    List.length_append] at enough
  rw [Expr.reach_build] at reached
  rw [operator.binding_build] at ends
  obtain ⟨remaining, room, leads⟩ := continues_left operator onLeft fuel rank
    (2 * (tokens (right.fittedTo (operator.binding + 1))).length + spare)
    (tokens (right.fittedTo (operator.binding + 1)) ++ rest) (by omega) reached
  have other := reads_fitted onRight remaining (by omega)
    (fun tight => Nat.le_trans tight right.binding_le_reach) (Nat.le_succ _) ends
  rw [operator.sparing_build, tokens_append, tokens_append, List.append_assoc, List.append_assoc]
  exact ⟨remaining, by omega, leads.trans (other.continues _)⟩

theorem readsOn_nullCheck (negated : Bool) (onOperand : ReadsOn expr) :
    ReadsOn (.nullCheck expr negated) := by
  refine ⟨?_, fun tight => absurd tight (by simp [Expr.binding])⟩
  intro fuel rank spare rest enough positive reached ends
  have shape : tokens (Expr.nullCheck expr negated).sparing ++ rest =
      tokens (expr.fittedTo 5) ++ (.keyword .IS (String.ofList Keyword.IS.letters) ::
        ((if negated then [.keyword .NOT (String.ofList Keyword.NOT.letters)] else []) ++
          .keyword .NULL (String.ofList Keyword.NULL.letters) :: rest)) := by
    cases negated <;> simp [Expr.sparing, Expr.fittedTo]
  have size : (tokens (expr.fittedTo 5)).length + 2 ≤
      (tokens (Expr.nullCheck expr negated).sparing).length := by
    cases negated <;> simp [Expr.sparing, Expr.fittedTo]
  have within : rank ≤ 4 := reached
  have apart (later : List Token) :
      EndsBelow 6 (.keyword .IS (String.ofList Keyword.IS.letters) :: later) := by
    simp [operator?, Operator.rank, Level.rank]
  obtain ⟨remaining, related, room, unrelated, leads⟩ := continues_fitted onOperand fuel rank
    (spare + 4) (by omega) (by omega) (show rank ≤ 5 by omega) (apart _)
  obtain ⟨remaining, rfl⟩ := Nat.exists_eq_add_of_le' (show 1 ≤ remaining by omega)
  rw [shape]
  refine ⟨remaining, by omega, leads.trans ?_⟩
  rw [unrelated (Nat.le_refl 5)]
  exact continues_nullCheck negated _ _ _ false expr rest (show rank ≤ 5 by omega)

theorem readsOn_not (onOperand : ReadsOn expr) : ReadsOn (.not expr) := by
  refine ⟨?_, fun tight => absurd tight (by simp [Expr.binding])⟩
  intro fuel rank spare rest enough positive reached ends
  have shape : tokens (Expr.not expr).sparing =
      .keyword .NOT (String.ofList Keyword.NOT.letters) :: tokens (expr.fittedTo 3) := rfl
  rw [shape, List.length_cons] at enough
  obtain ⟨fuel, rfl⟩ := Nat.exists_eq_add_of_le' (show 2 ≤ fuel by omega)
  have inner := reads_fitted onOperand fuel (by omega) Expr.four_le_reach (by decide) ends
  rw [shape]
  exact ⟨fuel + 1, by omega, continues_exprOf (reads_not _ inner)⟩

theorem readsOn_negate (onOperand : ReadsOn expr)
    (unsigned : ∀ value, expr ≠ .literal (.number value)) : ReadsOn (.negate expr) := by
  apply readsOn_of_operand (by simp [Expr.binding])
  intro fuel rank rest enough ends
  have shape : tokens (Expr.negate expr).sparing =
      .symbol .minus :: tokens (expr.fittedTo 7) := rfl
  rw [shape, List.length_cons] at enough
  obtain ⟨fuel, rfl⟩ := Nat.exists_eq_add_of_le' (show 1 ≤ fuel by omega)
  exact reads_negate unsigned (reads_operand_fitted onOperand (show _ ≤ fuel + 1 by omega) ends)

theorem readsOn_sparing {expr : Expr} (grammatical : expr.Grammatical) : ReadsOn expr := by
  induction expr with
  | literal value =>
      exact readsOn_of_operand (by simp [Expr.binding]) fun enough _ =>
        reads_literal grammatical _ enough
  | column reference =>
      apply readsOn_of_operand (by simp [Expr.binding])
      intro fuel rank rest enough ends
      have positive := length_sparing_pos (.column reference)
      obtain ⟨fuel, rfl⟩ := Nat.exists_eq_add_of_le' (show 1 ≤ fuel by omega)
      exact reads_column reference ends
  | countRows => exact readsOn_of_call call_countRows (by decide) rfl reads_argumentsOf_star
  | aggregate function argument onArgument =>
      exact readsOn_of_call (call_aggregate function argument) (by simp [Expr.binding])
        (by simp [Expr.sparing]) fun _ rest enough =>
          reads_argumentsOf (onArgument grammatical).readsAs (exists_start_sparing argument) rest
            enough
  | changeCase letterCase argument onArgument =>
      exact readsOn_of_call (call_changeCase letterCase argument) (by simp [Expr.binding])
        (by simp [Expr.sparing]) fun _ rest enough =>
          reads_argumentsOf (onArgument grammatical).readsAs (exists_start_sparing argument) rest
            enough
  | today => exact readsOn_of_call call_today (by decide) rfl reads_argumentsOf_nil
  | arithmetic operator left right onLeft onRight =>
      exact readsOn_build (.arithmetic operator) (onLeft grammatical.1) (onRight grammatical.2)
  | negate operand onOperand =>
      exact readsOn_negate (onOperand grammatical.1) grammatical.2
  | condition relation left right onLeft onRight =>
      exact readsOn_build (.relation relation) (onLeft grammatical.1) (onRight grammatical.2)
  | nullCheck operand negated onOperand =>
      exact readsOn_nullCheck negated (onOperand grammatical)
  | compound connective left right onLeft onRight =>
      exact readsOn_build (.connective connective) (onLeft grammatical.1) (onRight grammatical.2)
  | not operand onOperand => exact readsOn_not (onOperand grammatical)

/-! ### Queries for one item -/

theorem BeginsExpr.keyword {before : List Token} (begins : BeginsExpr before) :
    before.head?.bind (isKeyword .DISTINCT) = none := by
  obtain ⟨token, later, rfl, starts⟩ := begins.starts
  exact isKeyword_eq_none_of_startsExpr starts fun _ => rfl

theorem BeginsExpr.symbol {before : List Token} (begins : BeginsExpr before) :
    before.head?.bind (isSymbol .star) = none := by
  obtain ⟨token, later, rfl, starts⟩ := begins.starts
  exact isSymbol_eq_none_of_startsExpr starts rfl

theorem readsItem_sparing (grammatical : expr.Grammatical) :
    ReadsItem selectItem [] (tokens expr.sparing) (.expr expr none) := by
  have anywhere {rest : List Token} (ends : Ends rest)
      (noAlias : rest.head?.bind (isKeyword .AS) = none) :
      Reads selectItem (tokens expr.sparing ++ rest) (.expr expr none) rest := by
    have undotted : rest.head? ≠ some (.symbol .dot) := fun next =>
      Bool.false_ne_true (ends _ next)
    exact reads_exprItem ((readsOn_sparing grammatical).readsAs.reads ends)
      (beginsExpr_sparing expr undotted).unstarred (reads_clause?_none _ noAlias)
  exact ⟨fun later => anywhere (by simp; rfl) rfl, anywhere ends_nil rfl⟩

theorem reads_itemQuery (grammatical : expr.Grammatical) :
    Reads Parser.statement (tokens (.keyword .SELECT :: expr.sparing))
      (.select (Native.itemQuery expr)) [] := by
  have begins : BeginsExpr (tokens expr.sparing ++ []) := beginsExpr_sparing expr (by simp)
  have items : Reads selectItems (tokens expr.sparing ++ []) [.expr expr none] [] :=
    (Reads.symbol?_false begins.symbol).bind
      (reads_commaTokens (.cons (readsItem_sparing grammatical) .nil) (by simp) rfl)
  rw [List.append_nil] at begins items
  have noJoins : Reads Parser.joins (tokens (List.flatMap JoinClause.words []) ++ []) [] [] :=
    reads_joins (by simp) (OpensWith.nil []) (by simp) (by simp)
  have absent {Value : Type} (word : Keyword) (parser : Parser Value) :
      Reads (clause? word parser) [] none [] := reads_clause?_none parser rfl
  have noList {Value : Type} (word : Keyword) (parser : Parser (List Value)) :
      Reads (listAfter word parser) [] [] [] := reads_listAfter_nil parser rfl
  have noListBy {Value : Type} (word : Keyword) (parser : Parser (List Value)) :
      Reads (listBy word parser) [] [] [] := reads_listBy_nil parser rfl
  exact reads_whole (reads_select _ (Native.reads_simpleQuery ⟨rfl, rfl, rfl, rfl, rfl⟩
    begins.keyword items (absent _ _) noJoins (absent _ _) (noListBy _ _) (noList _ _)
    (absent _ _) (noListBy _ _) (absent _ _) (absent _ _) (noList _ _) (noList _ _)))

/-- An expression is what the text of its words is read as after `SELECT`. -/
theorem parse_plainText (grammatical : expr.Grammatical) (ints : IntsOnly expr.literals) :
    Statement.parse (plainText (.keyword .SELECT :: expr.sparing)) =
      .ok (.select (Native.itemQuery expr)) := by
  have readable : AllReadable (.keyword .SELECT :: expr.sparing) := by
    simpa using Expr.readable_sparing grammatical ints
  exact parse_of_reads (cuts_plainText readable) (reads_itemQuery grammatical)

end Statement

end GridQuery
