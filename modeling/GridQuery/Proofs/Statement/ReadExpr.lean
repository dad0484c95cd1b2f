import GridQuery.Proofs.Statement.Continues
import GridQuery.Proofs.Statement.Grammatical
import GridQuery.Statement.Parser.Expr
import Mathlib.Data.List.Forall2

/-!
# Printed expressions are read back

An expression is read from the tokens of its words, by induction on the expression: each
operand stands in parentheses, so it is read whole before the operator after it.
-/

namespace GridQuery

open Statement Statement.Parser

namespace Statement

@[simp]
theorem tokens_nil : tokens [] = [] := rfl

@[simp]
theorem tokens_cons (word : Word) (words : List Word) :
    tokens (word :: words) = word.tokens ++ tokens words := by
  simp [tokens]

@[simp]
theorem tokens_append (left right : List Word) :
    tokens (left ++ right) = tokens left ++ tokens right := by
  simp [tokens]

@[simp]
theorem tokens_keyword (word : Keyword) :
    (Word.keyword word).tokens = [.keyword word (String.ofList word.letters)] := rfl

@[simp]
theorem tokens_symbol (sign : Symbol) : (Word.symbol sign).tokens = [.symbol sign] := rfl

@[simp]
theorem tokens_name (name : String) : (Word.name name).tokens = [.identifier name] := rfl

@[simp]
theorem tokens_text (content : String) : (Word.text content).tokens = [.text content] := rfl

@[simp]
theorem tokens_count (value : Nat) : (Word.count value).tokens = [.integer value] := by
  simp [Word.count, Word.tokens]

@[simp]
theorem tokens_enclosed (words : List Word) :
    tokens (enclosed words) = .symbol .openParen :: (tokens words ++ [.symbol .closeParen]) := by
  simp [enclosed]

/-- Tokens with a comma between each two parts. -/
def commaTokens : List (List Token) → List Token
  | [] => []
  | [part] => part
  | part :: parts => part ++ .symbol .comma :: commaTokens parts

theorem tokens_listed {Item : Type} (wordsOf : Item → List Word) (items : List Item) :
    tokens (listed wordsOf items) = commaTokens (items.map fun item => tokens (wordsOf item)) := by
  induction items with
  | nil => rfl
  | cons item items inductionHypothesis =>
      cases items with
      | nil => rfl
      | cons next items =>
          rw [listed, tokens_append, tokens_cons, inductionHypothesis] <;> simp [commaTokens]

/-! What can come after an expression and before it. -/

/-- Whether no expression goes on with a token. -/
def endsExpr : Token → Bool
  | .symbol .dot => false
  | .symbol .openParen => false
  | token => (operator? token).isNone

/-- No expression goes on with the next token. -/
def Ends (rest : List Token) : Prop :=
  ∀ token ∈ rest.head?, endsExpr token = true

@[simp]
theorem ends_nil : Ends [] := by simp [Ends]

@[simp]
theorem ends_cons (token : Token) (rest : List Token) :
    Ends (token :: rest) ↔ endsExpr token = true := by simp [Ends]

theorem Ends.operator? {rest : List Token} (ends : Ends rest) :
    rest.head?.bind Parser.operator? = none := by
  cases rest with
  | nil => rfl
  | cons token rest =>
      have none : endsExpr token = true := by simpa using ends
      unfold endsExpr at none
      split at none <;> simp_all

/-- No expression of operators that bind at least as tightly as the rank says goes on with
the next token. -/
def EndsBelow (rank : Nat) (rest : List Token) : Prop :=
  ∀ token ∈ rest.head?, token ≠ .symbol .dot ∧ token ≠ .symbol .openParen ∧
    ∀ operator ∈ operator? token, operator.rank < rank

theorem Ends.below {rest : List Token} (ends : Ends rest) (rank : Nat) : EndsBelow rank rest := by
  intro token next
  have ended : endsExpr token = true := ends token next
  refine ⟨?_, ?_, ?_⟩
  · rintro rfl
    cases ended
  · rintro rfl
    cases ended
  · intro operator found
    have none := ends.operator?
    rw [Option.mem_def.mp next, Option.bind_some, Option.mem_def.mp found] at none
    cases none

theorem EndsBelow.mono {rank other : Nat} {rest : List Token} (ends : EndsBelow rank rest)
    (above : rank ≤ other) : EndsBelow other rest := by
  intro token next
  obtain ⟨dot, paren, below⟩ := ends token next
  exact ⟨dot, paren, fun operator found => Nat.lt_of_lt_of_le (below operator found) above⟩

/-- No name goes on with the next token. -/
theorem EndsBelow.symbol {rank : Nat} {rest : List Token} (ends : EndsBelow rank rest)
    {sign : Symbol} (goesOn : sign = .dot ∨ sign = .openParen) :
    rest.head?.bind (isSymbol sign) = none := by
  cases rest with
  | nil => rfl
  | cons token rest =>
      obtain ⟨dot, paren, -⟩ := ends token rfl
      apply isSymbol_eq_none
      rintro rfl
      rcases goesOn with rfl | rfl
      · exact dot rfl
      · exact paren rfl

/-- Whether a token can begin an expression. -/
def startsExpr : Token → Bool
  | .symbol sign => sign == .minus || sign == .openParen
  | .keyword word _ => [.NOT, .TRUE, .FALSE, .NULL, .DATE].contains word
  | .identifier _ => true
  | .integer _ => true
  | .float _ => true
  | .text _ => true
  | .tableRef _ => false
  | .range _ => false

theorem isSymbol_eq_none_of_startsExpr {token : Token} (starts : startsExpr token = true)
    {sign : Symbol} (other : startsExpr (.symbol sign) = false) : isSymbol sign token = none := by
  apply isSymbol_eq_none
  rintro rfl
  exact absurd starts (by simp [other])

theorem isKeyword_eq_none_of_startsExpr {token : Token} (starts : startsExpr token = true)
    {word : Keyword} (other : ∀ written, startsExpr (.keyword word written) = false) :
    isKeyword word token = none := by
  apply isKeyword_eq_none
  rintro written rfl
  exact absurd starts (by simp [other])

theorem exists_start (expr : Expr) :
    ∃ token later, tokens expr.words = token :: later ∧ startsExpr token = true := by
  cases expr with
  | literal value =>
      cases value with
      | null => exact ⟨_, _, rfl, rfl⟩
      | text content => exact ⟨_, _, rfl, rfl⟩
      | number number =>
          cases number with
          | int value =>
              by_cases negative : value < 0
              · refine ⟨.symbol .minus, [.integer value.natAbs], ?_, rfl⟩
                simp [Expr.words, Cell.words, Word.tokens, negative]
              · refine ⟨.integer value.natAbs, [], ?_, rfl⟩
                simp [Expr.words, Cell.words, Word.tokens, negative]
          | float value => exact ⟨_, _, rfl, rfl⟩
      | boolean flag => cases flag <;> exact ⟨_, _, rfl, rfl⟩
      | date moment => exact ⟨_, _, rfl, rfl⟩
  | column reference =>
      rcases reference with ⟨_ | qualifier, name⟩ <;> exact ⟨_, _, rfl, rfl⟩
  | _ => exact ⟨_, _, rfl, rfl⟩

/-! Reading operands and the operators between them. -/

variable {fuel rank : Nat} {related : Bool} {expr left right : Expr}
  {before middle rest after : List Token}

theorem reads_operatorsAfter_below (fuel : Nat) (related : Bool) (left : Expr)
    (ends : EndsBelow rank rest) :
    Reads (operatorsAfter (fuel + 1) rank related left) rest left rest := by
  rw [operatorsAfter]
  refine (Reads.peek rest).bind ?_
  cases rest with
  | nil => exact Reads.pure left []
  | cons token rest =>
      obtain ⟨-, -, below⟩ := ends token rfl
      rw [List.head?_cons, Option.bind_some]
      cases found : operator? token with
      | none => exact Reads.pure left _
      | some operator =>
          simp only [below operator found, if_true]
          exact Reads.pure left _

theorem reads_operatorsAfter_ends (fuel rank : Nat) (related : Bool) (left : Expr)
    (ends : Ends rest) : Reads (operatorsAfter (fuel + 1) rank related left) rest left rest :=
  reads_operatorsAfter_below fuel related left (ends.below rank)

/-- After its first operand an expression goes on with the operators. -/
theorem continues_exprOf (first : Reads (operand fuel) before left middle) :
    Continues (exprOf (fuel + 1) rank) before (operatorsAfter fuel rank false left) middle := by
  rw [exprOf]
  exact first.continues _

theorem reads_exprOf (first : Reads (operand fuel) before left middle)
    (later : Reads (operatorsAfter fuel rank false left) middle expr rest) :
    Reads (exprOf (fuel + 1) rank) before expr rest :=
  (continues_exprOf first).reads later

theorem reads_exprOf_operand (first : Reads (operand (fuel + 1)) before expr rest)
    (ends : EndsBelow rank rest) : Reads (exprOf (fuel + 2) rank) before expr rest :=
  reads_exprOf first (reads_operatorsAfter_below fuel false expr ends)

/-! What an operand begins with, and the reader that goes on after it. -/

theorem continues_openParen (fuel : Nat) (before : List Token) :
    Continues (operand (fuel + 1)) (.symbol .openParen :: before)
      (exprOf fuel (Level.rank .or) >>= fun inner => do symbol .closeParen; return inner)
      before := by
  rw [operand]
  exact Continues.position_bind fun _ =>
    ((Reads.peek _).continues _).trans ((Reads.skip _ _).continues _)

theorem continues_not (fuel : Nat) (written : String) (before : List Token) :
    Continues (operand (fuel + 1)) (.keyword .NOT written :: before)
      (exprOf fuel (Level.rank .relation) >>= fun inner => return .not inner) before := by
  rw [operand]
  exact Continues.position_bind fun _ =>
    ((Reads.peek _).continues _).trans ((Reads.skip _ _).continues _)

theorem continues_minus (fuel : Nat) (before : List Token) :
    Continues (operand (fuel + 1)) (.symbol .minus :: before)
      (operand fuel >>= fun inner => return negated inner) before := by
  rw [operand]
  exact Continues.position_bind fun _ =>
    ((Reads.peek _).continues _).trans ((Reads.skip _ _).continues _)

/-- Tokens are read as an expression wherever none goes on after them, given two readings
for each of them. -/
def ReadsAs (before : List Token) (expr : Expr) : Prop :=
  ∀ fuel rest, 2 * before.length ≤ fuel → Ends rest →
    Reads (exprOf fuel (Level.rank .or)) (before ++ rest) expr rest

theorem ReadsAs.operand (reads : ReadsAs before expr) (rest : List Token)
    (enough : 2 * before.length + 1 ≤ fuel) :
    Reads (operand fuel) (.symbol .openParen :: (before ++ .symbol .closeParen :: rest)) expr
      rest := by
  obtain ⟨fuel, rfl⟩ := Nat.exists_eq_add_of_le' (show 1 ≤ fuel by omega)
  have inner := reads fuel (.symbol .closeParen :: rest) (by omega) (by simp; rfl)
  exact (continues_openParen fuel _).reads
    (inner.bind ((Reads.symbol .closeParen rest).bind (Reads.pure expr rest)))

/-- An expression is read from its tokens, given two readings for each of them. -/
def ReadsBack (expr : Expr) : Prop :=
  ReadsAs (tokens expr.words) expr

theorem ReadsBack.operand (back : ReadsBack expr) (rest : List Token)
    (enough : 2 * (tokens expr.words).length + 1 ≤ fuel) :
    Reads (operand fuel) (tokens (enclosed expr.words) ++ rest) expr rest := by
  simpa using ReadsAs.operand back rest enough

theorem ReadsBack.exprOf_enclosed (back : ReadsBack expr) (ends : Ends rest)
    (enough : 2 * (tokens expr.words).length + 2 ≤ fuel) :
    Reads (exprOf fuel rank) (tokens (enclosed expr.words) ++ rest) expr rest := by
  obtain ⟨fuel, rfl⟩ := Nat.exists_eq_add_of_le' (show 2 ≤ fuel by omega)
  exact reads_exprOf_operand (back.operand rest (by omega)) (ends.below rank)

/-! One operator after an operand: its other operand is read, and then what comes after
that. -/

theorem continues_arithmetic (operator : Arithmetic) (related : Bool) (left : Expr)
    (middle : List Token) (bound : rank ≤ (Operator.arithmetic operator).rank) :
    Continues (operatorsAfter (fuel + 1) rank related left) (.symbol operator.symbol :: middle)
      (exprOf fuel ((Operator.arithmetic operator).rank + 1) >>= fun right =>
        operatorsAfter fuel rank false (.arithmetic operator left right)) middle := by
  have meant : operator? (.symbol operator.symbol) = some (.arithmetic operator) := by
    cases operator <;> rfl
  rw [operatorsAfter]
  refine ((Reads.peek _).continues _).trans ?_
  simp only [List.head?_cons, Option.bind_some, meant, if_neg (Nat.not_lt.mpr bound)]
  exact (Reads.skip _ _).continues _

theorem reads_arithmetic (operator : Arithmetic)
    (bound : rank ≤ (Operator.arithmetic operator).rank)
    (other : Reads (exprOf fuel ((Operator.arithmetic operator).rank + 1)) middle right rest)
    (later : Reads (operatorsAfter fuel rank false (.arithmetic operator left right)) rest expr
      after) :
    Reads (operatorsAfter (fuel + 1) rank related left) (.symbol operator.symbol :: middle) expr
      after :=
  (continues_arithmetic operator related left middle bound).reads (other.bind later)

theorem continues_compound (connective : Connective) (written : String) (related : Bool)
    (left : Expr) (middle : List Token)
    (bound : rank ≤ (Operator.connective connective).rank) :
    Continues (operatorsAfter (fuel + 1) rank related left)
      (.keyword connective.keyword written :: middle)
      (exprOf fuel ((Operator.connective connective).rank + 1) >>= fun right =>
        operatorsAfter fuel rank false (.compound connective left right)) middle := by
  have meant : operator? (.keyword connective.keyword written) =
      some (.connective connective) := by
    cases connective <;> rfl
  rw [operatorsAfter]
  refine ((Reads.peek _).continues _).trans ?_
  simp only [List.head?_cons, Option.bind_some, meant, if_neg (Nat.not_lt.mpr bound)]
  exact (Reads.skip _ _).continues _

theorem reads_compound (connective : Connective)
    (bound : rank ≤ (Operator.connective connective).rank) (written : String)
    (other : Reads (exprOf fuel ((Operator.connective connective).rank + 1)) middle right rest)
    (later : Reads (operatorsAfter fuel rank false (.compound connective left right)) rest expr
      after) :
    Reads (operatorsAfter (fuel + 1) rank related left)
      (.keyword connective.keyword written :: middle) expr after :=
  (continues_compound connective written related left middle bound).reads (other.bind later)

/-- The tokens of a relation, its keywords written in some case. -/
def relationTokens (written : Keyword → String) : Relation → List Token
  | .compare comparison => [.symbol comparison.symbol]
  | .contains => [.keyword .CONTAINS (written .CONTAINS)]
  | .startsWith => [.keyword .STARTS (written .STARTS), .keyword .WITH (written .WITH)]
  | .endsWith => [.keyword .ENDS (written .ENDS), .keyword .WITH (written .WITH)]
  | .like => [.keyword .LIKE (written .LIKE)]
  | .matchesPattern => [.keyword .MATCHES (written .MATCHES)]

theorem tokens_relation (relation : Relation) :
    tokens relation.words = relationTokens (fun word => String.ofList word.letters) relation := by
  cases relation <;> rfl

theorem continues_condition (relation : Relation) (written : Keyword → String) (left : Expr)
    (middle : List Token) (bound : rank ≤ Level.rank .relation) :
    Continues (operatorsAfter (fuel + 1) rank false left)
      (relationTokens written relation ++ middle)
      (exprOf fuel (Level.rank .relation + 1) >>= fun right =>
        operatorsAfter fuel rank true (.condition relation left right)) middle := by
  have plain {token : Token} (meant : operator? token = some (.relation relation)) :
      Continues (operatorsAfter (fuel + 1) rank false left) (token :: middle)
        (exprOf fuel (Level.rank .relation + 1) >>= fun right =>
          operatorsAfter fuel rank true (.condition relation left right)) middle := by
    have loose : ¬ (Operator.relation relation).rank < rank := Nat.not_lt.mpr bound
    rw [operatorsAfter]
    refine ((Reads.peek _).continues _).trans ?_
    simp only [List.head?_cons, Option.bind_some, meant, if_neg loose]
    exact (Reads.skip _ _).continues _
  have completed {token : Token} (meant : operator? token = some (.relationWith relation)) :
      Continues (operatorsAfter (fuel + 1) rank false left)
        (token :: .keyword .WITH (written .WITH) :: middle)
        (exprOf fuel (Level.rank .relation + 1) >>= fun right =>
          operatorsAfter fuel rank true (.condition relation left right)) middle := by
    have loose : ¬ (Operator.relationWith relation).rank < rank := Nat.not_lt.mpr bound
    rw [operatorsAfter]
    refine ((Reads.peek _).continues _).trans ?_
    simp only [List.head?_cons, Option.bind_some, meant, if_neg loose]
    exact ((Reads.skip _ _).continues _).trans ((Reads.keyword .WITH _ _).continues _)
  cases relation with
  | compare comparison => cases comparison <;> exact plain rfl
  | contains => exact plain rfl
  | like => exact plain rfl
  | matchesPattern => exact plain rfl
  | startsWith => exact completed rfl
  | endsWith => exact completed rfl

theorem reads_condition (relation : Relation) (written : Keyword → String)
    (bound : rank ≤ Level.rank .relation)
    (other : Reads (exprOf fuel (Level.rank .relation + 1)) middle right rest)
    (later : Reads (operatorsAfter fuel rank true (.condition relation left right)) rest expr
      after) :
    Reads (operatorsAfter (fuel + 1) rank false left)
      (relationTokens written relation ++ middle) expr after :=
  (continues_condition relation written left middle bound).reads (other.bind later)

theorem continues_nullCheck (negated : Bool) (written no null : String) (related : Bool)
    (left : Expr) (rest : List Token) (bound : rank ≤ Level.rank .sum) :
    Continues (operatorsAfter (fuel + 1) rank related left)
      (.keyword .IS written ::
        ((if negated then [.keyword .NOT no] else []) ++ .keyword .NULL null :: rest))
      (operatorsAfter fuel rank related (.nullCheck left negated)) rest := by
  have meant : operator? (.keyword .IS written) = some .nullCheck := rfl
  have loose : ¬ Operator.nullCheck.rank < rank := Nat.not_lt.mpr bound
  rw [operatorsAfter]
  refine ((Reads.peek _).continues _).trans ?_
  simp only [List.head?_cons, Option.bind_some, meant, if_neg loose]
  refine ((Reads.skip _ _).continues _).trans ?_
  cases negated with
  | true =>
      exact ((Reads.keyword?_true .NOT _ _).continues _).trans
        ((Reads.keyword .NULL _ _).continues _)
  | false =>
      exact ((Reads.keyword?_false rfl).continues _).trans
        ((Reads.keyword .NULL _ _).continues _)

theorem reads_nullCheck (negated : Bool) (written no null : String)
    (bound : rank ≤ Level.rank .sum)
    (later : Reads (operatorsAfter fuel rank related (.nullCheck left negated)) rest expr after) :
    Reads (operatorsAfter (fuel + 1) rank related left)
      (.keyword .IS written ::
        ((if negated then [.keyword .NOT no] else []) ++ .keyword .NULL null :: rest))
      expr after :=
  (continues_nullCheck negated written no null related left rest bound).reads later

/-! Columns, calls and literals. -/

theorem reads_columnAfter_none (name : String) (other : rest.head?.bind (isSymbol .dot) = none) :
    Reads (columnAfter name) rest ⟨none, name⟩ rest :=
  (Reads.symbol?_false other).bind (Reads.pure _ rest)

theorem reads_columnAfter_some (qualifier name : String) (rest : List Token) :
    Reads (columnAfter qualifier) (.symbol .dot :: .identifier name :: rest)
      ⟨some qualifier, name⟩ rest :=
  (Reads.symbol?_true .dot _).bind ((Reads.identifier name rest).bind (Reads.pure _ rest))

theorem reads_column (reference : ColumnRef) (ends : EndsBelow rank rest) :
    Reads (operand (fuel + 1)) (tokens reference.words ++ rest) (.column reference) rest := by
  rw [operand]
  refine Reads.position_bind fun start => (Reads.peek _).bind ?_
  rcases reference with ⟨_ | qualifier, name⟩
  · refine (Reads.skip _ _).bind ?_
    refine (Reads.symbol?_false (ends.symbol (.inr rfl))).bind ?_
    exact (reads_columnAfter_none name (ends.symbol (.inl rfl))).bind (Reads.pure _ rest)
  · refine (Reads.skip _ _).bind ?_
    refine (Reads.symbol?_false rfl).bind ?_
    exact (reads_columnAfter_some qualifier name rest).bind (Reads.pure _ rest)

theorem reads_call {name : String} {arguments : Arguments} (called : call name arguments = .ok expr)
    (inner : Reads (argumentsOf fuel) before arguments (.symbol .closeParen :: rest)) :
    Reads (operand (fuel + 1)) (.identifier name :: .symbol .openParen :: before) expr rest := by
  rw [operand]
  refine Reads.position_bind fun start => (Reads.peek _).bind ((Reads.skip _ _).bind ?_)
  refine (Reads.symbol?_true .openParen before).bind (inner.bind ?_)
  refine (Reads.symbol .closeParen rest).bind ?_
  simp only [called]
  exact Reads.pure expr rest

/-- Expressions between commas are read one after another. -/
theorem reads_exprsOf {parts : List (List Token)} {exprs : List Expr}
    (each : List.Forall₂ ReadsAs parts exprs) (nonempty : exprs ≠ []) (ends : Ends rest)
    (other : rest.head?.bind (isSymbol .comma) = none)
    (enough : 2 * (commaTokens parts).length + 1 ≤ fuel) :
    Reads (exprsOf fuel) (commaTokens parts ++ rest) exprs rest := by
  induction each generalizing fuel with
  | nil => exact absurd rfl nonempty
  | @cons part first parts later reads each inductionHypothesis =>
      obtain ⟨fuel, rfl⟩ := Nat.exists_eq_add_of_le' (show 1 ≤ fuel by omega)
      rw [exprsOf]
      cases each with
      | nil =>
          have room : 2 * part.length ≤ fuel := by
            simpa [commaTokens] using enough
          refine (reads fuel rest room ends).bind ?_
          exact (Reads.symbol?_false other).bind (Reads.pure [first] rest)
      | cons next each =>
          simp only [commaTokens, List.length_append, List.length_cons] at enough
          simp only [commaTokens, List.append_assoc, List.cons_append]
          refine (reads fuel _ (by omega) (by simp; rfl)).bind ?_
          refine (Reads.symbol?_true .comma _).bind ?_
          refine (inductionHypothesis (by simp) ?_).bind (Reads.pure _ rest)
          omega

theorem reads_argumentsOf (reads : ReadsAs before expr)
    (begins : ∃ token later, before = token :: later ∧ startsExpr token = true)
    (rest : List Token) (enough : 2 * before.length + 2 ≤ fuel) :
    Reads (argumentsOf fuel) (before ++ .symbol .closeParen :: rest)
      (.exprs [expr]) (.symbol .closeParen :: rest) := by
  obtain ⟨fuel, rfl⟩ := Nat.exists_eq_add_of_le' (show 1 ≤ fuel by omega)
  have inner : Reads (exprsOf fuel) (before ++ .symbol .closeParen :: rest) [expr]
      (.symbol .closeParen :: rest) :=
    reads_exprsOf (.cons reads .nil) (by simp) (by simp; rfl) rfl
      (by simp only [commaTokens]; omega)
  obtain ⟨token, later, rfl, starts⟩ := begins
  rw [argumentsOf]
  refine (Reads.peek _).bind ?_
  simp only [List.cons_append, List.head?_cons] at inner ⊢
  split
  · next found => simp_all [startsExpr]
  · next found => simp_all [startsExpr]
  · exact inner.bind (Reads.pure _ _)

/-- A phrase of one operand is read back if the operand is, whatever comes after it. -/
theorem readsBack_of_operand (nonempty : tokens expr.words ≠ [])
    (reads : ∀ fuel rest, 2 * (tokens expr.words).length ≤ fuel + 1 → Ends rest →
      Reads (operand fuel) (tokens expr.words ++ rest) expr rest) : ReadsBack expr := by
  intro fuel rest enough ends
  have positive := List.length_pos_iff.mpr nonempty
  obtain ⟨fuel, rfl⟩ := Nat.exists_eq_add_of_le' (show 2 ≤ fuel by omega)
  exact reads_exprOf_operand (reads (fuel + 1) rest (by omega) ends) (ends.below _)

theorem reads_integer (fuel value : Nat) (rest : List Token) :
    Reads (operand (fuel + 1)) (.integer value :: rest) (.literal (.int value)) rest := by
  rw [operand]
  exact Reads.position_bind fun start =>
    (Reads.peek _).bind ((Reads.skip _ _).bind (Reads.pure _ rest))

theorem reads_minus {operandExpr : Expr} (inner : Reads (operand fuel) before operandExpr rest) :
    Reads (operand (fuel + 1)) (.symbol .minus :: before) (negated operandExpr) rest :=
  (continues_minus fuel before).reads (inner.bind (Reads.pure _ rest))

/-- A minus before what is no number is an operation. -/
theorem reads_negate {operandExpr : Expr}
    (unsigned : ∀ value, operandExpr ≠ .literal (.number value))
    (inner : Reads (operand fuel) before operandExpr rest) :
    Reads (operand (fuel + 1)) (.symbol .minus :: before) (.negate operandExpr) rest := by
  have unfolded : negated operandExpr = .negate operandExpr := by
    unfold negated
    split
    · next value => exact absurd rfl (unsigned value)
    · rfl
  exact unfolded ▸ reads_minus inner

theorem reads_not (written : String)
    (inner : Reads (exprOf fuel (Level.rank .relation)) before expr rest) :
    Reads (operand (fuel + 1)) (.keyword .NOT written :: before) (.not expr) rest :=
  (continues_not fuel written before).reads (inner.bind (Reads.pure _ rest))

theorem reads_int (value : Int) (rest : List Token)
    (enough : (Word.number (.int value)).tokens.length ≤ fuel) :
    Reads (operand fuel) ((Word.number (.int value)).tokens ++ rest)
      (.literal (.number (.int value))) rest := by
  by_cases negative : value < 0
  · simp only [Word.tokens, negative, if_true, List.length_cons, List.length_nil] at enough ⊢
    obtain ⟨fuel, rfl⟩ := Nat.exists_eq_add_of_le' (show 2 ≤ fuel by omega)
    have size : -(value.natAbs : Int) = value := by omega
    have taken : negated (.literal (.int value.natAbs)) = .literal (.number (.int value)) := by
      simp only [Cell.int, negated, Number.neg, size]
    rw [← taken]
    exact reads_minus (reads_integer fuel value.natAbs rest)
  · simp only [Word.tokens, negative, if_false, List.length_cons, List.length_nil] at enough ⊢
    obtain ⟨fuel, rfl⟩ := Nat.exists_eq_add_of_le' (show 1 ≤ fuel by omega)
    have size : (value.natAbs : Int) = value := by omega
    have reads := reads_integer fuel value.natAbs rest
    rw [size] at reads
    exact reads

theorem tokens_ne_nil (expr : Expr) : tokens expr.words ≠ [] := by
  obtain ⟨token, later, shape, -⟩ := exists_start expr
  simp [shape]

theorem reads_float (fuel : Nat) (value : Double) (rest : List Token) :
    Reads (operand (fuel + 1)) (.float value :: rest) (.literal (.number (.float value)))
      rest := by
  rw [operand]
  exact Reads.position_bind fun start =>
    (Reads.peek _).bind ((Reads.skip _ _).bind (Reads.pure _ rest))

theorem reads_text (fuel : Nat) (content : String) (rest : List Token) :
    Reads (operand (fuel + 1)) (.text content :: rest) (.literal (.text content)) rest := by
  rw [operand]
  exact Reads.position_bind fun start =>
    (Reads.peek _).bind ((Reads.skip _ _).bind (Reads.pure _ rest))

theorem reads_boolean (fuel : Nat) (flag : Bool) (written : String) (rest : List Token) :
    Reads (operand (fuel + 1)) (.keyword (if flag then .TRUE else .FALSE) written :: rest)
      (.literal (.boolean flag)) rest := by
  rw [operand]
  refine Reads.position_bind fun start => (Reads.peek _).bind ?_
  cases flag <;> exact (Reads.skip _ _).bind (Reads.pure _ rest)

theorem reads_date (fuel : Nat) {content : String} {moment : Moment}
    (read : Moment.read content = .ok (some moment)) (written : String) (rest : List Token) :
    Reads (operand (fuel + 1)) (.keyword .DATE written :: .text content :: rest)
      (.literal (.date moment)) rest := by
  rw [operand]
  refine Reads.position_bind fun start => (Reads.peek _).bind ((Reads.skip _ _).bind ?_)
  refine Reads.position_bind fun start => (Reads.text _ rest).bind ?_
  simp only [dateLiteral, read]
  exact Reads.pure _ rest

theorem reads_literal {value : Cell} (grammatical : value.Grammatical) (rest : List Token)
    (enough : 2 * (tokens value.words).length ≤ fuel + 1) :
    Reads (operand fuel) (tokens value.words ++ rest) (.literal value) rest := by
  have positive : 0 < (tokens value.words).length :=
    List.length_pos_iff.mpr (tokens_ne_nil (.literal value))
  obtain ⟨fuel, rfl⟩ := Nat.exists_eq_add_of_le' (show 1 ≤ fuel by omega)
  cases value with
  | number number =>
      cases number with
      | int value =>
          have room : (Word.number (.int value)).tokens.length ≤ fuel + 1 := by
            simp only [Cell.words, tokens_cons, tokens_nil, List.append_nil] at enough
            omega
          simpa [Cell.words] using reads_int value rest room
      | float value => exact reads_float fuel value rest
  | date moment => exact reads_date fuel (Moment.read_secondText moment grammatical) _ rest
  | null =>
      rw [operand]
      exact Reads.position_bind fun start =>
        (Reads.peek _).bind ((Reads.skip _ _).bind (Reads.pure _ rest))
  | text content => exact reads_text fuel content rest
  | boolean flag => cases flag <;> exact reads_boolean fuel _ _ rest

/-! Whole expressions. -/

theorem call_aggregate (function : Aggregate) (argument : Expr) :
    call function.name (.exprs [argument]) = .ok (.aggregate function argument) := by
  cases function <;> rfl

theorem call_changeCase (letterCase : LetterCase) (argument : Expr) :
    call letterCase.name (.exprs [argument]) = .ok (.changeCase letterCase argument) := by
  cases letterCase <;> rfl

/-- An operation is read back if what comes after its operand on the left is. -/
theorem readsBack_of_operator (back : ReadsBack left) {later : List Token}
    (shape : tokens expr.words = tokens (enclosed left.words) ++ later)
    (after : ∀ fuel rest, 2 * later.length ≤ fuel → Ends rest →
      Reads (operatorsAfter fuel (Level.rank .or) false left) (later ++ rest) expr rest) :
    ReadsBack expr := by
  intro fuel rest enough ends
  rw [shape, tokens_enclosed] at enough
  simp only [List.length_append, List.length_cons, List.length_nil] at enough
  obtain ⟨fuel, rfl⟩ := Nat.exists_eq_add_of_le' (show 1 ≤ fuel by omega)
  rw [shape, List.append_assoc]
  apply reads_exprOf
  · exact back.operand (later ++ rest) (by omega)
  · exact after fuel rest (by omega) ends

/-- A call is read as an operand if what stands between its parentheses is read. -/
theorem reads_operand_call {name : String} {arguments : Arguments} {inner : List Token}
    (called : call name arguments = .ok expr)
    (shape : before = .identifier name :: .symbol .openParen :: (inner ++ [.symbol .closeParen]))
    (reads : ∀ fuel rest, 2 * inner.length + 2 ≤ fuel →
      Reads (argumentsOf fuel) (inner ++ .symbol .closeParen :: rest) arguments
        (.symbol .closeParen :: rest))
    (rest : List Token) (enough : 2 * before.length ≤ fuel + 1) :
    Reads (operand fuel) (before ++ rest) expr rest := by
  simp only [shape, List.length_cons, List.length_append, List.length_nil] at enough
  obtain ⟨fuel, rfl⟩ := Nat.exists_eq_add_of_le' (show 1 ≤ fuel by omega)
  rw [shape]
  simp only [List.cons_append, List.append_assoc, List.nil_append]
  exact reads_call called (reads fuel rest (by omega))

/-- A call is read back if what stands between its parentheses is. -/
theorem readsBack_of_call {name : String} {arguments : Arguments} {inner : List Token}
    (called : call name arguments = .ok expr)
    (shape : tokens expr.words =
      .identifier name :: .symbol .openParen :: (inner ++ [.symbol .closeParen]))
    (reads : ∀ fuel rest, 2 * inner.length + 2 ≤ fuel →
      Reads (argumentsOf fuel) (inner ++ .symbol .closeParen :: rest) arguments
        (.symbol .closeParen :: rest)) : ReadsBack expr :=
  readsBack_of_operand (by simp [shape]) fun _ rest enough _ =>
    reads_operand_call called shape reads rest enough

theorem call_countRows : call "count" .star = .ok .countRows := rfl

theorem call_today : call "today" (.exprs []) = .ok .today := rfl

theorem reads_argumentsOf_star (fuel : Nat) (rest : List Token)
    (enough : 2 * [Token.symbol .star].length + 2 ≤ fuel) :
    Reads (argumentsOf fuel) ([.symbol .star] ++ .symbol .closeParen :: rest) .star
      (.symbol .closeParen :: rest) := by
  obtain ⟨fuel, rfl⟩ := Nat.exists_eq_add_of_le' (show 1 ≤ fuel by omega)
  rw [argumentsOf]
  exact (Reads.peek _).bind ((Reads.skip _ _).bind (Reads.pure _ _))

theorem reads_argumentsOf_nil (fuel : Nat) (rest : List Token)
    (enough : 2 * ([] : List Token).length + 2 ≤ fuel) :
    Reads (argumentsOf fuel) ([] ++ .symbol .closeParen :: rest) (.exprs [])
      (.symbol .closeParen :: rest) := by
  obtain ⟨fuel, rfl⟩ := Nat.exists_eq_add_of_le' (show 1 ≤ fuel by omega)
  rw [argumentsOf]
  exact (Reads.peek _).bind (Reads.pure _ _)

theorem readsBack_countRows : ReadsBack .countRows :=
  readsBack_of_call call_countRows rfl reads_argumentsOf_star

theorem readsBack_today : ReadsBack .today :=
  readsBack_of_call call_today rfl reads_argumentsOf_nil

theorem readsBack_aggregate (function : Aggregate) {argument : Expr}
    (back : ReadsBack argument) : ReadsBack (.aggregate function argument) :=
  readsBack_of_call (call_aggregate function argument) (by simp [Expr.words])
    (fun _ rest enough => reads_argumentsOf back (exists_start argument) rest enough)

theorem readsBack_changeCase (letterCase : LetterCase) {argument : Expr}
    (back : ReadsBack argument) : ReadsBack (.changeCase letterCase argument) :=
  readsBack_of_call (call_changeCase letterCase argument) (by simp [Expr.words])
    (fun _ rest enough => reads_argumentsOf back (exists_start argument) rest enough)

/-- Each grammatical expression is read back. -/
theorem readsBack {expr : Expr} (grammatical : expr.Grammatical) : ReadsBack expr := by
  induction expr with
  | literal value =>
      exact readsBack_of_operand (tokens_ne_nil _) fun fuel rest enough _ =>
        reads_literal grammatical rest enough
  | column reference =>
      apply readsBack_of_operand (tokens_ne_nil _)
      intro fuel rest enough ends
      have positive := List.length_pos_iff.mpr (tokens_ne_nil (.column reference))
      obtain ⟨fuel, rfl⟩ := Nat.exists_eq_add_of_le' (show 1 ≤ fuel by omega)
      exact reads_column reference (ends.below (Level.rank .or))
  | countRows => exact readsBack_countRows
  | aggregate function argument inductionHypothesis =>
      exact readsBack_aggregate function (inductionHypothesis grammatical)
  | changeCase letterCase argument inductionHypothesis =>
      exact readsBack_changeCase letterCase (inductionHypothesis grammatical)
  | today => exact readsBack_today
  | negate operand inductionHypothesis =>
      have back := inductionHypothesis grammatical.1
      apply readsBack_of_operand (tokens_ne_nil _)
      intro fuel rest enough _
      simp only [Expr.words, tokens_cons, tokens_symbol, tokens_enclosed, List.length_cons,
        List.length_append, List.length_nil] at enough
      obtain ⟨fuel, rfl⟩ := Nat.exists_eq_add_of_le' (show 1 ≤ fuel by omega)
      exact reads_negate grammatical.2 (back.operand rest (by omega))
  | not operand inductionHypothesis =>
      have back := inductionHypothesis grammatical
      apply readsBack_of_operand (tokens_ne_nil _)
      intro fuel rest enough ends
      simp only [Expr.words, tokens_cons, tokens_keyword, tokens_enclosed, List.length_cons,
        List.length_append, List.length_nil] at enough
      obtain ⟨fuel, rfl⟩ := Nat.exists_eq_add_of_le' (show 1 ≤ fuel by omega)
      exact reads_not _ (back.exprOf_enclosed ends (by omega))
  | arithmetic operator left right leftHypothesis rightHypothesis =>
      apply readsBack_of_operator (leftHypothesis grammatical.1) (tokens_append _ _)
      intro fuel rest enough ends
      simp only [tokens_cons, tokens_symbol, tokens_enclosed, List.length_append,
        List.length_cons, List.length_nil] at enough
      obtain ⟨fuel, rfl⟩ := Nat.exists_eq_add_of_le' (show 1 ≤ fuel by omega)
      obtain ⟨fuel, rfl⟩ := Nat.exists_eq_add_of_le' (show 1 ≤ fuel by omega)
      have right := rightHypothesis grammatical.2
      apply reads_arithmetic operator (by cases operator <;> decide)
      · exact right.exprOf_enclosed ends (by omega)
      · exact reads_operatorsAfter_ends _ _ _ _ ends
  | condition relation left right leftHypothesis rightHypothesis =>
      have shape : tokens (Expr.condition relation left right).words =
          tokens (enclosed left.words) ++
            (relationTokens (fun word => String.ofList word.letters) relation ++
              tokens (enclosed right.words)) := by
        simp [Expr.words, tokens_relation]
      apply readsBack_of_operator (leftHypothesis grammatical.1) shape
      intro fuel rest enough ends
      simp only [tokens_enclosed, List.length_append, List.length_cons, List.length_nil] at enough
      obtain ⟨fuel, rfl⟩ := Nat.exists_eq_add_of_le' (show 2 ≤ fuel by omega)
      have right := rightHypothesis grammatical.2
      rw [List.append_assoc]
      apply reads_condition relation _ (by decide)
      · exact right.exprOf_enclosed ends (by omega)
      · exact reads_operatorsAfter_ends _ _ _ _ ends
  | nullCheck operand negated inductionHypothesis =>
      apply readsBack_of_operator (inductionHypothesis grammatical) (tokens_append _ _)
      intro fuel rest enough ends
      simp only [tokens_cons, tokens_keyword, tokens_append, List.length_append,
        List.length_cons, List.length_nil] at enough
      obtain ⟨fuel, rfl⟩ := Nat.exists_eq_add_of_le' (show 2 ≤ fuel by omega)
      have after := reads_nullCheck negated (String.ofList Keyword.IS.letters)
        (String.ofList Keyword.NOT.letters) (String.ofList Keyword.NULL.letters) (by decide)
        (reads_operatorsAfter_ends fuel (Level.rank .or) false (.nullCheck operand negated) ends)
      cases negated <;> exact after
  | compound connective left right leftHypothesis rightHypothesis =>
      apply readsBack_of_operator (leftHypothesis grammatical.1) (tokens_append _ _)
      intro fuel rest enough ends
      simp only [tokens_cons, tokens_keyword, tokens_enclosed, List.length_append,
        List.length_cons, List.length_nil] at enough
      obtain ⟨fuel, rfl⟩ := Nat.exists_eq_add_of_le' (show 1 ≤ fuel by omega)
      obtain ⟨fuel, rfl⟩ := Nat.exists_eq_add_of_le' (show 1 ≤ fuel by omega)
      have right := rightHypothesis grammatical.2
      apply reads_compound connective (by cases connective <;> decide)
      · exact right.exprOf_enclosed ends (by omega)
      · exact reads_operatorsAfter_ends _ _ _ _ ends

end Statement

end GridQuery
