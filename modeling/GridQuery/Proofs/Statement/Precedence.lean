import GridQuery.Proofs.Statement.ReadSparing

/-!
# Precedence and associativity

An expression is read back from its text with few parentheses, and two relations one after
the other without parentheses are refused, wherever in an expression they stand. The reader
takes what stands before them as the beginning of an expression, step by step, and then stops
at the second relation.
-/

namespace GridQuery

open Statement Statement.Parser

namespace Statement

/-- What an expression that has begun goes on with. -/
inductive Hole where
  /-- Operators that bind at least as tightly as the rank says, with their operands. -/
  | expr (rank : Nat)
  | operand

/-- The words that an expression may begin with, before a hole. Operands on the left are
whole expressions, with few parentheses; what comes after their operator binds more tightly. -/
inductive Opening : Hole → List Word → Prop where
  | whole : Opening (.expr 1) []
  | operand {rank : Nat} {front : List Word} :
      Opening (.expr rank) front → Opening .operand front
  | parenthesis {front : List Word} :
      Opening .operand front → Opening (.expr 1) (front ++ [.symbol .openParen])
  | call {front : List Word} {name : String} :
      Opening .operand front → IsName name →
        Opening (.expr 1) (front ++ [.name name, .symbol .openParen])
  | not {front : List Word} :
      Opening .operand front → Opening (.expr 4) (front ++ [.keyword .NOT])
  | negate {front : List Word} :
      Opening .operand front → Opening .operand (front ++ [.symbol .minus])
  | left {rank : Nat} {front : List Word} {left : Expr} (operator : Binary) :
      Opening (.expr rank) front → rank ≤ operator.binding → left.Grammatical →
        IntsOnly left.literals →
        Opening (.expr (operator.binding + 1))
          (front ++ (left.fittedTo operator.leftBinding ++ operator.words))

/-- Two relations of three operands, without parentheses and without the last operand. -/
def chained (left : Expr) (first : Relation) (middle : Expr) (second : Relation) : List Word :=
  left.fittedTo 5 ++ (first.words ++ (middle.fittedTo 5 ++ second.words))

/-- The reader of what fills a hole refuses the tokens, given two readings for each of them. -/
def Hole.Refuses (tokens : List Token) : Hole → Prop
  | expr rank => ∀ fuel, 2 * tokens.length + 1 ≤ fuel → Statement.Refuses (exprOf fuel rank) tokens
  | operand => ∀ fuel, 2 * tokens.length ≤ fuel → Statement.Refuses (Parser.operand fuel) tokens

variable {fuel rank : Nat} {left middle : Expr} {rest : List Token} {hole : Hole}
  {front tail : List Word}

/-! ### Beginnings -/

theorem refuses_expr (refuses : Hole.operand.Refuses rest) : (Hole.expr rank).Refuses rest := by
  intro fuel enough
  obtain ⟨fuel, rfl⟩ := Nat.exists_eq_add_of_le' (show 1 ≤ fuel by omega)
  rw [exprOf]
  exact (refuses fuel (by omega)).bind _

theorem refuses_parenthesis (refuses : (Hole.expr 1).Refuses rest) :
    Hole.operand.Refuses (.symbol .openParen :: rest) := by
  intro fuel enough
  rw [List.length_cons] at enough
  obtain ⟨fuel, rfl⟩ := Nat.exists_eq_add_of_le' (show 1 ≤ fuel by omega)
  exact (continues_openParen fuel rest).refuses ((refuses fuel (by omega)).bind _)

theorem refuses_call (name : String) (begins : BeginsExpr rest)
    (refuses : (Hole.expr 1).Refuses rest) :
    Hole.operand.Refuses (.identifier name :: .symbol .openParen :: rest) := by
  intro fuel enough
  simp only [List.length_cons] at enough
  obtain ⟨fuel, rfl⟩ := Nat.exists_eq_add_of_le' (show 3 ≤ fuel by omega)
  obtain ⟨token, later, rfl, starts⟩ := begins.starts
  rw [operand]
  refine Refuses.position_bind fun start => (Reads.peek _).refuses ((Reads.skip _ _).refuses ?_)
  refine (Reads.symbol?_true .openParen _).refuses (Refuses.bind ?_ _)
  rw [argumentsOf]
  refine (Reads.peek _).refuses ?_
  rw [List.head?_cons]
  split
  · next found => simp_all [startsExpr]
  · next found => simp_all [startsExpr]
  · rw [exprsOf]
    exact ((refuses fuel (by omega)).bind _).bind _

theorem refuses_not (written : String) (refuses : (Hole.expr 4).Refuses rest) :
    Hole.operand.Refuses (.keyword .NOT written :: rest) := by
  intro fuel enough
  rw [List.length_cons] at enough
  obtain ⟨fuel, rfl⟩ := Nat.exists_eq_add_of_le' (show 1 ≤ fuel by omega)
  exact (continues_not fuel written rest).refuses ((refuses fuel (by omega)).bind _)

theorem refuses_negate (refuses : Hole.operand.Refuses rest) :
    Hole.operand.Refuses (.symbol .minus :: rest) := by
  intro fuel enough
  rw [List.length_cons] at enough
  obtain ⟨fuel, rfl⟩ := Nat.exists_eq_add_of_le' (show 1 ≤ fuel by omega)
  exact (continues_minus fuel rest).refuses ((refuses fuel (by omega)).bind _)

theorem refuses_left (operator : Binary) (grammatical : left.Grammatical)
    (bound : rank ≤ operator.binding) (refuses : (Hole.expr (operator.binding + 1)).Refuses rest) :
    (Hole.expr rank).Refuses
      (tokens (left.fittedTo operator.leftBinding ++ operator.words) ++ rest) := by
  intro fuel enough
  simp only [tokens_append, List.length_append] at enough
  obtain ⟨remaining, room, leads⟩ := continues_left operator (readsOn_sparing grammatical) fuel rank
    (2 * rest.length + 1) rest (by omega) bound
  rw [tokens_append, List.append_assoc]
  exact leads.refuses ((refuses remaining (by omega)).bind _)

/-- What is refused in a hole is refused with the words before the hole. -/
theorem Opening.refuses (opening : Opening hole front) (begins : BeginsExpr rest)
    (refuses : hole.Refuses rest) :
    BeginsExpr (tokens front ++ rest) ∧ (Hole.expr 1).Refuses (tokens front ++ rest) := by
  induction opening generalizing rest with
  | whole => exact ⟨begins, refuses⟩
  | operand opening whole => exact whole begins (refuses_expr refuses)
  | parenthesis opening whole =>
      rw [tokens_append, List.append_assoc]
      exact whole (beginsExpr_cons rfl (by simp) _) (refuses_parenthesis refuses)
  | @call front name opening isName whole =>
      rw [tokens_append, List.append_assoc]
      exact whole (beginsExpr_name name (by simp)) (refuses_call name begins refuses)
  | not opening whole =>
      rw [tokens_append, List.append_assoc]
      exact whole (beginsExpr_cons rfl (by simp) _) (refuses_not _ refuses)
  | negate opening whole =>
      rw [tokens_append, List.append_assoc]
      exact whole (beginsExpr_cons rfl (by simp) _) (refuses_negate refuses)
  | left operator opening bound grammatical ints whole =>
      rw [tokens_append, List.append_assoc]
      refine whole ?_ (refuses_left operator grammatical bound refuses)
      rw [tokens_append, List.append_assoc]
      exact beginsExpr_left operator rest (beginsExpr_sparing _)

theorem Opening.readable (opening : Opening hole front) : AllReadable front := by
  induction opening with
  | whole => simp
  | operand opening readable => exact readable
  | parenthesis opening readable => simp [readable]
  | call opening isName readable => simp [readable, isName]
  | not opening readable => simp [readable]
  | negate opening readable => simp [readable]
  | left operator opening bound grammatical ints readable =>
      have onLeft := Expr.readable_sparing grammatical ints
      simp [readable, Expr.fittedTo, onLeft, operator.readable]

/-! ### A second relation -/

/-- After a relation, no other one is taken on its level. -/
theorem refuses_related (relation : Relation) (fuel : Nat) (left : Expr) (bound : rank ≤ 4)
    (rest : List Token) :
    Refuses (operatorsAfter (fuel + 1) rank true left) (tokens relation.words ++ rest) := by
  have stops {token : Token} {meaning : Operator} (later : List Token)
      (meant : operator? token = some meaning)
      (related : meaning = .relation relation ∨ meaning = .relationWith relation) :
      Refuses (operatorsAfter (fuel + 1) rank true left) (token :: later) := by
    have loose : ¬ meaning.rank < rank := by
      rcases related with rfl | rfl <;> exact Nat.not_lt.mpr bound
    rw [operatorsAfter]
    refine (Reads.peek _).refuses ?_
    simp only [List.head?_cons, Option.bind_some, meant, if_neg loose]
    rcases related with rfl | rfl <;> exact Refuses.fail token later
  cases relation with
  | compare comparison => cases comparison <;> exact stops _ rfl (.inl rfl)
  | contains => exact stops _ rfl (.inl rfl)
  | like => exact stops _ rfl (.inl rfl)
  | matchesPattern => exact stops _ rfl (.inl rfl)
  | startsWith => exact stops _ rfl (.inr rfl)
  | endsWith => exact stops _ rfl (.inr rfl)

theorem refuses_chained (first second : Relation) (onLeft : left.Grammatical)
    (onMiddle : middle.Grammatical) (bound : rank ≤ 4) (rest : List Token) :
    (Hole.expr rank).Refuses (tokens (chained left first middle second) ++ rest) := by
  intro fuel enough
  simp only [chained, tokens_append, List.append_assoc, List.length_append] at enough ⊢
  obtain ⟨remaining, room, leads⟩ := continues_left (.relation first) (readsOn_sparing onLeft)
    fuel rank (2 * (tokens (middle.fittedTo 5)).length)
    (tokens (middle.fittedTo 5) ++ (tokens second.words ++ rest))
    (show 2 * ((tokens (left.fittedTo 5)).length + (tokens first.words).length) + _ ≤ _ by omega)
    bound
  obtain ⟨remaining, rfl⟩ := Nat.exists_eq_add_of_le' (show 1 ≤ remaining by omega)
  have apart := endsBelow_words (.relation second) (show 4 < 5 by decide) rest
  have other := reads_fitted (readsOn_sparing onMiddle) (remaining + 1) (by omega)
    (fun tight => Nat.le_trans tight middle.binding_le_reach) (Nat.le_succ 5) apart
  exact leads.refuses (other.refuses (refuses_related second remaining _ bound rest))

theorem beginsExpr_chained (left : Expr) (first : Relation) (middle : Expr) (second : Relation)
    (rest : List Token) : BeginsExpr (tokens (chained left first middle second) ++ rest) := by
  simp only [chained, tokens_append, List.append_assoc]
  exact beginsExpr_left (.relation first) _ (beginsExpr_sparing left)

/-! ### Statements -/

theorem refuses_select {before : List Token} (written : String) (begins : BeginsExpr before)
    (refuses : Refuses Parser.expr before) :
    Refuses Parser.statement (.keyword .SELECT written :: before) := by
  have item : Refuses selectItem before := by
    have unlike := begins.unstarred
    refine Refuses.get_bind fun placed shape => ?_
    simp only [shape]
    exact refuses.bind _
  have items : Refuses selectItems before :=
    (Reads.symbol?_false begins.symbol).refuses ((Reads.fuel before).refuses (item.bind _))
  have query (start : Nat) : Refuses (selectQuery start) before :=
    ((Reads.keyword?_false begins.keyword).bind (Reads.pure (false, []) _)).refuses (items.bind _)
  have whole : Refuses Parser.query (.keyword .SELECT written :: before) :=
    Refuses.position_bind fun start =>
      (Reads.peek _).refuses ((Reads.skip _ _).refuses ((query start).bind _))
  exact whole.bind _

/-- A text whose tokens are refused is no statement. -/
theorem parse_of_refuses {text : String} {found : List Token} (cuts : Cuts text.toList found)
    (refuses : Refuses Parser.statement found) :
    ∃ cause, Statement.parse text = .error (.statement cause) := by
  obtain ⟨cut, -⟩ := cuts 0
  obtain ⟨next, rest, stopped⟩ := refuses _ cut
  have run : Parser.statement.run (lex text.toList).tokens =
      .error (.unexpected (next :: rest)) := stopped
  simp only [Statement.parse, run, errorOf]
  cases clauseAt text.toList next.position with
  | ok clause => exact ⟨_, rfl⟩
  | error cause => exact ⟨cause, rfl⟩

/-- The reader of an expression stops at a second relation. -/
theorem refuses_opening_chained (opening : Opening (.expr rank) front) (bound : rank ≤ 4)
    (first second : Relation) (onLeft : left.Grammatical) (onMiddle : middle.Grammatical)
    (tail : List Word) :
    BeginsExpr (tokens (front ++ (chained left first middle second ++ tail))) ∧
      Refuses Parser.expr (tokens (front ++ (chained left first middle second ++ tail))) := by
  obtain ⟨begins, refuses⟩ := opening.refuses (beginsExpr_chained left first middle second _)
    (refuses_chained first second onLeft onMiddle bound (tokens tail))
  simp only [tokens_append]
  exact ⟨begins, (Reads.fuel _).refuses (refuses _ (by omega))⟩

theorem parse_chained (opening : Opening (.expr rank) front) (bound : rank ≤ 4)
    (first second : Relation) (onLeft : left.Grammatical) (leftInts : IntsOnly left.literals)
    (onMiddle : middle.Grammatical) (middleInts : IntsOnly middle.literals)
    (readable : AllReadable tail) :
    ∃ cause, Statement.parse (plainText
      (.keyword .SELECT :: (front ++ (chained left first middle second ++ tail)))) =
        .error (.statement cause) := by
  have inChain : AllReadable (chained left first middle second) := by
    simp [chained, Expr.fittedTo, Expr.readable_sparing onLeft leftInts,
      Expr.readable_sparing onMiddle middleInts, Relation.readable]
  have whole : AllReadable
      (.keyword .SELECT :: (front ++ (chained left first middle second ++ tail))) := by
    simp [opening.readable, inChain, readable]
  obtain ⟨begins, refuses⟩ :=
    refuses_opening_chained opening bound first second onLeft onMiddle tail
  exact parse_of_refuses (cuts_plainText whole) (refuses_select _ begins refuses)

/-- Precedence and associativity are as the table says: each expression is what its text with
few parentheses is read as after `SELECT`. Two relations chained are refused, whatever an
expression may begin with before them and whatever words come after: the reader of expressions
stops there, in each clause, and so a text with them after `SELECT` is no statement. -/
theorem sparing_read_and_chained_refused :
    (∀ expr : Expr, expr.Grammatical → IntsOnly expr.literals →
      Statement.parse (plainText (.keyword .SELECT :: expr.sparing)) =
        .ok (.select (Native.itemQuery expr))) ∧
    ∀ (rank : Nat) (front tail : List Word) (left middle : Expr) (first second : Relation),
      Opening (.expr rank) front → rank ≤ 4 → left.Grammatical → IntsOnly left.literals →
        middle.Grammatical → IntsOnly middle.literals → AllReadable tail →
          Refuses Parser.expr (tokens (front ++ (chained left first middle second ++ tail))) ∧
          ∃ cause, Statement.parse (plainText
            (.keyword .SELECT :: (front ++ (chained left first middle second ++ tail)))) =
              .error (.statement cause) := by
  refine ⟨fun _ => parse_plainText, ?_⟩
  intro rank front tail left middle first second opening bound onLeft leftInts onMiddle middleInts
    readable
  constructor
  · exact (refuses_opening_chained opening bound first second onLeft onMiddle tail).2
  · exact parse_chained opening bound first second onLeft leftInts onMiddle middleInts readable

/-- Whether a rent is not what is left of the pay, or the pay is known to be nothing. -/
def budget : Expr :=
  .compound .or
    (.not (.condition (.compare .eq) (Native.columnNamed "rent")
      (.arithmetic .sub (Native.columnNamed "pay")
        (.arithmetic .sub (Native.columnNamed "tax") (.literal (.int 1))))))
    (.nullCheck (.negate (.aggregate .sum (Native.columnNamed "pay"))) true)

theorem budget_read_and_chained :
    Statement.parse "SELECT NOT rent = pay - ( tax - 1 ) OR - sum ( pay ) IS NOT NULL" =
        .ok (.select (Native.itemQuery budget)) ∧
      ∃ cause, Statement.parse "SELECT NOT ( rent = pay STARTS WITH tax )" =
        .error (.statement cause) := by
  have column {name : String} (isName : IsName name) :
      (Native.columnNamed name).Grammatical ∧ IntsOnly (Native.columnNamed name).literals :=
    ⟨⟨by simp, isName⟩, by simp [IntsOnly, Native.columnNamed, Expr.literals]⟩
  have rent := column (show IsName "rent" by decide)
  have pay := column (show IsName "pay" by decide)
  have tax := column (show IsName "tax" by decide)
  obtain ⟨read, refused⟩ := sparing_read_and_chained_refused
  constructor
  · have text : plainText (.keyword .SELECT :: budget.sparing) =
        "SELECT NOT rent = pay - ( tax - 1 ) OR - sum ( pay ) IS NOT NULL" := by
      decide
    have one : IsNumeral 1 := (by decide : digitCount 1 ≤ Numeral.digitLimit)
    have grammatical : budget.Grammatical :=
      ⟨⟨rent.1, pay.1, tax.1, one⟩, pay.1, by simp⟩
    have ints : IntsOnly budget.literals := by
      simp [budget, IntsOnly, Native.columnNamed, Expr.literals, Cell.int]
    rw [← text]
    exact read budget grammatical ints
  · have opening : Opening (.expr 1) [.keyword .NOT, .symbol .openParen] :=
      .parenthesis (.operand (.not (.operand .whole)))
    have readable : AllReadable [.name "tax", .symbol .closeParen] := by
      simpa using (show IsName "tax" by decide)
    exact (refused 1 _ _ (Native.columnNamed "rent") (Native.columnNamed "pay") (.compare .eq)
      .startsWith opening (by decide) rent.1 rent.2 pay.1 pay.2 readable).2

/-- An integer of too many digits is not read. -/
theorem parse_longInteger {value : Nat} (long : Numeral.digitLimit < digitCount value) :
    Statement.parse (plainText (.keyword .SELECT :: (Expr.literal (.int value)).sparing)) =
      .error (.data .notNumeral) := by
  have text : (plainText (.keyword .SELECT :: (Expr.literal (.int value)).sparing)).toList =
      Keyword.SELECT.letters ++ ' ' :: Nat.toDigits 10 value := by
    have nonnegative : ¬ (value : Int) < 0 := by omega
    simp [plainText, spellBy, Expr.sparing, Cell.words, Cell.int, Word.plainLetters, Word.letters,
      Text.ofInt, nonnegative]
  have run : Parser.statement.run [⟨.keyword .SELECT "SELECT", 0⟩] = .error (.unexpected []) := by
    rfl
  simp only [Statement.parse, text, lex_longInteger long, run, errorOf]

/-- An expression that is not read back: the least integer of too many digits. -/
theorem longInteger_not_read :
    Statement.parse (plainText (.keyword .SELECT ::
        (Expr.literal (.int ((10 ^ Numeral.digitLimit : Nat) : Int))).sparing)) ≠
      .ok (.select
        (Native.itemQuery (.literal (.int ((10 ^ Numeral.digitLimit : Nat) : Int))))) := by
  rw [parse_longInteger digitLimit_lt_digitCount]
  exact fun read => by cases read

end Statement

end GridQuery
