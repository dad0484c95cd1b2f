import GridQuery.Proofs.Fallible
import GridQuery.Proofs.Statement.DigitRuns
import GridQuery.Statement.Reader

/-!
# What stops the reading of a statement

A text that is no statement is refused as one. Only a date past what the calendar counts
with stops the reading otherwise: `Dated` says of a reader that each fault of data
that it stops with is the one of a date literal among its tokens, with one rule for each way
to put readers together.
-/

namespace GridQuery

namespace Statement

open Statement.Parser

variable {Value Next : Type}

/-- There is a date literal of the content among the tokens. -/
def HoldsDate (placed : List PlacedToken) (content : String) : Prop :=
  ∃ written start place,
    [⟨.keyword .DATE written, start⟩, ⟨.text content, place⟩] <:+: placed

/-- From the tokens, a reader leaves the last of them, and a fault of data that stops it is
the one of a date literal among them. -/
def DatedFrom (placed : List PlacedToken) (parser : Parser Value) : Prop :=
  (∀ value rest, parser placed = .ok (value, rest) → rest <:+ placed) ∧
    ∀ fault, parser placed = .error (.data fault) →
      ∃ content, HoldsDate placed content ∧ Moment.read content = .error fault

def Dated (parser : Parser Value) : Prop :=
  ∀ placed, DatedFrom placed parser

section

variable {placed rest : List PlacedToken} {parser : Parser Value}

/-- A reader that only refuses the tokens stops with no fault of data. -/
theorem DatedFrom.of_refused {failure : ParseFailure} (ran : parser placed = .error failure)
    (refused : ∀ fault, failure ≠ .data fault) : DatedFrom placed parser := by
  refine ⟨fun value rest done => by simp [ran] at done, fun fault failed => ?_⟩
  rw [ran] at failed
  exact absurd (Except.error.inj failed) (refused fault)

/-- A reader that goes on as another one does from the last of the tokens. -/
theorem DatedFrom.of_later {later : Parser Value} (ran : parser placed = later rest)
    (left : rest <:+ placed) (dated : DatedFrom rest later) : DatedFrom placed parser := by
  obtain ⟨leaves, faults⟩ := dated
  refine ⟨fun value after done => ?_, fun fault failed => ?_⟩
  · rw [ran] at done
    exact (leaves value after done).trans left
  · rw [ran] at failed
    obtain ⟨content, ⟨written, start, place, among⟩, read⟩ := faults fault failed
    exact ⟨content, ⟨written, start, place, among.trans left.isInfix⟩, read⟩

end

namespace Dated

variable {parser : Parser Value}

theorem pure (value : Value) : Dated (Pure.pure value : Parser Value) := by
  refine fun placed => ⟨?_, ?_⟩
  · rintro _ rest ⟨⟩
    exact List.suffix_rfl
  · rintro fault ⟨⟩

theorem bind {later : Value → Parser Next} (first : Dated parser)
    (second : ∀ value, Dated (later value)) : Dated (parser >>= later) := by
  intro placed
  obtain ⟨leaves, faults⟩ := first placed
  cases step : parser placed with
  | error failure =>
      have ran : (parser >>= later) placed = .error failure := by
        simp only [Bind.bind, StateT.bind, step, Except.bind]
      refine ⟨fun value rest done => by simp [ran] at done, fun fault failed => ?_⟩
      rw [ran] at failed
      obtain rfl := Except.error.inj failed
      exact faults fault step
  | ok result =>
      obtain ⟨value, rest⟩ := result
      have ran : (parser >>= later) placed = later value rest := by
        simp only [Bind.bind, StateT.bind, step, Except.bind]
      exact .of_later ran (leaves value rest step) (second value rest)

theorem map {convert : Value → Next} (faults : Dated parser) :
    Dated (convert <$> parser) := by
  rw [map_eq_pure_bind]
  exact faults.bind fun value => pure (convert value)

theorem throw {failure : ParseFailure} (refused : ∀ fault, failure ≠ .data fault) :
    Dated (MonadExcept.throw failure : Parser Value) :=
  fun _ => .of_refused rfl refused

theorem get_bind {later : List PlacedToken → Parser Next}
    (second : ∀ placed, Dated (later placed)) : Dated (get >>= later) :=
  fun placed => second placed placed

theorem fail : Dated (Parser.fail : Parser Value) :=
  get_bind fun _ => throw (by simp)

theorem peek : Dated Parser.peek :=
  get_bind fun _ => pure _

theorem position : Dated Parser.position :=
  get_bind fun _ => pure _

theorem fuel : Dated Parser.fuel :=
  get_bind fun _ => pure _

theorem skip : Dated Parser.skip := by
  refine fun placed => ⟨?_, ?_⟩
  · rintro value rest ⟨⟩
    exact List.drop_suffix 1 placed
  · rintro fault ⟨⟩

theorem reject (cause : Rejection) (place : Nat) (follows : Token → Bool) :
    Dated (Parser.reject cause place follows : Parser Value) := by
  refine peek.bind fun found => ?_
  cases found with
  | none => exact throw (by simp)
  | some token =>
      dsimp only
      split
      · exact throw (by simp)
      · exact fail

/-! The next token, taken or left. -/

theorem takeIf (test : Token → Option Value) : Dated (Parser.takeIf test) := by
  refine peek.bind fun found => ?_
  split
  · exact skip.bind fun _ => pure _
  · exact pure _

theorem expect (test : Token → Option Value) : Dated (Parser.expect test) := by
  refine (takeIf test).bind fun found => ?_
  cases found with
  | none => exact fail
  | some value => exact pure value

theorem keyword? (word : Keyword) : Dated (Parser.keyword? word) :=
  (takeIf _).bind fun _ => pure _

theorem symbol? (sign : Symbol) : Dated (Parser.symbol? sign) :=
  (takeIf _).bind fun _ => pure _

theorem keyword (word : Keyword) : Dated (Parser.keyword word) :=
  expect _

theorem symbol (sign : Symbol) : Dated (Parser.symbol sign) :=
  expect _

/-! Lists and clauses. -/

theorem separated (faults : Dated parser) : Dated (Parser.separated parser) := by
  refine fuel.bind fun size => ?_
  induction size with
  | zero => exact fail
  | succ size inductionHypothesis =>
      rw [Parser.separatedOf]
      refine faults.bind fun first => (symbol? .comma).bind fun comma => ?_
      cases comma with
      | true => exact inductionHypothesis.bind fun later => pure _
      | false => exact pure _

theorem enclosed (faults : Dated parser) : Dated (Parser.enclosed parser) :=
  (symbol .openParen).bind fun _ => faults.bind fun _ => (symbol .closeParen).bind fun _ => pure _

theorem clause? (word : Keyword) (faults : Dated parser) :
    Dated (Parser.clause? word parser) := by
  refine (keyword? word).bind fun present => ?_
  cases present with
  | true => exact faults.bind fun body => pure _
  | false => exact pure _

theorem listBy {items : Parser (List Value)} (word : Keyword) (faults : Dated items) :
    Dated (Parser.listBy word items) :=
  (clause? word ((keyword .BY).bind fun _ => faults)).bind fun _ => pure _

theorem listAfter {items : Parser (List Value)} (word : Keyword) (faults : Dated items) :
    Dated (Parser.listAfter word items) :=
  (clause? word faults).bind fun _ => pure _

end Dated

/-! Expressions. -/

theorem dated_dateLiteral (content : String) (start : Nat)
    (counted : ∀ fault, Moment.read content ≠ .error fault) :
    Dated (dateLiteral content start) := by
  unfold dateLiteral
  split
  · exact Dated.pure _
  · exact Dated.reject _ _ _
  · next failed => exact absurd failed (counted _)

/-- What stops the reading of a date is that it is none, or the fault of its text. -/
theorem datedFrom_date {placed : List PlacedToken} {written : String}
    (head : placed.head?.map (·.token) = some (.keyword .DATE written)) :
    DatedFrom placed (do
      skip
      let start ← position
      dateLiteral (← expect isText) start) := by
  obtain ⟨⟨token, start⟩, later, rfl⟩ : ∃ first later, placed = first :: later :=
    List.exists_cons_of_ne_nil fun none => by simp [none] at head
  obtain rfl : token = .keyword .DATE written := by simpa using head
  cases later with
  | nil => exact .of_refused rfl (by simp)
  | cons second rest =>
      obtain ⟨token, place⟩ := second
      cases token with
      | text content =>
          let date : Parser Expr := do
            skip
            let start ← position
            dateLiteral (← expect isText) start
          -- The keyword and the text are taken; the rest is up to the text.
          have ran : date (⟨.keyword .DATE written, start⟩ :: ⟨.text content, place⟩ :: rest) =
              dateLiteral content place rest := rfl
          cases read : Moment.read content with
          | ok moment =>
              have dated := dated_dateLiteral content place (by simp [read]) rest
              exact .of_later ran (List.suffix_append [_, _] rest) dated
          | error cause =>
              have failed : dateLiteral content place rest = .error (.data cause) := by
                simp only [dateLiteral, read]
                rfl
              rw [failed] at ran
              refine ⟨fun value left done => by simp [date, ran] at done, fun fault stopped => ?_⟩
              obtain rfl : cause = fault := by simpa [ran] using ran.symm.trans stopped
              exact ⟨content,
                ⟨written, start, place, List.prefix_append [_, _] rest |>.isInfix⟩, read⟩
      | _ => exact .of_refused rfl (by simp)

theorem dated_columnAfter (name : String) : Dated (columnAfter name) := by
  refine (Dated.symbol? .dot).bind fun qualified => ?_
  cases qualified with
  | true => exact (Dated.expect _).bind fun _ => Dated.pure _
  | false => exact Dated.pure _

/-- What stops the readers of expressions, with some fuel. -/
structure ExprsDated (fuel : Nat) : Prop where
  exprOf : ∀ rank, Dated (exprOf fuel rank)
  operand : Dated (operand fuel)
  operatorsAfter : ∀ rank related left, Dated (operatorsAfter fuel rank related left)
  argumentsOf : Dated (argumentsOf fuel)
  exprsOf : Dated (exprsOf fuel)

theorem dated_operand {fuel : Nat} (before : ExprsDated fuel) :
    Dated (operand (fuel + 1)) := by
  intro placed
  -- Neither the position nor the next token takes anything.
  have ran (later : Nat → Option Token → Parser Expr) :
      DatedFrom placed (later (((placed.head?).map (·.position)).getD 0)
        (placed.head?.map (·.token))) →
      DatedFrom placed (do let start ← position; later start (← peek)) := id
  rw [operand]
  apply ran
  split
  · exact (Dated.skip.bind fun _ => before.operand.bind fun _ => Dated.pure _) placed
  · exact (Dated.skip.bind fun _ => (before.exprOf _).bind fun _ => Dated.pure _) placed
  · exact (Dated.skip.bind fun _ => (before.exprOf _).bind fun _ =>
      (Dated.symbol .closeParen).bind fun _ => Dated.pure _) placed
  · next name _ =>
      refine (Dated.skip.bind fun _ => (Dated.symbol? .openParen).bind fun isCall => ?_) placed
      cases isCall with
      | true =>
          refine before.argumentsOf.bind fun arguments =>
            (Dated.symbol .closeParen).bind fun _ => ?_
          cases call name arguments with
          | ok expr => exact Dated.pure _
          | error cause => exact Dated.reject _ _ _
      | false => exact (dated_columnAfter name).bind fun _ => Dated.pure _
  · exact (Dated.skip.bind fun _ => Dated.pure _) placed
  · exact (Dated.skip.bind fun _ => Dated.pure _) placed
  · exact (Dated.skip.bind fun _ => Dated.pure _) placed
  · exact (Dated.skip.bind fun _ => Dated.pure _) placed
  · exact (Dated.skip.bind fun _ => Dated.pure _) placed
  · exact (Dated.skip.bind fun _ => Dated.pure _) placed
  · next head => exact datedFrom_date head
  · exact Dated.fail placed

theorem dated_operatorsAfter {fuel : Nat} (before : ExprsDated fuel) (rank : Nat)
    (related : Bool) (left : Expr) :
    Dated (operatorsAfter (fuel + 1) rank related left) := by
  rw [operatorsAfter]
  refine Dated.peek.bind fun found => ?_
  split
  · exact Dated.pure _
  · next operator _ =>
      split
      · exact Dated.pure _
      · split
        · exact Dated.skip.bind fun _ => (before.exprOf _).bind fun _ => before.operatorsAfter _ _ _
        · exact Dated.skip.bind fun _ => (before.exprOf _).bind fun _ => before.operatorsAfter _ _ _
        · split
          · exact Dated.fail
          · exact Dated.skip.bind fun _ => (before.exprOf _).bind fun _ =>
              before.operatorsAfter _ _ _
        · split
          · exact Dated.fail
          · exact Dated.skip.bind fun _ => (Dated.keyword .WITH).bind fun _ =>
              (before.exprOf _).bind fun _ => before.operatorsAfter _ _ _
        · exact Dated.skip.bind fun _ => (Dated.keyword? .NOT).bind fun _ =>
            (Dated.keyword .NULL).bind fun _ => before.operatorsAfter _ _ _

theorem exprsDated (fuel : Nat) : ExprsDated fuel := by
  induction fuel with
  | zero => exact ⟨fun _ => Dated.fail, Dated.fail, fun _ _ _ => Dated.fail, Dated.fail, Dated.fail⟩
  | succ fuel before =>
      refine ⟨fun rank => ?_, dated_operand before,
        fun rank related left => dated_operatorsAfter before rank related left, ?_, ?_⟩
      · rw [exprOf]
        exact before.operand.bind fun left => before.operatorsAfter _ _ _
      · rw [argumentsOf]
        refine Dated.peek.bind fun found => ?_
        split
        · exact Dated.pure _
        · exact Dated.skip.bind fun _ => Dated.pure _
        · exact before.exprsOf.bind fun exprs => Dated.pure _
      · rw [exprsOf]
        refine (before.exprOf _).bind fun first => (Dated.symbol? .comma).bind fun comma => ?_
        cases comma with
        | true => exact before.exprsOf.bind fun later => Dated.pure _
        | false => exact Dated.pure _

theorem dated_expr : Dated Parser.expr :=
  Dated.fuel.bind fun fuel => (exprsDated fuel).exprOf _

theorem dated_exprs : Dated Parser.exprs :=
  Dated.fuel.bind fun fuel => (exprsDated fuel).exprsOf

/-! Clauses. -/

theorem dated_aliasName : Dated aliasName := by
  refine (Dated.keyword? .AS).bind fun named => ?_
  cases named with
  | true => exact (Dated.expect _).bind fun _ => Dated.pure _
  | false => exact Dated.takeIf _

theorem dated_tableRef : Dated Parser.tableRef :=
  (Dated.expect _).bind fun _ => dated_aliasName.bind fun _ => Dated.pure _

theorem dated_tableRef? : Dated Parser.tableRef? := by
  refine Dated.peek.bind fun found => ?_
  split
  · exact dated_tableRef.bind fun _ => Dated.pure _
  · exact Dated.pure _

theorem dated_fromClause : Dated fromClause :=
  Dated.clause? .FROM dated_tableRef

theorem dated_joinKind? : Dated joinKind? := by
  refine Dated.peek.bind fun found => ?_
  split
  · exact Dated.pure _
  · exact Dated.skip.bind fun _ => Dated.pure _
  · exact Dated.skip.bind fun _ => (Dated.keyword? .OUTER).bind fun _ => Dated.pure _
  · exact Dated.skip.bind fun _ => (Dated.keyword? .OUTER).bind fun _ => Dated.pure _
  · exact Dated.pure _

theorem dated_joinClause (kind : JoinKind) : Dated (joinClause kind) := by
  refine Dated.position.bind fun start => (Dated.keyword .JOIN).bind fun _ =>
    dated_tableRef.bind fun table => (Dated.keyword .ON).bind fun _ =>
      dated_expr.bind fun test => ?_
  split
  · exact Dated.pure _
  · exact Dated.reject _ _ _

theorem dated_joins : Dated Parser.joins := by
  refine Dated.fuel.bind fun size => ?_
  induction size with
  | zero => exact Dated.fail
  | succ size inductionHypothesis =>
      rw [joinsOf]
      refine dated_joinKind?.bind fun found => ?_
      cases found with
      | some kind =>
          exact (dated_joinClause kind).bind fun _ => inductionHypothesis.bind fun _ =>
            Dated.pure _
      | none => exact Dated.pure _

theorem dated_orderBy : Dated Parser.orderBy := by
  refine Dated.listBy .ORDER (Dated.separated ?_)
  refine dated_expr.bind fun key => (Dated.keyword? .DESC).bind fun descending => ?_
  cases descending with
  | true => exact Dated.pure _
  | false => exact (Dated.keyword? .ASC).bind fun _ => Dated.pure _

theorem dated_notes (word : Keyword) :
    Dated (listAfter word (separated Parser.annotation)) :=
  Dated.listAfter word (Dated.separated (dated_expr.bind fun _ =>
    (Dated.expect _).bind fun _ => Dated.pure _))

theorem dated_distinctClause : Dated distinctClause := by
  refine (Dated.keyword? .DISTINCT).bind fun distinct => ?_
  cases distinct with
  | true => exact (Dated.clause? .ON (Dated.enclosed dated_exprs)).bind fun _ => Dated.pure _
  | false => exact Dated.pure _

theorem dated_selectItem : Dated selectItem := by
  refine Dated.get_bind fun placed => ?_
  dsimp only
  split
  · exact Dated.skip.bind fun _ => Dated.skip.bind fun _ => Dated.skip.bind fun _ => Dated.pure _
  · exact dated_expr.bind fun _ => (Dated.clause? .AS (Dated.expect _)).bind fun _ => Dated.pure _

theorem dated_selectItems : Dated selectItems := by
  refine (Dated.symbol? .star).bind fun all => ?_
  cases all with
  | true => exact Dated.pure _
  | false => exact Dated.separated dated_selectItem

theorem dated_oneTarget (verb : String) (start : Nat) (targets : List (Option TableRef)) :
    Dated (oneTarget verb start targets) := by
  unfold oneTarget
  split
  · exact Dated.pure _
  · exact Dated.pure _
  · exact Dated.reject _ _ _

/-! Statements. -/

theorem dated_selectQuery (start : Nat) : Dated (selectQuery start) := by
  refine dated_distinctClause.bind fun _ => dated_selectItems.bind fun _ => ?_
  refine dated_fromClause.bind fun _ => dated_joins.bind fun _ => ?_
  refine (Dated.clause? .WHERE dated_expr).bind fun _ => ?_
  refine (Dated.listBy .GROUP dated_exprs).bind fun _ => ?_
  refine (Dated.listAfter .PIVOT dated_exprs).bind fun _ => ?_
  refine (Dated.clause? .HAVING dated_expr).bind fun _ => dated_orderBy.bind fun _ => ?_
  refine (Dated.clause? .LIMIT (Dated.expect _)).bind fun _ => ?_
  refine (Dated.clause? .OFFSET (Dated.expect _)).bind fun _ => ?_
  refine (dated_notes .LABEL).bind fun _ => (dated_notes .FORMAT).bind fun _ => ?_
  refine (Dated.listAfter .PIVOT dated_exprs).bind fun _ => ?_
  dsimp only
  split
  · exact (Dated.reject _ _ _).bind fun _ => Dated.pure _
  · exact Dated.pure _

theorem dated_insertQuery (start : Nat) : Dated (insertQuery start) := by
  -- What follows the column names, whether or not they are given.
  have later (target : Option TableRef) (columns : Option (List String)) : Dated (do
      Parser.keyword .VALUES
      let rows ← separated (Parser.enclosed Parser.exprs)
      let source ← fromClause
      return (⟨← oneTarget "INSERT" start [target, source], columns, rows⟩ : InsertQuery)) :=
    (Dated.keyword .VALUES).bind fun _ =>
      (Dated.separated (Dated.enclosed dated_exprs)).bind fun _ =>
        dated_fromClause.bind fun _ => (dated_oneTarget _ _ _).bind fun _ => Dated.pure _
  refine (Dated.keyword? .INTO).bind fun _ => dated_tableRef?.bind fun target => ?_
  refine Dated.peek.bind fun found => ?_
  dsimp only
  split
  · exact (Dated.map (Dated.enclosed (Dated.separated (Dated.expect _)))).bind fun columns =>
      later target columns
  · exact (Dated.pure _).bind fun columns => later target columns

theorem dated_updateQuery (start : Nat) : Dated (updateQuery start) := by
  have assignment : Dated Parser.assignment :=
    (Dated.expect _).bind fun _ => (dated_columnAfter _).bind fun _ =>
      (Dated.symbol .eq).bind fun _ => dated_expr.bind fun _ => Dated.pure _
  refine dated_tableRef?.bind fun _ => (Dated.keyword .SET).bind fun _ => ?_
  refine (Dated.separated assignment).bind fun _ => dated_fromClause.bind fun _ => ?_
  refine (Dated.clause? .WHERE dated_expr).bind fun _ => dated_fromClause.bind fun _ => ?_
  refine dated_orderBy.bind fun _ => (Dated.clause? .LIMIT (Dated.expect _)).bind fun _ => ?_
  exact (dated_oneTarget _ _ _).bind fun _ => Dated.pure _

theorem dated_deleteQuery (start : Nat) : Dated (deleteQuery start) := by
  refine dated_fromClause.bind fun _ => (Dated.clause? .WHERE dated_expr).bind fun _ => ?_
  refine dated_fromClause.bind fun _ => dated_orderBy.bind fun _ => ?_
  refine (Dated.clause? .LIMIT (Dated.expect _)).bind fun _ => ?_
  exact (dated_oneTarget _ _ _).bind fun _ => Dated.pure _

theorem dated_query : Dated Parser.query := by
  refine Dated.position.bind fun start => Dated.peek.bind fun found => ?_
  split
  · exact Dated.skip.bind fun _ => (dated_selectQuery start).bind fun _ => Dated.pure _
  · exact Dated.skip.bind fun _ => (dated_insertQuery start).bind fun _ => Dated.pure _
  · exact Dated.skip.bind fun _ => (dated_updateQuery start).bind fun _ => Dated.pure _
  · exact Dated.skip.bind fun _ => (dated_deleteQuery start).bind fun _ => Dated.pure _
  · exact Dated.fail

/-- A fault of data that stops the reading of a statement is the one of a date literal. -/
theorem dated_statement : Dated Parser.statement := by
  refine dated_query.bind fun found => ?_
  refine (Dated.symbol? .semicolon).bind fun _ => Dated.peek.bind fun next => ?_
  cases next with
  | none => exact Dated.pure _
  | some token => exact Dated.fail

/-! Texts. -/

/-- A date literal of the text has a number that is past what the calendar counts with. -/
def HoldsUncountedDate (text : String) : Prop :=
  ∃ content, HoldsDate (lex text.toList).tokens content ∧
    Moment.read content = .error .outOfRange

/-- Where the text is cut without a fault of data, tokens that are refused are no statement. -/
theorem errorOf_refused {text : List Char} {lexed : Lexed} {failure : ParseFailure}
    (cut : ∀ error ∈ lexed.fault, ∃ cause, error = .statement cause)
    (refused : ∀ fault, failure ≠ .data fault) :
    ∃ cause, errorOf text lexed failure = .statement cause := by
  unfold errorOf
  split
  · exact absurd rfl (refused _)
  · split
    · next fault found => exact cut fault found
    · split <;> exact ⟨_, rfl⟩
  · split <;> exact ⟨_, rfl⟩
  · split
    · next fault _ found _ => exact cut fault found
    · exact ⟨_, rfl⟩
    · next fault clause found _ =>
        split
        · exact cut fault found
        · exact ⟨_, rfl⟩
    · exact ⟨_, rfl⟩

theorem parse_error {text : String} {error : Error} (short : ShortRuns text.toList)
    (failed : Statement.parse text = .error error) :
    (∃ cause, error = .statement cause) ∨
      error = .data .outOfRange ∧ HoldsUncountedDate text := by
  obtain ⟨shortTokens, cut⟩ := shortRuns_lexFrom 0 0 short
  unfold Statement.parse at failed
  dsimp only at failed
  split at failed
  · next failure stopped =>
      obtain rfl := Except.error.inj failed
      by_cases refused : ∀ fault, failure ≠ .data fault
      · exact .inl (errorOf_refused cut refused)
      obtain ⟨fault, rfl⟩ : ∃ fault, failure = .data fault := by simpa using refused
      obtain ⟨content, holds, read⟩ := (dated_statement _).2 fault stopped
      obtain ⟨written, start, place, among⟩ := id holds
      have shortContent : ShortRuns content.toList :=
        shortTokens ⟨.text content, place⟩ (among.subset (by simp))
      obtain rfl := Moment.fault_of_read read shortContent
      exact .inr ⟨rfl, content, holds, read⟩
  · split at failed
    · next fault found =>
        obtain rfl := Except.error.inj failed
        exact .inl (cut fault found)
    · simp at failed

theorem read_error {text : String} {error : Error} (short : ShortRuns text.toList)
    (failed : Statement.read text = .error error) :
    (∃ cause, error = .statement cause) ∨
      error = .data .outOfRange ∧ HoldsUncountedDate text := by
  unfold Statement.read at failed
  dsimp only at failed
  split at failed
  · exact .inl ⟨_, (Except.error.inj failed).symm⟩
  · split at failed
    · exact .inl ⟨_, (Except.error.inj failed).symm⟩
    · split at failed
      · split at failed
        · exact parse_error short failed
        · exact .inl ⟨_, (Except.error.inj failed).symm⟩
      · exact .inl ⟨_, (Except.error.inj failed).symm⟩

/-- A text without runs of too many digits is read as a statement, or refused as none. Only
a date literal past what the calendar counts with stops the reading in another way. -/
theorem read_of_shortRuns {text : String} (short : ShortRuns text.toList) :
    (∃ statement, Statement.read text = .ok statement) ∨
      (∃ cause, Statement.read text = .error (.statement cause)) ∨
      Statement.read text = .error (.data .outOfRange) ∧ HoldsUncountedDate text := by
  cases read : Statement.read text with
  | ok statement => exact .inl ⟨statement, rfl⟩
  | error error =>
      refine .inr ?_
      rcases read_error short read with ⟨cause, rfl⟩ | ⟨rfl, holds⟩
      · exact .inl ⟨cause, rfl⟩
      · exact .inr ⟨rfl, holds⟩

/-- A day of the far future. -/
def farDate : String := "SELECT DATE \"Date(99999999999,0,1)\""

theorem farDate_short : ShortRuns farDate.toList :=
  shortRuns_of_length (by decide)

theorem read_farDate : ShortRuns farDate.toList ∧
    ((∃ statement, Statement.read farDate = .ok statement) ∨
      (∃ cause, Statement.read farDate = .error (.statement cause)) ∨
      Statement.read farDate = .error (.data .outOfRange) ∧ HoldsUncountedDate farDate) :=
  ⟨farDate_short, read_of_shortRuns farDate_short⟩

/-- The day of the far future is not refused as no date. -/
theorem farDate_not_refused : ShortRuns farDate.toList ∧
    ¬ ((∃ statement, Statement.read farDate = .ok statement) ∨
      ∃ cause, Statement.read farDate = .error (.statement cause)) := by
  have stopped : Statement.read farDate = .error (.data .outOfRange) := by decide +kernel
  exact ⟨farDate_short, by simp [stopped]⟩

end Statement

end GridQuery
