import GridQuery.Proofs.Statement.Grammatical
import GridQuery.Proofs.Statement.Yields
import GridQuery.Statement.Parser.Query

/-!
# What the grammar produces

Each statement that is read from the tokens of a text is grammatical, by induction on the
readings of its expressions and then clause by clause.
-/

namespace GridQuery

open Statement Statement.Parser

namespace Statement

theorem negated_grammatical {operand : Expr} (grammatical : operand.Grammatical) :
    (negated operand).Grammatical := by
  unfold negated
  split
  · next number =>
      cases number with
      | int value =>
          have limited : IsNumeral value.natAbs := grammatical
          show IsNumeral (-value).natAbs
          rwa [Int.natAbs_neg]
      | float value => trivial
  · next other => exact ⟨grammatical, other⟩

/-- The arguments of a call are grammatical. -/
def GrammaticalArguments : Arguments → Prop
  | .star => True
  | .exprs arguments => ∀ argument ∈ arguments, argument.Grammatical

/-- Each function but `today` takes its one argument over, or refuses the call. -/
theorem one_grammatical {arguments : Arguments} {expr : Expr}
    (grammatical : GrammaticalArguments arguments) (build : Expr → Expr) (shown : String)
    (keeps : ∀ argument, argument.Grammatical → (build argument).Grammatical)
    (made : (match arguments with
      | .star => .error (.starArgument shown)
      | .exprs [argument] => .ok (build argument)
      | .exprs _ => .error (.argumentCount shown 1) : Except Rejection Expr) = .ok expr) :
    expr.Grammatical := by
  split at made
  · simp at made
  · next argument =>
      obtain rfl := Except.ok.inj made
      exact keeps argument (grammatical argument List.mem_cons_self)
  · simp at made

theorem call_grammatical {name : String} {arguments : Arguments} {expr : Expr}
    (grammatical : GrammaticalArguments arguments) (called : call name arguments = .ok expr) :
    expr.Grammatical := by
  have one := @one_grammatical arguments expr grammatical
  unfold call at called
  dsimp only at called
  split at called
  · split at called
    · obtain rfl := Except.ok.inj called
      trivial
    · exact one (.aggregate .count) _ (fun _ holds => holds) called
  · exact one (.aggregate .sum) _ (fun _ holds => holds) called
  · exact one (.aggregate .avg) _ (fun _ holds => holds) called
  · exact one (.aggregate .min) _ (fun _ holds => holds) called
  · exact one (.aggregate .max) _ (fun _ holds => holds) called
  · exact one (.changeCase .lower) _ (fun _ holds => holds) called
  · exact one (.changeCase .upper) _ (fun _ holds => holds) called
  · split at called
    · simp at called
    · obtain rfl := Except.ok.inj called
      trivial
    · simp at called
  · simp at called

theorem yields_dateLiteral (content : String) (start : Nat) :
    Yields (dateLiteral content start) Expr.Grammatical := by
  unfold dateLiteral
  split
  · next moment read => exact Yields.pure (Moment.microsecond_of_read read)
  · exact Yields.reject _ _ _ _
  · exact Yields.throw _ _

theorem yields_columnAfter {name : String} (named : IsName name) :
    Yields (columnAfter name) ColumnRef.Grammatical := by
  refine (Yields.symbol? .dot).bind fun qualified _ => ?_
  cases qualified with
  | true =>
      exact Yields.identifier.bind fun column inColumn =>
        Yields.pure ⟨by simpa using named, inColumn⟩
  | false => exact Yields.pure ⟨by simp, named⟩

/-- What the readers of expressions return with some fuel. -/
structure ExprsYield (fuel : Nat) : Prop where
  exprOf : ∀ rank, Yields (exprOf fuel rank) Expr.Grammatical
  operand : Yields (operand fuel) Expr.Grammatical
  operatorsAfter : ∀ rank related left, left.Grammatical →
    Yields (operatorsAfter fuel rank related left) Expr.Grammatical
  argumentsOf : Yields (argumentsOf fuel) GrammaticalArguments
  exprsOf : Yields (exprsOf fuel) (SomeEach Expr.Grammatical)

theorem yields_operand {fuel : Nat} (before : ExprsYield fuel) :
    Yields (operand (fuel + 1)) Expr.Grammatical := by
  rw [operand]
  refine Yields.position.bind fun start _ => Yields.peek.bind fun found sound => ?_
  split
  · exact Yields.skip.bind fun _ _ => before.operand.bind fun operand inOperand =>
      Yields.pure (negated_grammatical inOperand)
  · exact Yields.skip.bind fun _ _ => (before.exprOf _).bind fun inner inInner =>
      Yields.pure inInner
  · exact Yields.skip.bind fun _ _ => (before.exprOf _).bind fun inner inInner =>
      (Yields.symbol .closeParen).bind fun _ _ => Yields.pure inInner
  · next name =>
      refine Yields.skip.bind fun _ _ => (Yields.symbol? .openParen).bind fun isCall _ => ?_
      cases isCall with
      | true =>
          refine before.argumentsOf.bind fun arguments inArguments =>
            (Yields.symbol .closeParen).bind fun _ _ => ?_
          cases called : call name arguments with
          | ok expr => exact Yields.pure (call_grammatical inArguments called)
          | error cause => exact Yields.reject _ _ _ _
      | false =>
          exact (yields_columnAfter (sound _ rfl)).bind fun column inColumn =>
            Yields.pure inColumn
  · next value =>
      have limited : IsNumeral value := sound _ rfl
      exact Yields.skip.bind fun _ _ => Yields.pure limited
  · exact Yields.skip.bind fun _ _ => Yields.pure trivial
  · exact Yields.skip.bind fun _ _ => Yields.pure trivial
  · exact Yields.skip.bind fun _ _ => Yields.pure trivial
  · exact Yields.skip.bind fun _ _ => Yields.pure trivial
  · exact Yields.skip.bind fun _ _ => Yields.pure trivial
  · exact Yields.skip.bind fun _ _ => Yields.position.bind fun start _ =>
      Yields.text.bind fun content _ => yields_dateLiteral content start
  · exact Yields.fail _

theorem yields_operatorsAfter {fuel : Nat} (before : ExprsYield fuel) (rank : Nat)
    (related : Bool) {left : Expr} (inLeft : left.Grammatical) :
    Yields (operatorsAfter (fuel + 1) rank related left) Expr.Grammatical := by
  rw [operatorsAfter]
  refine Yields.peek.bind fun found _ => ?_
  split
  · exact Yields.pure inLeft
  · next operator _ =>
      split
      · exact Yields.pure inLeft
      · split
        · exact Yields.skip.bind fun _ _ => (before.exprOf _).bind fun right inRight =>
            before.operatorsAfter _ _ _ ⟨inLeft, inRight⟩
        · exact Yields.skip.bind fun _ _ => (before.exprOf _).bind fun right inRight =>
            before.operatorsAfter _ _ _ ⟨inLeft, inRight⟩
        · split
          · exact Yields.fail _
          · exact Yields.skip.bind fun _ _ => (before.exprOf _).bind fun right inRight =>
              before.operatorsAfter _ _ _ ⟨inLeft, inRight⟩
        · split
          · exact Yields.fail _
          · exact Yields.skip.bind fun _ _ => (Yields.keyword .WITH).bind fun _ _ =>
              (before.exprOf _).bind fun right inRight =>
                before.operatorsAfter _ _ _ ⟨inLeft, inRight⟩
        · exact Yields.skip.bind fun _ _ => (Yields.keyword? .NOT).bind fun negated _ =>
            (Yields.keyword .NULL).bind fun _ _ => before.operatorsAfter _ _ _ inLeft

theorem exprsYield (fuel : Nat) : ExprsYield fuel := by
  induction fuel with
  | zero => exact ⟨fun _ => .fail _, .fail _, fun _ _ _ _ => .fail _, .fail _, .fail _⟩
  | succ fuel before =>
      refine ⟨fun rank => ?_, yields_operand before,
        fun rank related left inLeft => yields_operatorsAfter before rank related inLeft, ?_, ?_⟩
      · rw [exprOf]
        exact before.operand.bind fun left inLeft => before.operatorsAfter _ _ _ inLeft
      · rw [argumentsOf]
        refine Yields.peek.bind fun found _ => ?_
        split
        · exact Yields.pure (by simp [GrammaticalArguments])
        · exact Yields.skip.bind fun _ _ => Yields.pure trivial
        · exact before.exprsOf.bind fun exprs each => Yields.pure each.2
      · rw [exprsOf]
        refine (before.exprOf _).bind fun first inFirst =>
          (Yields.symbol? .comma).bind fun comma _ => ?_
        cases comma with
        | true =>
            exact before.exprsOf.bind fun later inLater =>
              Yields.pure (someEach_cons inFirst inLater.2)
        | false => exact Yields.pure (someEach_cons inFirst (by simp))

theorem yields_expr : Yields Parser.expr Expr.Grammatical :=
  Yields.fuel.bind fun fuel _ => (exprsYield fuel).exprOf _

theorem yields_exprs : Yields Parser.exprs (SomeEach Expr.Grammatical) :=
  Yields.fuel.bind fun fuel _ => (exprsYield fuel).exprsOf

/-! Clauses. -/

theorem yields_aliasName : Yields aliasName (fun found => ∀ name ∈ found, IsName name) := by
  refine (Yields.keyword? .AS).bind fun named _ => ?_
  cases named with
  | true => exact Yields.identifier.bind fun name inName => Yields.pure (by simpa using inName)
  | false =>
      refine Yields.takeIf fun token name sound taken => ?_
      cases token <;> simp_all [isIdentifier, Token.Sound]

theorem yields_tableRef : Yields Parser.tableRef TableRef.Grammatical := by
  have first : Yields (expect tableName)
      (fun found => found.2 = true → IsTableName found.1) := by
    refine Yields.expect fun token found sound taken => ?_
    cases token <;> simp_all [tableName, Token.Sound]
    all_goals subst taken; simp_all
  exact first.bind fun found inName => yields_aliasName.bind fun aliasName inAlias =>
    Yields.pure ⟨inName, inAlias⟩

theorem yields_tableRef? :
    Yields Parser.tableRef? (fun found => ∀ table ∈ found, table.Grammatical) := by
  refine Yields.peek.bind fun found _ => ?_
  split
  · exact yields_tableRef.bind fun table inTable => Yields.pure (by simpa using inTable)
  · exact Yields.pure (by simp)

theorem yields_fromClause :
    Yields fromClause (fun found => ∀ table ∈ found, table.Grammatical) :=
  Yields.clause? .FROM yields_tableRef

theorem yields_joinKind? : Yields joinKind? Anything := by
  refine Yields.peek.bind fun found _ => ?_
  split
  · exact Yields.pure trivial
  · exact Yields.skip.bind fun _ _ => Yields.pure trivial
  · exact Yields.skip.bind fun _ _ => (Yields.keyword? .OUTER).bind fun _ _ =>
      Yields.pure trivial
  · exact Yields.skip.bind fun _ _ => (Yields.keyword? .OUTER).bind fun _ _ =>
      Yields.pure trivial
  · exact Yields.pure trivial

theorem yields_joinClause (kind : JoinKind) :
    Yields (joinClause kind) JoinClause.Grammatical := by
  refine Yields.position.bind fun start _ => (Yields.keyword .JOIN).bind fun _ _ =>
    yields_tableRef.bind fun table inTable => (Yields.keyword .ON).bind fun _ _ =>
      yields_expr.bind fun condition inCondition => ?_
  split
  · exact Yields.pure ⟨inTable, inCondition.1, inCondition.2⟩
  · exact Yields.reject _ _ _ _

theorem yields_joinsOf (fuel : Nat) :
    Yields (joinsOf fuel) (fun found => ∀ join ∈ found, join.Grammatical) := by
  induction fuel with
  | zero => exact Yields.fail _
  | succ fuel inductionHypothesis =>
      rw [joinsOf]
      refine yields_joinKind?.bind fun found _ => ?_
      cases found with
      | some kind =>
          exact (yields_joinClause kind).bind fun first inFirst =>
            inductionHypothesis.bind fun later inLater =>
              Yields.pure (by simpa using ⟨inFirst, inLater⟩)
      | none => exact Yields.pure (by simp)

theorem yields_joins : Yields Parser.joins (fun found => ∀ join ∈ found, join.Grammatical) :=
  Yields.fuel.bind fun fuel _ => yields_joinsOf fuel

theorem yields_filter (word : Keyword) : Yields (clause? word Parser.expr)
    (fun found => ∀ test ∈ found, test.Grammatical) :=
  Yields.clause? word yields_expr

theorem yields_orderKey : Yields orderKey OrderKey.Grammatical := by
  refine yields_expr.bind fun key inKey => (Yields.keyword? .DESC).bind fun descending _ => ?_
  cases descending with
  | true => exact Yields.pure inKey
  | false => exact (Yields.keyword? .ASC).bind fun _ _ => Yields.pure inKey

theorem yields_orderBy :
    Yields Parser.orderBy (fun found => ∀ key ∈ found, key.Grammatical) :=
  Yields.listBy .ORDER (Yields.separated yields_orderKey)

theorem yields_size (word : Keyword) : Yields (clause? word (expect isInteger))
    (fun found => ∀ size ∈ found, IsNumeral size) :=
  Yields.clause? word Yields.integer

theorem yields_notes (word : Keyword) :
    Yields (listAfter word (separated Parser.annotation))
      (fun found => ∀ note ∈ found, note.1.Grammatical) :=
  Yields.listAfter word (Yields.separated (yields_expr.bind fun _ inSubject =>
    Yields.text.bind fun _ _ => Yields.pure inSubject))

theorem yields_distinctClause : Yields distinctClause
    (fun found => (found.2 ≠ [] → found.1 = true) ∧ ∀ key ∈ found.2, key.Grammatical) := by
  refine (Yields.keyword? .DISTINCT).bind fun distinct _ => ?_
  cases distinct with
  | true =>
      exact (Yields.clause? .ON (Yields.enclosed yields_exprs)).bind fun found each =>
        Yields.pure ⟨fun _ => rfl, Yields.getD_each each⟩
  | false => exact Yields.pure (by simp)

theorem yields_selectItem :
    Yields selectItem (fun item => item.Grammatical ∧ item ≠ .star none) := by
  refine Yields.get_bind fun placed sound => ?_
  dsimp only
  split
  · next name later shape =>
      have named : IsName name := by
        cases placed with
        | nil => simp at shape
        | cons first rest =>
            have same : first.token = .identifier name := (List.cons.inj shape).1
            have inFirst := sound first List.mem_cons_self
            rw [same] at inFirst
            exact inFirst
      exact Yields.skip.bind fun _ _ => Yields.skip.bind fun _ _ => Yields.skip.bind fun _ _ =>
        Yields.pure ⟨by simpa [SelectItem.Grammatical] using named, by simp⟩
  · exact yields_expr.bind fun item inItem =>
      (Yields.clause? .AS (Yields.expect fun _ _ _ _ => (trivial : Anything ""))).bind
        fun _ _ => Yields.pure ⟨inItem, by simp⟩

theorem yields_selectItems : Yields selectItems GrammaticalItems := by
  refine (Yields.symbol? .star).bind fun all _ => ?_
  cases all with
  | true => exact Yields.pure (.inl rfl)
  | false => exact (Yields.separated yields_selectItem).mono fun _ each => .inr each

theorem yields_oneTarget (verb : String) (start : Nat) {targets : List (Option TableRef)}
    (each : ∀ found ∈ targets, ∀ table ∈ found, table.Grammatical) :
    Yields (oneTarget verb start targets)
      (fun found => ∀ table ∈ found, table.Grammatical) := by
  unfold oneTarget
  split
  · exact Yields.pure (by simp)
  · next target shape =>
      have membership : target ∈ targets.filterMap id := by
        rw [shape]
        exact List.mem_singleton_self target
      obtain ⟨found, inTargets, same⟩ := List.mem_filterMap.mp membership
      have inTarget := each found inTargets target same
      exact Yields.pure (by simpa using inTarget)
  · exact Yields.reject _ _ _ _

/-! Statements. -/

theorem yields_selectQuery (start : Nat) :
    Yields (selectQuery start) SelectQuery.Grammatical := by
  refine yields_distinctClause.bind fun opening inOpening => ?_
  refine yields_selectItems.bind fun items inItems => ?_
  refine yields_fromClause.bind fun source inSource => ?_
  refine yields_joins.bind fun joins inJoins => ?_
  refine (yields_filter .WHERE).bind fun filter inFilter => ?_
  refine (Yields.listBy .GROUP yields_exprs).bind fun groupBy inGroupBy => ?_
  refine (Yields.listAfter .PIVOT yields_exprs).bind fun early inEarly => ?_
  refine (yields_filter .HAVING).bind fun having inHaving => ?_
  refine yields_orderBy.bind fun orderBy inOrderBy => ?_
  refine (yields_size .LIMIT).bind fun limit inLimit => ?_
  refine (yields_size .OFFSET).bind fun offset inOffset => ?_
  refine (yields_notes .LABEL).bind fun labels inLabels => ?_
  refine (yields_notes .FORMAT).bind fun formats inFormats => ?_
  refine (Yields.listAfter .PIVOT yields_exprs).bind fun late inLate => ?_
  have counted : IsNumeral (offset.getD 0) := by
    cases offset with
    | none => exact (by decide : digitCount 0 ≤ Numeral.digitLimit)
    | some size => exact inOffset size rfl
  have pivot : ∀ key ∈ early ++ late, key.Grammatical :=
    List.forall_mem_append.mpr ⟨inEarly, inLate⟩
  dsimp only
  split
  · exact (Yields.reject _ _ _ Anything).bind fun _ _ => Yields.pure
      ⟨inOpening.1, inOpening.2, inItems, inSource, inJoins, inFilter, inGroupBy, pivot,
        inHaving, inOrderBy, inLimit, counted, inLabels, inFormats⟩
  · exact Yields.pure
      ⟨inOpening.1, inOpening.2, inItems, inSource, inJoins, inFilter, inGroupBy, pivot,
        inHaving, inOrderBy, inLimit, counted, inLabels, inFormats⟩

theorem yields_columnNames : Yields (Parser.enclosed (separated (expect isIdentifier)))
    (SomeEach IsName) :=
  Yields.enclosed (Yields.separated Yields.identifier)

theorem yields_insertQuery (start : Nat) :
    Yields (insertQuery start) InsertQuery.Grammatical := by
  refine (Yields.keyword? .INTO).bind fun _ _ => ?_
  refine yields_tableRef?.bind fun target inTarget => ?_
  -- What follows the column names, whether or not they are given.
  have later (columns : Option (List String))
      (inColumns : ∀ names ∈ columns, SomeEach IsName names) :
      Yields (do
        Parser.keyword .VALUES
        let rows ← separated (Parser.enclosed Parser.exprs)
        let source ← fromClause
        return (⟨← oneTarget "INSERT" start [target, source], columns, rows⟩ : InsertQuery))
        InsertQuery.Grammatical := by
    refine (Yields.keyword .VALUES).bind fun _ _ =>
      (Yields.separated (Yields.enclosed yields_exprs)).bind fun rows inRows =>
        yields_fromClause.bind fun source inSource => ?_
    refine (yields_oneTarget "INSERT" start ?_).bind fun found inFound =>
      Yields.pure ⟨inFound, inColumns, inRows⟩
    simpa using ⟨inTarget, inSource⟩
  refine Yields.peek.bind fun found _ => ?_
  dsimp only
  split
  · exact (Yields.map yields_columnNames fun names inNames => by simpa using inNames).bind
      fun columns inColumns => later columns inColumns
  · exact (Yields.pure (by simp)).bind fun columns inColumns => later columns inColumns

theorem yields_assignment : Yields Parser.assignment Assignment.Grammatical :=
  Yields.identifier.bind fun _ inName => (yields_columnAfter inName).bind fun _ inColumn =>
    (Yields.symbol .eq).bind fun _ _ => yields_expr.bind fun _ inValue =>
      Yields.pure ⟨inColumn, inValue⟩

theorem yields_updateQuery (start : Nat) :
    Yields (updateQuery start) UpdateQuery.Grammatical := by
  refine yields_tableRef?.bind fun target inTarget => (Yields.keyword .SET).bind fun _ _ => ?_
  refine (Yields.separated yields_assignment).bind fun assignments inAssignments => ?_
  refine yields_fromClause.bind fun early inEarly => ?_
  refine (yields_filter .WHERE).bind fun filter inFilter => ?_
  refine yields_fromClause.bind fun late inLate => ?_
  refine yields_orderBy.bind fun orderBy inOrderBy => ?_
  refine (yields_size .LIMIT).bind fun limit inLimit => ?_
  refine (yields_oneTarget "UPDATE" start ?_).bind fun found inFound =>
    Yields.pure ⟨inFound, inAssignments, inFilter, inOrderBy, inLimit⟩
  simpa using ⟨inTarget, inEarly, inLate⟩

theorem yields_deleteQuery (start : Nat) :
    Yields (deleteQuery start) DeleteQuery.Grammatical := by
  refine yields_fromClause.bind fun early inEarly => ?_
  refine (yields_filter .WHERE).bind fun filter inFilter => ?_
  refine yields_fromClause.bind fun late inLate => ?_
  refine yields_orderBy.bind fun orderBy inOrderBy => ?_
  refine (yields_size .LIMIT).bind fun limit inLimit => ?_
  refine (yields_oneTarget "DELETE" start ?_).bind fun found inFound =>
    Yields.pure ⟨inFound, inFilter, inOrderBy, inLimit⟩
  simpa using ⟨inEarly, inLate⟩

theorem yields_query : Yields Parser.query Statement.Grammatical := by
  refine Yields.position.bind fun start _ => Yields.peek.bind fun found _ => ?_
  split
  · exact Yields.skip.bind fun _ _ => (yields_selectQuery start).bind fun _ inQuery =>
      Yields.pure inQuery
  · exact Yields.skip.bind fun _ _ => (yields_insertQuery start).bind fun _ inQuery =>
      Yields.pure inQuery
  · exact Yields.skip.bind fun _ _ => (yields_updateQuery start).bind fun _ inQuery =>
      Yields.pure inQuery
  · exact Yields.skip.bind fun _ _ => (yields_deleteQuery start).bind fun _ inQuery =>
      Yields.pure inQuery
  · exact Yields.fail _

theorem yields_statement : Yields Parser.statement Statement.Grammatical := by
  refine yields_query.bind fun found inFound => (Yields.symbol? .semicolon).bind fun _ _ =>
    Yields.peek.bind fun next _ => ?_
  cases next with
  | none => exact Yields.pure inFound
  | some token => exact Yields.fail _

end Statement

end GridQuery
