import GridQuery.Proofs.Statement.ReadClause

/-!
# Printed statements are read back

Every clause of a grammatical statement is read from the tokens of its words, and so is the
statement, clause by clause in the order of the grammar.
-/

namespace GridQuery.Statement

open GridQuery.Statement.Parser

variable {rest : List Token}

/-! Phrases. -/

theorem ReadsAs.reads {before : List Token} {expr : Expr} (reads : ReadsAs before expr)
    (ends : Ends rest) : Reads Parser.expr (before ++ rest) expr rest := by
  refine (Reads.fuel _).bind (reads _ rest ?_ ends)
  simp only [List.length_append]
  omega

theorem reads_expr {expr : Expr} (grammatical : expr.Grammatical) (ends : Ends rest) :
    Reads Parser.expr (tokens expr.words ++ rest) expr rest :=
  ReadsAs.reads (readsBack grammatical) ends

theorem reads_parts {parts : List (List Token)} {exprs : List Expr}
    (each : List.Forall₂ ReadsAs parts exprs) (nonempty : exprs ≠ []) (ends : Ends rest)
    (other : rest.head?.bind (isSymbol .comma) = none) :
    Reads Parser.exprs (commaTokens parts ++ rest) exprs rest := by
  refine (Reads.fuel _).bind (reads_exprsOf each nonempty ends other ?_)
  simp only [List.length_append]
  omega

theorem reads_exprs {exprs : List Expr} (nonempty : exprs ≠ [])
    (grammatical : ∀ expr ∈ exprs, expr.Grammatical) (ends : Ends rest)
    (other : rest.head?.bind (isSymbol .comma) = none) :
    Reads Parser.exprs (tokens (listed Expr.words exprs) ++ rest) exprs rest := by
  rw [tokens_listed]
  refine reads_parts ?_ nonempty ends other
  rw [List.forall₂_map_left_iff, List.forall₂_same]
  exact fun expr membership => readsBack (grammatical expr membership)

/-- Expressions in parentheses. -/
theorem reads_row {exprs : List Expr} (nonempty : exprs ≠ [])
    (grammatical : ∀ expr ∈ exprs, expr.Grammatical) (rest : List Token) :
    Reads (Parser.enclosed Parser.exprs)
      (tokens (enclosed (listed Expr.words exprs)) ++ rest) exprs rest :=
  reads_enclosed (reads_exprs nonempty grammatical (by simp; rfl) rfl)

theorem reads_tableRef (table : TableRef) (noAlias : rest.head?.bind (isKeyword .AS) = none)
    (noName : rest.head?.bind isIdentifier = none) :
    Reads Parser.tableRef (tokens table.words ++ rest) table rest := by
  have named : Reads aliasName
      (tokens (clause [.AS] (fun name => [.name name]) table.aliasName) ++ rest)
      table.aliasName rest := by
    cases table.aliasName with
    | none => exact (Reads.keyword?_false noAlias).bind (Reads.takeIf_none noName)
    | some name =>
        exact (Reads.keyword?_true .AS _ _).bind
          ((Reads.identifier name rest).bind (Reads.pure _ rest))
  rcases table with ⟨name, isVirtual, aliasName⟩
  cases isVirtual with
  | true =>
      have first : tableName (.tableRef name) = some (name, true) := rfl
      exact (Reads.expect first).bind (named.bind (Reads.pure _ rest))
  | false =>
      have first : tableName (.text name) = some (name, false) := rfl
      exact (Reads.expect first).bind (named.bind (Reads.pure _ rest))

/-- A table, if one is given, before what is none. -/
theorem reads_tableRef? (table : Option TableRef)
    (noAlias : rest.head?.bind (isKeyword .AS) = none)
    (noName : rest.head?.bind isIdentifier = none)
    (noTable : rest.head?.bind tableName = none) :
    Reads Parser.tableRef? (tokens (clause [] TableRef.words table) ++ rest) table rest := by
  cases table with
  | none =>
      refine (Reads.peek _).bind ?_
      simp only [clause, tokens_nil, List.nil_append, noTable]
      exact Reads.pure none rest
  | some table =>
      have reads := reads_tableRef table noAlias noName
      refine (Reads.peek _).bind ?_
      simp only [clause, List.map_nil, List.nil_append]
      split
      · exact reads.bind (Reads.pure _ rest)
      · next absent =>
          rcases table with ⟨name, isVirtual, aliasName⟩
          cases isVirtual <;> simp [TableRef.words, Word.tokens, tableName] at absent

theorem reads_fromClause {table : Option TableRef} {words : List Keyword}
    (opens : OpensWith words rest) (noFrom : .FROM ∉ words) (noAlias : .AS ∉ words) :
    Reads fromClause (tokens (clause [.FROM] TableRef.words table) ++ rest) table rest :=
  reads_clause? (opens.keyword noFrom) fun table _ =>
    reads_tableRef table (opens.keyword noAlias) opens.identifier

/-- No `FROM` comes next. -/
theorem reads_fromClause_none {words : List Keyword} (opens : OpensWith words rest)
    (noFrom : .FROM ∉ words) : Reads fromClause rest none rest :=
  reads_clause?_none tableRef (opens.keyword noFrom)

theorem reads_limit {size : Option Nat} {words : List Keyword} (opens : OpensWith words rest)
    (word : Keyword) (other : word ∉ words) :
    Reads (clause? word (expect isInteger))
      (tokens (clause [word] (fun size => [.count size]) size) ++ rest) size rest :=
  reads_clause? (opens.keyword other) fun size _ => by simpa using Reads.integer size rest

theorem reads_filter {filter : Option Expr} {words : List Keyword}
    (grammatical : ∀ test ∈ filter, test.Grammatical) (opens : OpensWith words rest)
    (ended : ∀ word ∈ words, endsExpr (.keyword word "") = true) (word : Keyword)
    (other : word ∉ words) :
    Reads (clause? word Parser.expr) (tokens (clause [word] Expr.words filter) ++ rest) filter
      rest :=
  reads_clause? (opens.keyword other) fun test membership =>
    reads_expr (grammatical test membership) (opens.ends ended)

theorem reads_keys {keys : List Expr} {words : List Keyword}
    (grammatical : ∀ key ∈ keys, key.Grammatical) (opens : OpensWith words rest)
    (ended : ∀ word ∈ words, endsExpr (.keyword word "") = true) (nonempty : keys ≠ []) :
    Reads Parser.exprs (tokens (listed Expr.words keys) ++ rest) keys rest :=
  reads_exprs nonempty grammatical (opens.ends ended) (opens.symbol .comma)

theorem reads_orderKey {key : OrderKey} (grammatical : key.Grammatical) (ends : Ends rest)
    (noDescending : rest.head?.bind (isKeyword .DESC) = none)
    (noAscending : rest.head?.bind (isKeyword .ASC) = none) :
    Reads orderKey (tokens key.words ++ rest) key rest := by
  rcases key with ⟨expr, descending⟩
  rw [OrderKey.words, tokens_append, List.append_assoc]
  cases descending with
  | true =>
      refine (reads_expr grammatical (by simp; rfl)).bind ?_
      exact (Reads.keyword?_true .DESC _ _).bind (Reads.pure _ rest)
  | false =>
      refine (reads_expr grammatical ends).bind ?_
      exact (Reads.keyword?_false noDescending).bind
        ((Reads.keyword?_false noAscending).bind (Reads.pure _ rest))

theorem reads_orderBy {keys : List OrderKey} {words : List Keyword}
    (grammatical : ∀ key ∈ keys, key.Grammatical) (opens : OpensWith words rest)
    (ended : ∀ word ∈ words, endsExpr (.keyword word "") = true)
    (other : ∀ word ∈ [Keyword.ORDER, .ASC, .DESC], word ∉ words) :
    Reads Parser.orderBy (tokens (listClause [.ORDER, .BY] OrderKey.words keys) ++ rest) keys
      rest := by
  refine reads_listBy (opens.keyword (other .ORDER (by decide))) fun nonempty => ?_
  refine reads_separated nonempty (opens.symbol .comma) ?_ ?_
  · intro key membership _
    exact reads_orderKey (grammatical key membership) (by simp; rfl) rfl rfl
  · intro key membership
    exact reads_orderKey (grammatical key membership) (opens.ends ended)
      (opens.keyword (other .DESC (by decide))) (opens.keyword (other .ASC (by decide)))

theorem reads_note {note : Expr × String} (grammatical : note.1.Grammatical)
    (rest : List Token) :
    Reads Parser.annotation (tokens (annotationWords note) ++ rest) note rest := by
  rw [annotationWords, tokens_append, List.append_assoc]
  exact (reads_expr grammatical (by simp; rfl)).bind
    ((Reads.text note.2 rest).bind (Reads.pure note rest))

theorem reads_notes {notes : List (Expr × String)} {words : List Keyword}
    (grammatical : ∀ note ∈ notes, note.1.Grammatical) (opens : OpensWith words rest)
    (word : Keyword) (other : word ∉ words) :
    Reads (listAfter word (separated Parser.annotation))
      (tokens (listClause [word] annotationWords notes) ++ rest) notes rest :=
  reads_listAfter (opens.keyword other) fun nonempty =>
    reads_separated nonempty (opens.symbol .comma)
      (fun note membership _ => reads_note (grammatical note membership) _)
      (fun note membership => reads_note (grammatical note membership) rest)

/-! The items of a query. -/

theorem ne_qualifiedStar (expr : Expr) (ends : Ends rest) (name : String) (later : List Token) :
    tokens expr.words ++ rest ≠
      .identifier name :: .symbol .dot :: .symbol .star :: later := by
  cases expr with
  | literal value =>
      cases value with
      | number number =>
          cases number with
          | int value =>
              by_cases negative : value < 0 <;>
                simp [Expr.words, Cell.words, Word.tokens, negative]
          | float value => simp [Expr.words, Cell.words, Word.tokens]
      | _ => simp [Expr.words, Cell.words]
  | column reference =>
      rcases reference with ⟨_ | qualifier, reference⟩
      · rintro ⟨rfl⟩
        simp [endsExpr] at ends
      · simp [Expr.words, ColumnRef.words]
  | _ => simp [Expr.words]

theorem reads_itemName (name : String) (rest : List Token) :
    Reads (expect itemName) (tokens [itemNameWord name] ++ rest) name rest := by
  unfold itemNameWord
  split
  · exact Reads.expect rfl
  · exact Reads.expect rfl

/-- An item that is an expression, with its name or without one. -/
theorem reads_exprItem {before middle : List Token} {item : Expr} {aliasName : Option String}
    (reads : Reads Parser.expr before item middle)
    (unlike : ∀ name later,
      before ≠ .identifier name :: .symbol .dot :: .symbol .star :: later)
    (named : Reads (clause? .AS (expect itemName)) middle aliasName rest) :
    Reads selectItem before (.expr item aliasName) rest := by
  refine Reads.get_bind fun placed shape => ?_
  simp only [shape]
  exact reads.bind (named.bind (Reads.pure _ rest))

theorem reads_selectItem {item : SelectItem} (grammatical : item.Grammatical)
    (plain : item ≠ .star none) (ends : Ends rest)
    (noAlias : rest.head?.bind (isKeyword .AS) = none) :
    Reads selectItem (tokens item.words ++ rest) item rest := by
  cases item with
  | star qualifier =>
      cases qualifier with
      | none => exact absurd rfl plain
      | some name =>
          refine Reads.get_bind fun placed shape => ?_
          simp only [shape]
          exact (Reads.skip _ _).bind ((Reads.skip _ _).bind
            ((Reads.skip _ _).bind (Reads.pure _ rest)))
  | expr item aliasName =>
      rw [SelectItem.words, tokens_append, List.append_assoc]
      have named : Reads (clause? .AS (expect itemName))
          (tokens (clause [.AS] (fun name => [itemNameWord name]) aliasName) ++ rest)
          aliasName rest :=
        reads_clause? noAlias fun name _ => reads_itemName name rest
      have endsItem : Ends
          (tokens (clause [.AS] (fun name => [itemNameWord name]) aliasName) ++ rest) := by
        cases aliasName with
        | none => exact ends
        | some name => simp [clause, endsExpr, operator?]
      exact reads_exprItem (reads_expr grammatical endsItem) (ne_qualifiedStar item endsItem) named

/-- Whether a token can begin the items of a query. -/
def startsItem (token : Token) : Bool :=
  token == .symbol .star || startsExpr token

theorem exists_itemStart (item : SelectItem) :
    ∃ token later, tokens item.words = token :: later ∧ startsItem token = true := by
  rcases item with (_ | qualifier) | ⟨item, aliasName⟩
  · exact ⟨_, _, rfl, rfl⟩
  · exact ⟨_, _, rfl, rfl⟩
  · obtain ⟨token, later, shape, starts⟩ := exists_start item
    refine ⟨token, later ++ tokens (clause [.AS] (fun name => [itemNameWord name]) aliasName),
      ?_, by simp [startsItem, starts]⟩
    rw [SelectItem.words, tokens_append, shape, List.cons_append]

theorem exists_itemsStart {items : List SelectItem} (nonempty : items ≠ []) :
    ∃ item ∈ items, ∃ later,
      tokens (listed SelectItem.words items) = tokens item.words ++ later := by
  cases items with
  | nil => exact absurd rfl nonempty
  | cons item items =>
      refine ⟨item, List.mem_cons_self, ?_⟩
      cases items with
      | nil => exact ⟨[], by simp [listed]⟩
      | cons next items => exact ⟨_, by rw [listed, tokens_append]; simp⟩

/-- The items of a query open with none of the keywords before them. -/
theorem items_noKeyword {items : List SelectItem} (grammatical : GrammaticalItems items)
    {word : Keyword} (other : startsItem (.keyword word "") = false) (rest : List Token) :
    (tokens (listed SelectItem.words items) ++ rest).head?.bind (isKeyword word) = none := by
  have nonempty : items ≠ [] := by
    rcases grammatical with rfl | ⟨nonempty, -⟩
    · simp
    · exact nonempty
  obtain ⟨item, -, later, shape⟩ := exists_itemsStart nonempty
  obtain ⟨token, after, start, starts⟩ := exists_itemStart item
  simp only [shape, start, List.cons_append, List.head?_cons, Option.bind_some]
  apply isKeyword_eq_none
  rintro written rfl
  have same : startsItem (.keyword word written) = startsItem (.keyword word "") := rfl
  simp [same, other] at starts

theorem reads_selectItems {items : List SelectItem} {words : List Keyword}
    (grammatical : GrammaticalItems items) (opens : OpensWith words rest)
    (ended : ∀ word ∈ words, endsExpr (.keyword word "") = true) (noAlias : .AS ∉ words) :
    Reads selectItems (tokens (listed SelectItem.words items) ++ rest) items rest := by
  rcases grammatical with rfl | ⟨nonempty, each⟩
  · exact (Reads.symbol?_true .star rest).bind (Reads.pure _ rest)
  · have noStar : (tokens (listed SelectItem.words items) ++ rest).head?.bind
        (isSymbol .star) = none := by
      obtain ⟨item, membership, later, shape⟩ := exists_itemsStart nonempty
      rw [shape]
      rcases item with (_ | qualifier) | ⟨item, aliasName⟩
      · exact absurd rfl (each _ membership).2
      · rfl
      · obtain ⟨token, after, start, starts⟩ := exists_start item
        simp only [SelectItem.words, tokens_append, start, List.cons_append, List.head?_cons,
          Option.bind_some]
        exact isSymbol_eq_none_of_startsExpr starts rfl
    refine (Reads.symbol?_false noStar).bind ?_
    refine reads_separated nonempty (opens.symbol .comma) ?_ ?_
    · intro item membership _
      obtain ⟨inItem, plain⟩ := each item membership
      exact reads_selectItem inItem plain (by simp; rfl) rfl
    · intro item membership
      obtain ⟨inItem, plain⟩ := each item membership
      exact reads_selectItem inItem plain (opens.ends ended) (opens.keyword noAlias)

theorem reads_distinctClause {distinct : Bool} {distinctOn : List Expr}
    (agrees : distinctOn ≠ [] → distinct = true)
    (grammatical : ∀ key ∈ distinctOn, key.Grammatical)
    (noDistinct : rest.head?.bind (isKeyword .DISTINCT) = none)
    (noOn : rest.head?.bind (isKeyword .ON) = none) :
    Reads distinctClause (tokens (distinctWords distinct distinctOn) ++ rest)
      (distinct, distinctOn) rest := by
  cases distinct with
  | false =>
      have empty : distinctOn = [] := by simpa using agrees
      subst empty
      exact (Reads.keyword?_false noDistinct).bind (Reads.pure _ rest)
  | true =>
      cases distinctOn with
      | nil =>
          have absent := reads_clause?_none (Parser.enclosed Parser.exprs) noOn
          exact (Reads.keyword?_true .DISTINCT _ _).bind (absent.bind (Reads.pure _ rest))
      | cons key keys =>
          have present : Reads (clause? .ON (Parser.enclosed Parser.exprs))
              (tokens (clause [.ON] (fun keys => enclosed (listed Expr.words keys))
                (some (key :: keys))) ++ rest) (some (key :: keys)) rest := by
            refine reads_clause? noOn ?_
            rintro body ⟨rfl⟩
            exact reads_row (by simp) grammatical rest
          exact (Reads.keyword?_true .DISTINCT _ _).bind (present.bind (Reads.pure _ rest))

/-! Joins. -/

/-- The keywords that a printed join opens with. -/
def joinKeywords : List Keyword := [.INNER, .LEFT, .RIGHT]

theorem opensWith_joins {words : List Keyword} (opens : OpensWith words rest)
    (joins : List JoinClause) :
    OpensWith (joinKeywords ++ words) (tokens (joins.flatMap JoinClause.words) ++ rest) := by
  cases joins with
  | nil => exact opens.mono (List.subset_append_right joinKeywords words)
  | cons join joins =>
      have kind : join.kind.keyword ∈ joinKeywords ++ words := by
        cases join.kind <;> simp [JoinKind.keyword, joinKeywords]
      exact OpensWith.cons kind _ _

theorem reads_joinKind? (kind : JoinKind) (written joined : String) (rest : List Token) :
    Reads joinKind? (.keyword kind.keyword written :: .keyword .JOIN joined :: rest) (some kind)
      (.keyword .JOIN joined :: rest) := by
  refine (Reads.peek _).bind ?_
  cases kind with
  | inner => exact (Reads.skip _ _).bind (Reads.pure _ _)
  | left => exact (Reads.skip _ _).bind ((Reads.keyword?_false rfl).bind (Reads.pure _ _))
  | right => exact (Reads.skip _ _).bind ((Reads.keyword?_false rfl).bind (Reads.pure _ _))

theorem reads_joinKind?_none {words : List Keyword} (opens : OpensWith words rest)
    (others : ∀ word ∈ .JOIN :: joinKeywords, word ∉ words) :
    Reads joinKind? rest none rest := by
  refine (Reads.peek _).bind ?_
  cases rest with
  | nil => exact Reads.pure none []
  | cons token rest =>
      obtain ⟨word, membership, written, rfl⟩ := opens token (by simp)
      have unlike (other : Keyword) (among : other ∈ .JOIN :: joinKeywords) : word ≠ other :=
        fun equal => others other among (equal ▸ membership)
      have join := unlike .JOIN (by decide)
      have inner := unlike .INNER (by decide)
      have left := unlike .LEFT (by decide)
      have right := unlike .RIGHT (by decide)
      simp only [List.head?_cons]
      split <;> first | exact Reads.pure none _ | simp_all

theorem reads_joinClause {join : JoinClause} (grammatical : join.Grammatical) (written : String)
    (ends : Ends rest) :
    Reads (joinClause join.kind)
      (.keyword .JOIN written ::
        (tokens (join.table.words ++ .keyword .ON :: join.condition.words) ++ rest)) join rest := by
  have condition : join.condition.Grammatical := ⟨grammatical.left, grammatical.right⟩
  rw [tokens_append, List.append_assoc]
  refine Reads.position_bind fun start => (Reads.keyword .JOIN _ _).bind ?_
  refine (reads_tableRef join.table rfl rfl).bind ((Reads.keyword .ON _ _).bind ?_)
  exact (reads_expr condition ends).bind (Reads.pure join rest)

theorem reads_joinsOf {joins : List JoinClause} {words : List Keyword} {fuel : Nat}
    (grammatical : ∀ join ∈ joins, join.Grammatical) (enough : joins.length < fuel)
    (opens : OpensWith words rest)
    (ended : ∀ word ∈ words, endsExpr (.keyword word "") = true)
    (others : ∀ word ∈ .JOIN :: joinKeywords, word ∉ words) :
    Reads (joinsOf fuel) (tokens (joins.flatMap JoinClause.words) ++ rest) joins rest := by
  induction joins generalizing fuel with
  | nil =>
      obtain ⟨fuel, rfl⟩ := Nat.exists_eq_add_of_le' (show 1 ≤ fuel by omega)
      rw [joinsOf]
      exact (reads_joinKind?_none opens others).bind (Reads.pure [] rest)
  | cons join joins inductionHypothesis =>
      simp only [List.length_cons] at enough
      obtain ⟨fuel, rfl⟩ := Nat.exists_eq_add_of_le' (show 1 ≤ fuel by omega)
      have later := opensWith_joins opens joins
      have endedLater : ∀ word ∈ joinKeywords ++ words,
          endsExpr (.keyword word "") = true := by
        rw [List.forall_mem_append]
        exact ⟨by decide, ended⟩
      have each := inductionHypothesis (fun other membership =>
        grammatical other (List.mem_cons_of_mem join membership))
        (show joins.length < fuel by omega)
      have first := reads_joinClause (grammatical join List.mem_cons_self)
        (String.ofList Keyword.JOIN.letters) (later.ends endedLater)
      rw [joinsOf, List.flatMap_cons, tokens_append, List.append_assoc]
      exact (reads_joinKind? join.kind _ _ _).bind
        (first.bind (each.bind (Reads.pure (join :: joins) rest)))

theorem length_le_tokens_joins (joins : List JoinClause) :
    joins.length ≤ (tokens (joins.flatMap JoinClause.words)).length := by
  induction joins with
  | nil => simp
  | cons join joins inductionHypothesis =>
      simp only [List.flatMap_cons, tokens_append, List.length_append, List.length_cons,
        JoinClause.words, tokens_cons, tokens_keyword, List.length_nil]
      omega

theorem reads_joins {joins : List JoinClause} {words : List Keyword}
    (grammatical : ∀ join ∈ joins, join.Grammatical) (opens : OpensWith words rest)
    (ended : ∀ word ∈ words, endsExpr (.keyword word "") = true)
    (others : ∀ word ∈ .JOIN :: joinKeywords, word ∉ words) :
    Reads Parser.joins (tokens (joins.flatMap JoinClause.words) ++ rest) joins rest := by
  refine (Reads.fuel _).bind (reads_joinsOf grammatical ?_ opens ended others)
  have room := length_le_tokens_joins joins
  simp only [List.length_append]
  omega

/-! Statements. -/

theorem reads_selectQuery {query : SelectQuery} (grammatical : query.Grammatical) (start : Nat) :
    Reads (selectQuery start) (tokens query.clauses.flatten) query [] := by
  -- From the last clause to the first: the keywords that what comes after a clause opens with.
  have formats := (OpensWith.nil []).listClause .FORMAT [] annotationWords query.formats
  have labels := formats.listClause .LABEL [] annotationWords query.labels
  have offset := labels.clause .OFFSET [] (fun size => [.count size])
    (if query.offset = 0 then none else some query.offset)
  have limit := offset.clause .LIMIT [] (fun size => [.count size]) query.limit
  have orderBy := limit.listClause .ORDER [.BY] OrderKey.words query.orderBy
  have having := orderBy.clause .HAVING [] Expr.words query.having
  have pivot := having.listClause .PIVOT [] Expr.words query.pivot
  have groupBy := pivot.listClause .GROUP [.BY] Expr.words query.groupBy
  have filter := groupBy.clause .WHERE [] Expr.words query.filter
  have joins := opensWith_joins filter query.joins
  have source := joins.clause .FROM [] TableRef.words query.source
  simp only [SelectQuery.clauses, List.flatten_cons, List.flatten_nil, tokens_append]
  refine (reads_distinctClause grammatical.distinct grammatical.distinctOn
    (items_noKeyword grammatical.items (by decide) _)
    (items_noKeyword grammatical.items (by decide) _)).bind ?_
  refine (reads_selectItems grammatical.items source (by decide) (by decide)).bind ?_
  refine (reads_fromClause joins (by decide) (by decide)).bind ?_
  refine (reads_joins grammatical.joins filter (by decide) (by decide)).bind ?_
  refine (reads_filter grammatical.filter groupBy (by decide) .WHERE (by decide)).bind ?_
  refine (reads_listBy (pivot.keyword (by decide))
    (reads_keys grammatical.groupBy pivot (by decide))).bind ?_
  refine (reads_listAfter (having.keyword (by decide))
    (reads_keys grammatical.pivot having (by decide))).bind ?_
  refine (reads_filter grammatical.having orderBy (by decide) .HAVING (by decide)).bind ?_
  refine (reads_orderBy grammatical.orderBy limit (by decide) (by decide)).bind ?_
  refine (reads_limit offset .LIMIT (by decide)).bind ?_
  refine (reads_limit labels .OFFSET (by decide)).bind ?_
  refine (reads_notes grammatical.labels formats .LABEL (by decide)).bind ?_
  refine (reads_notes grammatical.formats (OpensWith.nil []) .FORMAT (by decide)).bind ?_
  have late : Reads (listAfter .PIVOT Parser.exprs) [] [] [] := reads_listAfter_nil _ rfl
  have counted : (if query.offset = 0 then none else some query.offset).getD 0 =
      query.offset := by split <;> simp_all
  refine late.bind ?_
  simp only [List.isEmpty_nil, Bool.not_true, Bool.and_false, Bool.false_eq_true, if_false,
    counted, List.append_nil]
  exact Reads.pure query []

/-- One target of several places is given in one of them. -/
theorem reads_oneTarget {targets : List (Option TableRef)} {target : Option TableRef}
    (one : targets.filterMap id = target.toList) (verb : String) (start : Nat)
    (rest : List Token) : Reads (oneTarget verb start targets) rest target rest := by
  rw [oneTarget, one]
  cases target with
  | none => exact Reads.pure none rest
  | some target => exact Reads.pure (some target) rest

theorem reads_identifiers {names : List String} (nonempty : names ≠ [])
    (rest : List Token) :
    Reads (Parser.enclosed (separated (expect isIdentifier)))
      (tokens (enclosed (listed (fun name => [.name name]) names)) ++ rest) names rest :=
  reads_enclosed (reads_separated nonempty rfl
    (fun name _ _ => Reads.identifier name _) (fun name _ => Reads.identifier name _))

theorem reads_assignment {assignment : Assignment} (grammatical : assignment.Grammatical)
    (ends : Ends rest) :
    Reads Parser.assignment (tokens assignment.words ++ rest) assignment rest := by
  have value := reads_expr grammatical.value ends
  rcases assignment with ⟨⟨_ | qualifier, name⟩, value⟩
  · exact (Reads.identifier name _).bind ((reads_columnAfter_none name rfl).bind
      ((Reads.symbol .eq _).bind (value.bind (Reads.pure _ rest))))
  · exact (Reads.identifier qualifier _).bind ((reads_columnAfter_some qualifier name _).bind
      ((Reads.symbol .eq _).bind (value.bind (Reads.pure _ rest))))

/-- `INTO` is taken if a target is given, and its absence makes no difference. -/
theorem reads_into_bind {Next : Type} {later : Bool → Parser Next} {next : Next}
    {after : List Token} (target : Option TableRef)
    (noInto : rest.head?.bind (isKeyword .INTO) = none)
    (reads : ∀ found, Reads (later found) (tokens (clause [] TableRef.words target) ++ rest) next
      after) :
    Reads (keyword? .INTO >>= later)
      (tokens (clause [.INTO] TableRef.words target) ++ rest) next after := by
  cases target with
  | none => exact (Reads.keyword?_false noInto).bind (reads false)
  | some table => exact (Reads.keyword?_true .INTO _ _).bind (reads true)

theorem reads_insertQuery {query : InsertQuery} (grammatical : query.Grammatical) (start : Nat) :
    Reads (insertQuery start) (tokens query.clauses.flatten) query [] := by
  obtain ⟨someRows, eachRow⟩ := grammatical.rows
  have rows : Reads (separated (Parser.enclosed Parser.exprs))
      (tokens (listed (fun row => enclosed (listed Expr.words row)) query.rows) ++ [])
      query.rows [] :=
    reads_separated someRows rfl
      (fun row membership _ => reads_row (eachRow row membership).1 (eachRow row membership).2 _)
      (fun row membership => reads_row (eachRow row membership).1 (eachRow row membership).2 [])
  have one : [query.target, none].filterMap id = query.target.toList := by
    cases query.target <;> rfl
  have target := reads_oneTarget one "INSERT" start []
  simp only [InsertQuery.clauses, List.flatten_cons, List.flatten_nil, tokens_append,
    tokens_cons, tokens_keyword, List.cons_append, List.nil_append]
  refine reads_into_bind query.target ?_ fun found => ?_
  · cases query.columns <;> rfl
  refine (reads_tableRef? query.target ?_ ?_ ?_).bind ((Reads.peek _).bind ?_)
  iterate 3 cases query.columns <;> rfl
  have noSource := reads_fromClause_none (OpensWith.nil []) (by decide)
  rcases query with ⟨target, _ | names, rows⟩
  · refine (Reads.pure none _).bind ((Reads.keyword .VALUES _ _).bind ?_)
    exact rows.bind (noSource.bind (target.bind (Reads.pure _ [])))
  · have someNames := (grammatical.columns names rfl).1
    refine (Reads.map some (reads_identifiers someNames _)).bind ?_
    refine (Reads.keyword .VALUES _ _).bind ?_
    exact rows.bind (noSource.bind (target.bind (Reads.pure _ [])))

theorem reads_updateQuery {query : UpdateQuery} (grammatical : query.Grammatical) (start : Nat) :
    Reads (updateQuery start) (tokens query.clauses.flatten) query [] := by
  have limit := (OpensWith.nil []).clause .LIMIT [] (fun size => [.count size]) query.limit
  have orderBy := limit.listClause .ORDER [.BY] OrderKey.words query.orderBy
  have filter := orderBy.clause .WHERE [] Expr.words query.filter
  obtain ⟨nonempty, each⟩ := grammatical.assignments
  simp only [UpdateQuery.clauses, List.flatten_cons, List.flatten_nil, tokens_append,
    tokens_cons, tokens_keyword, List.append_assoc]
  refine (reads_tableRef? query.target rfl rfl rfl).bind ((Reads.keyword .SET _ _).bind ?_)
  refine (reads_separated nonempty (filter.symbol .comma)
    (fun assignment membership _ => reads_assignment (each assignment membership) (by simp; rfl))
    (fun assignment membership => reads_assignment (each assignment membership)
      (filter.ends (by decide)))).bind ?_
  refine (reads_fromClause_none filter (by decide)).bind ?_
  refine (reads_filter grammatical.filter orderBy (by decide) .WHERE (by decide)).bind ?_
  refine (reads_fromClause_none orderBy (by decide)).bind ?_
  refine (reads_orderBy grammatical.orderBy limit (by decide) (by decide)).bind ?_
  refine (reads_limit (OpensWith.nil []) .LIMIT (by decide)).bind ?_
  have one : [query.target, none, none].filterMap id = query.target.toList := by
    cases query.target <;> rfl
  exact (reads_oneTarget one "UPDATE" start []).bind (Reads.pure query [])

theorem reads_deleteQuery {query : DeleteQuery} (grammatical : query.Grammatical) (start : Nat) :
    Reads (deleteQuery start) (tokens query.clauses.flatten) query [] := by
  have limit := (OpensWith.nil []).clause .LIMIT [] (fun size => [.count size]) query.limit
  have orderBy := limit.listClause .ORDER [.BY] OrderKey.words query.orderBy
  have filter := orderBy.clause .WHERE [] Expr.words query.filter
  simp only [DeleteQuery.clauses, List.flatten_cons, List.flatten_nil, tokens_append]
  refine (reads_fromClause filter (by decide) (by decide)).bind ?_
  refine (reads_filter grammatical.filter orderBy (by decide) .WHERE (by decide)).bind ?_
  refine (reads_fromClause_none orderBy (by decide)).bind ?_
  refine (reads_orderBy grammatical.orderBy limit (by decide) (by decide)).bind ?_
  refine (reads_limit (OpensWith.nil []) .LIMIT (by decide)).bind ?_
  have one : [query.target, none].filterMap id = query.target.toList := by
    cases query.target <;> rfl
  exact (reads_oneTarget one "DELETE" start []).bind (Reads.pure query [])

/-- A statement and no more is read from the tokens of its query. -/
theorem reads_whole {before : List Token} {statement : Statement}
    (reads : Reads Parser.query before statement []) :
    Reads Parser.statement before statement [] :=
  reads.bind ((Reads.symbol?_false rfl).bind ((Reads.peek []).bind (Reads.pure statement [])))

/-- A query is read after its first keyword. -/
theorem reads_select {before : List Token} {query : SelectQuery} (written : String)
    (reads : ∀ start, Reads (selectQuery start) before query []) :
    Reads Parser.query (.keyword .SELECT written :: before) (.select query) [] :=
  Reads.position_bind fun start => (Reads.peek _).bind ((Reads.skip _ _).bind
    ((reads start).bind (Reads.pure _ [])))

theorem reads_query {statement : Statement} (grammatical : statement.Grammatical) :
    Reads Parser.query (tokens statement.words) statement [] := by
  cases statement with
  | select query => exact reads_select _ (reads_selectQuery grammatical)
  | change mutation =>
      refine Reads.position_bind fun start => (Reads.peek _).bind ?_
      cases mutation with
      | insert query =>
          exact (Reads.skip _ _).bind
            ((reads_insertQuery grammatical start).bind (Reads.pure _ []))
      | update query =>
          exact (Reads.skip _ _).bind
            ((reads_updateQuery grammatical start).bind (Reads.pure _ []))
      | delete query =>
          exact (Reads.skip _ _).bind
            ((reads_deleteQuery grammatical start).bind (Reads.pure _ []))

theorem reads_statement {statement : Statement} (grammatical : statement.Grammatical) :
    Reads Parser.statement (tokens statement.words) statement [] :=
  reads_whole (reads_query grammatical)

end GridQuery.Statement
