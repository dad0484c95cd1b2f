import GridQuery.Proofs.Native.Reread
import GridQuery.Proofs.Statement.RoundTrip

/-!
# Translated queries are read back

The clauses of a translated query are cut and read from the last to the first: before what
comes after a clause, the clause is cut into tokens that its reader takes. A query that the
grid's language tells is what its translation is read as.
-/

namespace GridQuery

open Statement Statement.Parser

namespace Native

variable {Item : Type}

/-! ### Lists -/

theorem tells_each {step : Item → Option NativeText} {reads : List Token → Item → Prop}
    {items : List Item} {texts : List NativeText}
    (done : List.Forall₂ (fun item text => step item = some text) items texts)
    (tells : ∀ item ∈ items, ∀ text, step item = some text → Tells reads text item) :
    List.Forall₂ (fun item text => Tells reads text item) items texts :=
  ((List.forall₂_and_left items texts).mpr ⟨tells, done⟩).imp fun _ text found =>
    found.1 text found.2

/-- Texts with commas between them tell lists, item by item. -/
theorem tells_separated {reads : List Token → Item → Prop} {items : List Item}
    {texts : List NativeText}
    (each : List.Forall₂ (fun item text => Tells reads text item) items texts) :
    ∃ parts, Spells (NativeText.separated ", " texts).letters (commaTokens parts) ∧
      List.Forall₂ reads parts items := by
  induction each with
  | nil => exact ⟨[], fun _ _ _ cuts => cuts, .nil⟩
  | @cons item text items texts told each inductionHypothesis =>
      obtain ⟨part, spells, read⟩ := told
      obtain ⟨parts, spellsLater, readLater⟩ := inductionHypothesis
      refine ⟨part :: parts, ?_, .cons read readLater⟩
      cases each with
      | nil =>
          cases readLater
          simpa [NativeText.separated, commaTokens] using spells
      | cons next each =>
          cases readLater with
          | cons nextRead readLater =>
              have comma : ", ".toList = [',', ' '] := by rfl
              simpa [NativeText.separated, commaTokens, comma] using
                (spells.append (breaks_cons (by decide) _) begins_comma).before spellsLater

/-- What comes after a clause, cut into its tokens: a word may end before it, and it opens
with one of the keywords. -/
structure Tail (words : List Keyword) (rest : List Char) (found : List Token) : Prop where
  cuts : Cuts rest found
  atBreak : AtBreak rest
  opens : OpensWith words found

theorem tail_nil : Tail [] [] [] :=
  ⟨cuts_nil, atBreak_nil, OpensWith.nil []⟩

variable {Value : Type} {words others : List Keyword} {word : Keyword} {rest : List Char}
  {found : List Token}

/-- A clause before a tail: if its items are told, its reader takes the tokens of its text. -/
theorem exists_clause {whole : Parser Value} {value : Value} {reads : List Token → Item → Prop}
    {items : List Item} {texts : List NativeText} {opening : String}
    (opened : opening.toList = ' ' :: phrase (word :: others))
    (each : List.Forall₂ (fun item text => Tells reads text item) items texts)
    (absent : items = [] → Reads whole found value found)
    (present : ∀ parts, items ≠ [] → List.Forall₂ reads parts items →
      Reads whole ((word :: others).map smallToken ++ (commaTokens parts ++ found)) value found)
    (tail : Tail words rest found) :
    ∃ before, Tail (word :: words) ((clause opening texts).letters ++ rest) (before ++ found) ∧
      Reads whole (before ++ found) value found := by
  obtain ⟨parts, spells, read⟩ := tells_separated each
  by_cases empty : items = []
  · subst empty
    cases each
    exact ⟨[], ⟨tail.cuts, tail.atBreak, tail.opens.mono (List.subset_cons_self word words)⟩,
      absent rfl⟩
  · refine ⟨(word :: others).map smallToken ++ commaTokens parts, ⟨?_, ?_, ?_⟩, ?_⟩
    · have opens := (begins_blank.append (begins_phrase (word :: others))).before spells
      have cuts := opens rest found tail.atBreak tail.cuts
      cases each with
      | nil => exact absurd rfl empty
      | cons told each => simpa [clause, opened] using cuts
    · cases each with
      | nil => exact absurd rfl empty
      | cons told each => simp [clause, opened, breaks]
    · exact OpensWith.cons List.mem_cons_self _ _
    · rw [List.append_assoc]
      exact present parts empty read

/-! ### Clauses -/

section

variable (ended : ∀ word ∈ words, endsExpr (.keyword word "") = true)
  (tail : Tail words rest found)

include ended tail

theorem exists_filter {filter : Option Expr} {texts : List NativeText}
    (each : List.Forall₂ (fun test text => Tells Leads text test) filter.toList texts)
    (other : .WHERE ∉ words) :
    ∃ before,
      Tail (.WHERE :: words) ((clause " where " texts).letters ++ rest) (before ++ found) ∧
      Reads (clause? .WHERE Parser.expr) (before ++ found) filter found := by
  refine exists_clause (show " where ".toList = ' ' :: phrase [.WHERE] by rfl) each ?_ ?_ tail
  · intro empty
    obtain rfl : filter = none := by simpa using empty
    exact reads_clause?_none _ (tail.opens.keyword other)
  · intro parts nonempty read
    cases filter with
    | none => exact absurd rfl nonempty
    | some test =>
        cases read with
        | cons leads read =>
            cases read
            exact reads_clause?_some _ (leads.readsAs.reads (tail.opens.ends ended))

theorem exists_groups {exprs : List Expr} {texts : List NativeText}
    (each : List.Forall₂ (fun expr text => Tells IsOperand text expr) exprs texts)
    (other : .GROUP ∉ words) :
    ∃ before,
      Tail (.GROUP :: words) ((clause " group by " texts).letters ++ rest) (before ++ found) ∧
      Reads (listBy .GROUP Parser.exprs) (before ++ found) exprs found := by
  refine exists_clause (show " group by ".toList = ' ' :: phrase [.GROUP, .BY] by rfl) each
    ?_ ?_ tail
  · rintro rfl
    exact reads_listBy_nil _ (tail.opens.keyword other)
  · intro parts nonempty read
    exact reads_listBy_cons _ _ (reads_parts (read.imp fun _ _ operand => operand.readsAs)
      nonempty (tail.opens.ends ended) (tail.opens.symbol .comma))

theorem exists_pivot {exprs : List Expr} {texts : List NativeText}
    (each : List.Forall₂ (fun expr text => Tells IsOperand text expr) exprs texts)
    (other : .PIVOT ∉ words) :
    ∃ before,
      Tail (.PIVOT :: words) ((clause " pivot " texts).letters ++ rest) (before ++ found) ∧
      Reads (listAfter .PIVOT Parser.exprs) (before ++ found) exprs found := by
  refine exists_clause (show " pivot ".toList = ' ' :: phrase [.PIVOT] by rfl) each ?_ ?_ tail
  · rintro rfl
    exact reads_listAfter_nil _ (tail.opens.keyword other)
  · intro parts nonempty read
    exact reads_listAfter_cons _ (reads_parts (read.imp fun _ _ operand => operand.readsAs)
      nonempty (tail.opens.ends ended) (tail.opens.symbol .comma))

end

section

variable (tail : Tail words rest found)

include tail

theorem exists_count {count : Option Nat} {opening : String}
    (opened : opening.toList = ' ' :: phrase [word]) (limited : ∀ size ∈ count, IsNumeral size)
    (other : word ∉ words) :
    ∃ before,
      Tail (word :: words) ((clause opening
        (count.toList.map fun size => [.words (Text.ofNat size)])).letters ++ rest)
        (before ++ found) ∧
      Reads (clause? word (expect isInteger)) (before ++ found) count found := by
  have each : List.Forall₂ (fun size text =>
      Tells (fun before size => before = [.integer size]) text size) count.toList
      (count.toList.map fun size => [.words (Text.ofNat size)]) := by
    rw [List.forall₂_map_right_iff, List.forall₂_same]
    intro size among
    refine ⟨_, ?_, rfl⟩
    simpa using spells_integer (limited size (Option.mem_toList.mp among))
  refine exists_clause opened each ?_ ?_ tail
  · intro empty
    obtain rfl : count = none := by simpa using empty
    exact reads_clause?_none _ (tail.opens.keyword other)
  · intro parts nonempty read
    cases count with
    | none => exact absurd rfl nonempty
    | some size =>
        cases read with
        | cons shape read =>
            cases read
            subst shape
            exact reads_clause?_some _ (Reads.integer size found)

/-- An offset of zero is not written. -/
theorem exists_offset {offset : Nat} (limited : IsNumeral offset) (other : .OFFSET ∉ words) :
    ∃ before,
      Tail (.OFFSET :: words) ((clause " offset "
        (if offset == 0 then [] else [[.words (Text.ofNat offset)]])).letters ++ rest)
        (before ++ found) ∧
      Reads (clause? .OFFSET (expect isInteger)) (before ++ found)
        (if offset = 0 then none else some offset) found := by
  have text : (if offset == 0 then [] else [[.words (Text.ofNat offset)]]) =
      (if offset = 0 then none else some offset).toList.map fun size =>
        ([.words (Text.ofNat size)] : NativeText) := by
    by_cases zero : offset = 0 <;> simp [zero]
  have numeral : ∀ size ∈ (if offset = 0 then none else some offset), IsNumeral size := by
    by_cases zero : offset = 0 <;> simp [zero, limited]
  rw [text]
  exact exists_count tail rfl numeral other

/-- Tokens are read as an item whatever comes after them. -/
def ReadsAnywhere (parser : Parser Item) (part : List Token) (item : Item) : Prop :=
  ∀ rest, Reads parser (part ++ rest) item rest

theorem exists_order {keys : List OrderKey} {texts : List NativeText}
    (each : List.Forall₂ (fun key text => Tells (ReadsAnywhere orderKey) text key) keys texts)
    (other : .ORDER ∉ words) :
    ∃ before,
      Tail (.ORDER :: words) ((clause " order by " texts).letters ++ rest) (before ++ found) ∧
      Reads Parser.orderBy (before ++ found) keys found := by
  refine exists_clause (show " order by ".toList = ' ' :: phrase [.ORDER, .BY] by rfl) each
    ?_ ?_ tail
  · rintro rfl
    exact reads_listBy_nil _ (tail.opens.keyword other)
  · intro parts nonempty read
    exact reads_listBy_cons _ _ (reads_commaTokens
      (read.imp fun _ _ reads => ⟨fun _ => reads _, reads _⟩) nonempty (tail.opens.symbol .comma))

theorem exists_notes {notes : List (Expr × String)} {texts : List NativeText}
    {opening : String} (opened : opening.toList = ' ' :: phrase [word])
    (each : List.Forall₂ (fun note text => Tells (ReadsAnywhere annotation) text note) notes texts)
    (other : word ∉ words) :
    ∃ before, Tail (word :: words) ((clause opening texts).letters ++ rest) (before ++ found) ∧
      Reads (listAfter word (separated annotation)) (before ++ found) notes found := by
  refine exists_clause opened each ?_ ?_ tail
  · rintro rfl
    exact reads_listAfter_nil _ (tail.opens.keyword other)
  · intro parts nonempty read
    exact reads_listAfter_cons _ (reads_commaTokens
      (read.imp fun _ _ reads => ⟨fun _ => reads _, reads _⟩) nonempty (tail.opens.symbol .comma))

end

/-! ### Keys, notes and items -/

theorem tells_key {location : Location} {names : List String} {key : OrderKey}
    {text : NativeText} (grammatical : key.Grammatical) (told : key.expr.IsTold)
    (translated : orderKey? location names key = some text) :
    Tells (ReadsAnywhere orderKey) text key := by
  obtain ⟨-, shown, found, rfl⟩ := orderKey?_eq_some translated
  obtain ⟨before, spells, operand⟩ := tells_value grammatical told found
  obtain ⟨expr, descending⟩ := key
  have falling : " desc".toList = ' ' :: Keyword.DESC.small.toList := by rfl
  have rising : " asc".toList = ' ' :: Keyword.ASC.small.toList := by rfl
  have direction (word : Keyword) : Spells (shown.letters ++ ' ' :: word.small.toList)
      (before ++ [smallToken word]) :=
    spells.before (breaks_cons (by decide) _) (begins_blank.before (spells_small word))
  cases descending with
  | true =>
      refine ⟨before ++ [smallToken .DESC], by simpa [falling] using direction .DESC,
        fun rest => ?_⟩
      rw [List.append_assoc]
      refine (operand.readsAs.reads (by simp; rfl)).bind ?_
      exact (Reads.keyword?_true .DESC _ rest).bind (Reads.pure _ rest)
  | false =>
      refine ⟨before ++ [smallToken .ASC], by simpa [rising] using direction .ASC, fun rest => ?_⟩
      rw [List.append_assoc]
      refine (operand.readsAs.reads (by simp; rfl)).bind ?_
      exact (Reads.keyword?_false rfl).bind
        ((Reads.keyword?_true .ASC _ rest).bind (Reads.pure _ rest))

theorem tells_note {location : Location} {entry : Expr × String} {text : NativeText}
    (grammatical : entry.1.Grammatical) (told : entry.1.IsTold) (plain : '\\' ∉ entry.2.toList)
    (translated : note? location entry = some text) :
    Tells (ReadsAnywhere annotation) text entry := by
  obtain ⟨shown, quoted, found, inQuotes, rfl⟩ := note?_eq_some translated
  obtain ⟨before, spells, operand⟩ := tells_value grammatical told found
  have note := begins_blank.before (spells_of_quote? inQuotes plain)
  refine ⟨before ++ [.text entry.2], ?_, fun rest => ?_⟩
  · simpa using spells.before (breaks_cons (by decide) _) note
  · rw [List.append_assoc]
    exact (operand.readsAs.reads (by simp; rfl)).bind
      ((Reads.text entry.2 rest).bind (Reads.pure entry rest))

/-- The tokens of an operand are not all columns of a table. -/
theorem ne_qualifiedStar_of_isOperand {before rest : List Token} {expr : Expr}
    (operand : IsOperand before expr) (ends : Ends rest) (name : String) (later : List Token) :
    before ++ rest ≠ .identifier name :: .symbol .dot :: .symbol .star :: later := by
  obtain ⟨first, others, rfl, -⟩ := operand.starts
  intro same
  cases others with
  | nil =>
      obtain ⟨-, rfl⟩ := List.cons.inj same
      simp [endsExpr] at ends
  | cons second others =>
      obtain ⟨-, same⟩ := List.cons.inj same
      obtain ⟨rfl, -⟩ := List.cons.inj same
      exact operand.undotted (by simp)

theorem readsItem_of_isOperand {before : List Token} {expr : Expr} (ends : Ends found)
    (noAlias : found.head?.bind (isKeyword .AS) = none) (operand : IsOperand before expr) :
    ReadsItem selectItem found before (.expr expr none) := by
  have anywhere {rest : List Token} (ends : Ends rest)
      (noAlias : rest.head?.bind (isKeyword .AS) = none) :
      Reads selectItem (before ++ rest) (.expr expr none) rest :=
    reads_exprItem (operand.readsAs.reads ends) (ne_qualifiedStar_of_isOperand operand ends)
      (reads_clause?_none _ noAlias)
  exact ⟨fun later => anywhere (by simp; rfl) rfl, anywhere ends noAlias⟩

theorem exists_start_commaTokens {parts : List (List Token)} {exprs : List Expr}
    (each : List.Forall₂ IsOperand parts exprs) (nonempty : exprs ≠ []) :
    ∃ token later, commaTokens parts = token :: later ∧ startsExpr token = true := by
  cases each with
  | nil => exact absurd rfl nonempty
  | cons operand each =>
      obtain ⟨token, later, rfl, starts⟩ := operand.starts
      cases each with
      | nil => exact ⟨token, later, rfl, starts⟩
      | cons next each => exact ⟨token, _, rfl, starts⟩

/-- Items without names of their own are expressions alone. -/
theorem items_eq_map {items : List SelectItem} {exprs : List Expr}
    (listed : items.map SelectItem.expr? = exprs.map some)
    (unnamed : ∀ expr name, SelectItem.expr expr (some name) ∉ items) :
    items = exprs.map fun expr => .expr expr none := by
  induction items generalizing exprs with
  | nil =>
      obtain rfl : exprs = [] := by simpa using listed.symm
      rfl
  | cons item items inductionHypothesis =>
      cases exprs with
      | nil => cases listed
      | cons expr exprs =>
          obtain ⟨first, later⟩ := List.cons.inj listed
          have others := inductionHypothesis later fun expr name among =>
            unnamed expr name (List.mem_cons_of_mem item among)
          rw [others, List.map_cons]
          cases item with
          | star qualifier => cases first
          | expr found aliasName =>
              obtain rfl := Option.some.inj first
              cases aliasName with
              | none => rfl
              | some name => exact absurd List.mem_cons_self (unnamed found name)

theorem tells_values {location : Location} {exprs : List Expr} {texts : List NativeText}
    (grammatical : ∀ expr ∈ exprs, expr.Grammatical) (told : ∀ expr ∈ exprs, expr.IsTold)
    (valued : List.Forall₂ (fun expr text => value? location expr = some text) exprs texts) :
    List.Forall₂ (fun expr text => Tells IsOperand text expr) exprs texts :=
  tells_each valued fun expr among _ found =>
    tells_value (grammatical expr among) (told expr among) found

/-- The items of a query before its clauses. -/
theorem exists_items {location : Location} {items : List SelectItem} {text : NativeText}
    (grammatical : GrammaticalItems items)
    (unnamed : ∀ expr name, SelectItem.expr expr (some name) ∉ items)
    (told : ∀ expr ∈ items.filterMap SelectItem.expr?, expr.IsTold)
    (translated : items? location items = some text)
    (ended : ∀ word ∈ words, endsExpr (.keyword word "") = true) (noAlias : .AS ∉ words)
    (tail : Tail words rest found) :
    ∃ before, Cuts (text.letters ++ rest) (before ++ found) ∧
      (before ++ found).head?.bind (isKeyword .DISTINCT) = none ∧
      Reads selectItems (before ++ found) items found := by
  rcases items?_eq_some translated with ⟨rfl, rfl⟩ | ⟨exprs, texts, listed, valued, rfl⟩
  · refine ⟨[.symbol .star], ?_, rfl, (Reads.symbol?_true .star found).bind (Reads.pure _ found)⟩
    exact spells_symbol .star rest found tail.atBreak tail.cuts
  · obtain rfl := items_eq_map listed unnamed
    rcases grammatical with star | ⟨nonempty, grammatical⟩
    · cases exprs <;> cases star
    have each : List.Forall₂ (fun expr text => Tells IsOperand text expr) exprs texts := by
      refine tells_values (fun expr among => ?_) (fun expr among => ?_) valued
      · exact (grammatical (.expr expr none) (List.mem_map_of_mem among)).1
      · exact told expr (List.mem_filterMap.mpr ⟨_, List.mem_map_of_mem among, rfl⟩)
    have nonempty : exprs ≠ [] := by simpa using nonempty
    obtain ⟨parts, spells, operands⟩ := tells_separated each
    obtain ⟨token, later, shape, starts⟩ := exists_start_commaTokens operands nonempty
    refine ⟨commaTokens parts, spells rest found tail.atBreak tail.cuts, ?_, ?_⟩
    · rw [shape]
      exact isKeyword_eq_none_of_startsExpr starts fun _ => rfl
    · have noStar : (commaTokens parts ++ found).head?.bind (isSymbol .star) = none := by
        rw [shape]
        exact isSymbol_eq_none_of_startsExpr starts rfl
      refine (Reads.symbol?_false noStar).bind ?_
      refine reads_commaTokens ?_ (by simpa using nonempty) (tail.opens.symbol .comma)
      rw [List.forall₂_map_right_iff]
      exact operands.imp fun _ _ operand =>
        readsItem_of_isOperand (tail.opens.ends ended) (tail.opens.keyword noAlias) operand

end Native

/-- The expressions of a statement and all that these are put together from. -/
def Statement.parts (statement : Statement) : List Expr :=
  statement.exprs.flatMap Expr.parts

namespace Native

/-- A query of one table, in words that the grid's language has in common with statements. -/
structure IsPlain (query : SelectQuery) : Prop where
  source : query.source = none
  unnamed : ∀ expr name, SelectItem.expr expr (some name) ∉ query.items
  undated : Expr.today ∉ (Statement.select query).parts
  midnights : ∀ moment, .literal (.date moment) ∈ (Statement.select query).parts →
    moment.isMidnight = true
  finite : ∀ value, .literal (.number (.float value)) ∈ (Statement.select query).parts →
    ∃ negative code, value = .finite negative code
  texts : ∀ content, .literal (.text content) ∈ (Statement.select query).parts →
    '\\' ∉ content.toList
  notes : ∀ note ∈ query.labels ++ query.formats, '\\' ∉ note.2.toList

/-- The columns and days of a query are written in one way in both languages: no column is a
keyword or has a line break after its letters, and no year has less than four digits. -/
structure IsTold (query : SelectQuery) : Prop where
  columns : ∀ reference, .column reference ∈ (Statement.select query).parts →
    Keyword.ofWord? reference.name = none ∧ reference.name.toList.getLast? ≠ some '\n'
  years : ∀ moment, .literal (.date moment) ∈ (Statement.select query).parts →
    1000 ≤ moment.date.year

theorem isTold_of_mem {query : SelectQuery} (plain : IsPlain query) (told : IsTold query)
    {expr : Expr} (among : expr ∈ (Statement.select query).exprs) : expr.IsTold := by
  intro part within
  have inside : part ∈ (Statement.select query).parts :=
    List.mem_flatMap.mpr ⟨expr, among, within⟩
  cases part with
  | literal cell =>
      cases cell with
      | text content => exact plain.texts content inside
      | number number =>
          cases number with
          | int value => trivial
          | float value => exact plain.finite value inside
      | date moment => exact ⟨plain.midnights moment inside, told.years moment inside⟩
      | _ => trivial
  | column reference => exact told.columns reference inside
  | today => exact absurd inside plain.undated
  | _ => trivial

/-- A query has no other clauses than those that the grid's language has too. -/
structure IsSimple (query : SelectQuery) : Prop where
  source : query.source = none
  joins : query.joins = []
  distinct : query.distinct = false
  distinctOn : query.distinctOn = []
  having : query.having = none

/-- A simple query is read if its clauses are read one after another. -/
theorem reads_simpleQuery {query : SelectQuery} (simple : IsSimple query)
    {start : List Token} {afterItems afterFilter afterGroups afterPivot afterOrder afterLimit
      afterOffset afterLabels : List Token}
    (undistinct : start.head?.bind (isKeyword .DISTINCT) = none)
    (items : Reads selectItems start query.items afterItems)
    (noSource : Reads fromClause afterItems none afterItems)
    (noJoins : Reads Parser.joins afterItems [] afterItems)
    (filter : Reads (clause? .WHERE Parser.expr) afterItems query.filter afterFilter)
    (groups : Reads (listBy .GROUP Parser.exprs) afterFilter query.groupBy afterGroups)
    (pivot : Reads (listAfter .PIVOT Parser.exprs) afterGroups query.pivot afterPivot)
    (noHaving : Reads (clause? .HAVING Parser.expr) afterPivot none afterPivot)
    (order : Reads Parser.orderBy afterPivot query.orderBy afterOrder)
    (limit : Reads (clause? .LIMIT (expect isInteger)) afterOrder query.limit afterLimit)
    (offset : Reads (clause? .OFFSET (expect isInteger)) afterLimit
      (if query.offset = 0 then none else some query.offset) afterOffset)
    (labels : Reads (listAfter .LABEL (separated annotation)) afterOffset query.labels
      afterLabels)
    (formats : Reads (listAfter .FORMAT (separated annotation)) afterLabels query.formats [])
    (position : Nat) : Reads (selectQuery position) start query [] := by
  have counted : (if query.offset = 0 then none else some query.offset).getD 0 =
      query.offset := by
    split <;> simp_all
  have same : query = { query with
      source := none, joins := [], distinct := false, distinctOn := [], having := none } := by
    obtain ⟨source, joins, distinct, distinctOn, having⟩ := simple
    cases query
    simp_all
  refine ((Reads.keyword?_false undistinct).bind (Reads.pure (false, []) _)).bind ?_
  refine items.bind (noSource.bind (noJoins.bind (filter.bind (groups.bind (pivot.bind ?_)))))
  refine noHaving.bind (order.bind (limit.bind (offset.bind (labels.bind (formats.bind ?_)))))
  refine (reads_listAfter_nil _ rfl).bind ?_
  simp only [List.isEmpty_nil, Bool.not_true, Bool.and_false, Bool.false_eq_true, if_false,
    counted, List.append_nil]
  rw [same]
  exact Reads.pure _ []

/-- A query that is plain and told is what its translation is read as, if case counts. -/
theorem parse_translated {sql : String} {query : SelectQuery} {location : Location}
    {text : NativeText} (parsed : Statement.parse sql = .ok (.select query))
    (plain : IsPlain query) (told : IsTold query)
    (translated : queryText? query location true = some text) :
    Statement.parse text.text = .ok (.select query) := by
  have grammatical : query.Grammatical := grammatical_of_parse parsed
  have isTold : ∀ expr ∈ (Statement.select query).exprs, expr.IsTold :=
    fun expr among => isTold_of_mem plain told among
  simp only [Statement.exprs, List.forall_mem_append, List.forall_mem_map] at isTold
  obtain ⟨⟨⟨⟨⟨⟨⟨⟨-, toldItems⟩, toldFilter⟩, toldGroups⟩, toldPivot⟩, -⟩, toldOrder⟩,
    toldLabels⟩, toldFormats⟩ := isTold
  obtain ⟨shape, items, filter, groups, pivot, order, labelled, formatted, onItems, onFilter,
    onGroups, onPivot, onOrder, onLabels, onFormats, rfl⟩ :=
    queryText?_eq_some_iff.mp translated
  rw [labels_eq plain.unnamed] at onLabels
  simp only [hasShape, Bool.and_eq_true, Bool.not_eq_true', List.isEmpty_iff,
    Option.isNone_iff_eq_none] at shape
  obtain ⟨⟨⟨⟨joins, -⟩, distinct⟩, distinctOn⟩, having⟩ := shape
  have tellsFilter := tells_each (forall₂_of_mapM onFilter) fun test among _ found =>
    tells_predicate (grammatical.filter test (Option.mem_toList.mp among)) (toldFilter test among)
      found
  have tellsGroups := tells_values grammatical.groupBy toldGroups (forall₂_of_mapM onGroups)
  have tellsPivot := tells_values grammatical.pivot toldPivot (forall₂_of_mapM onPivot)
  have tellsOrder := tells_each (forall₂_of_mapM onOrder) fun key among _ found =>
    tells_key (grammatical.orderBy key among) (toldOrder key among) found
  have tellsLabels := tells_each (forall₂_of_mapM onLabels) fun note among _ found =>
    tells_note (grammatical.labels note among) (toldLabels note among)
      (plain.notes note (List.mem_append_left _ among)) found
  have tellsFormats := tells_each (forall₂_of_mapM onFormats) fun note among _ found =>
    tells_note (grammatical.formats note among) (toldFormats note among)
      (plain.notes note (List.mem_append_right _ among)) found
  -- Each clause before the tail that the clauses after it make.
  obtain ⟨formats, formatTail, readsFormats⟩ := exists_notes tail_nil
    (show " format ".toList = ' ' :: phrase [.FORMAT] by rfl) tellsFormats (by decide)
  obtain ⟨labels, labelTail, readsLabels⟩ := exists_notes formatTail
    (show " label ".toList = ' ' :: phrase [.LABEL] by rfl) tellsLabels (by decide)
  obtain ⟨offset, offsetTail, readsOffset⟩ := exists_offset labelTail grammatical.offset
    (by decide)
  obtain ⟨limit, limitTail, readsLimit⟩ := exists_count offsetTail
    (show " limit ".toList = ' ' :: phrase [.LIMIT] by rfl) grammatical.limit (by decide)
  obtain ⟨keys, orderTail, readsOrder⟩ := exists_order limitTail tellsOrder (by decide)
  obtain ⟨pivots, pivotTail, readsPivot⟩ := exists_pivot (by decide) orderTail tellsPivot
    (by decide)
  obtain ⟨grouped, groupTail, readsGroups⟩ := exists_groups (by decide) pivotTail tellsGroups
    (by decide)
  obtain ⟨filtered, filterTail, readsFilter⟩ := exists_filter (by decide) groupTail tellsFilter
    (by decide)
  obtain ⟨listed, cuts, undistinct, readsItems⟩ := exists_items grammatical.items plain.unnamed
    toldItems onItems (by decide) (by decide) filterTail
  have noJoins := reads_joins grammatical.joins filterTail.opens (by decide) (by decide)
  rw [joins, List.flatMap_nil, tokens_nil, List.nil_append] at noJoins
  have noSource := reads_fromClause_none filterTail.opens (by decide)
  have noHaving := reads_clause?_none Parser.expr
    (orderTail.opens.keyword (show Keyword.HAVING ∉ _ by decide))
  have reads := reads_simpleQuery ⟨plain.source, joins, distinct, distinctOn, having⟩ undistinct
    readsItems noSource noJoins readsFilter readsGroups readsPivot noHaving readsOrder readsLimit
    readsOffset readsLabels readsFormats
  apply parse_of_reads _ (reads_whole (reads_select Keyword.SELECT.small reads))
  rw [NativeText.toList_text]
  have select : "select ".toList = phrase [.SELECT] := by rfl
  have whole := begins_phrase [.SELECT] _ _ cuts
  simpa [select] using whole

/-! ### A query that is read back, and one that is not -/

/-- The columns of a sheet that have codes of one or two letters. -/
def wideSheet : Location where
  spreadsheet := "1BxiMVs0XRA5nFMdKvBdBZjgmUUqptlbs74OgvE2upms"
  range := "Sheet1!A:ZZ"
  sheet := "Sheet1"
  firstColumn := "A"
  lastColumn := some "ZZ"
  firstRow := 1
  lastRow := none

def columnNamed (name : String) : Expr :=
  .column ⟨none, name⟩

/-- A query for a single item, without clauses. -/
def itemQuery (item : Expr) : SelectQuery where
  items := [.expr item none]
  source := none
  joins := []
  filter := none
  groupBy := []
  having := none
  orderBy := []
  limit := none
  offset := 0
  distinct := false
  distinctOn := []
  pivot := []
  labels := []
  formats := []

/-- The largest of the sums that are known. -/
def knownSums : SelectQuery :=
  { itemQuery (.arithmetic .mul (columnNamed "B") (.literal (.int (-2)))) with
    filter := some (.compound .and (.not (.condition .startsWith (columnNamed "A")
      (.literal (.text "ink")))) (.nullCheck (columnNamed "B") true))
    orderBy := [⟨columnNamed "B", true⟩]
    limit := some 3
    labels := [(columnNamed "B", "sum")] }

theorem knownSums_reread :
    ∃ sql text, Statement.parse sql = .ok (.select knownSums) ∧ IsPlain knownSums ∧
      IsTold knownSums ∧ queryText? knownSums wideSheet true = some text ∧
      Statement.parse text.text = .ok (.select knownSums) := by
  have parsed : Statement.parse ("SELECT B * -2 WHERE NOT A STARTS WITH 'ink' AND B IS NOT NULL " ++
      "ORDER BY B DESC LIMIT 3 LABEL B 'sum'") = .ok (.select knownSums) := by
    rfl
  have plain : IsPlain knownSums := by
    constructor <;> simp [knownSums, itemQuery, columnNamed, Statement.parts, Statement.exprs,
      SelectItem.expr?, Expr.parts, Cell.int]
  have told : IsTold knownSums := by
    have unreserved : Keyword.ofWord? "A" = none ∧ Keyword.ofWord? "B" = none := by
      decide +kernel
    constructor <;> simp [knownSums, itemQuery, columnNamed, Statement.parts, Statement.exprs,
      SelectItem.expr?, Expr.parts, Cell.int, unreserved]
  have translated : (queryText? knownSums wideSheet true).isSome = true := by
    have columnA : column? wideSheet ⟨none, "A"⟩ = some [.words "A"] := by rfl
    have columnB : column? wideSheet ⟨none, "B"⟩ = some [.words "B"] := by rfl
    simp [queryText?, knownSums, itemQuery, columnNamed, hasShape, items?, values?, predicate?,
      condition?, value?, literal?, columnA, columnB, orderKey?, labels, note?, itemNames,
      NativeText.quote?, isNullLiteral, foldsCase, Cell.int, Cell.isNull, Expr.columns]
  obtain ⟨text, translated⟩ := Option.isSome_iff_exists.mp translated
  exact ⟨_, text, parsed, plain, told, translated, parse_translated parsed plain told translated⟩

/-- A column between backticks whose code is a keyword is sent without backticks. -/
theorem keywordColumn_not_reread :
    Statement.parse "SELECT `AS`" = .ok (.select (itemQuery (columnNamed "AS"))) ∧
      (queryText? (itemQuery (columnNamed "AS")) wideSheet true).map NativeText.text =
        some "select AS" ∧
      Statement.parse "select AS" ≠ .ok (.select (itemQuery (columnNamed "AS"))) := by
  refine ⟨by rfl, by decide, ?_⟩
  have refused : (Statement.parse "select AS").toOption.isNone = true := by rfl
  intro parsed
  rw [parsed] at refused
  cases refused

end Native

end GridQuery
