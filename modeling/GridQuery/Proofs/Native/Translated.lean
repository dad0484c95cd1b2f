import GridQuery.Proofs.Native.Columns
import GridQuery.Proofs.Statement.Grammatical

/-!
# What a translated query is made of

The parts of a query that has a text in the grid's own language have their texts, each in
its clause.
-/

namespace GridQuery

/-- Whether an expression is made of columns, literals, functions and arithmetic alone. -/
def Expr.IsValue : Expr → Prop
  | literal _ => True
  | column _ => True
  | aggregate _ argument => argument.IsValue
  | changeCase _ argument => argument.IsValue
  | today => True
  | arithmetic _ left right => left.IsValue ∧ right.IsValue
  | _ => False

namespace Native

theorem isValue_of_value? {location : Location} {expr : Expr} {text : NativeText}
    (translated : value? location expr = some text) : expr.IsValue := by
  rw [value?_eq_some_iff] at translated
  induction translated with
  | column | literal | today => trivial
  | aggregate _ _ inductionHypothesis | changeCase _ _ inductionHypothesis =>
      exact inductionHypothesis
  | arithmetic operator _ _ leftHypothesis rightHypothesis =>
      exact ⟨leftHypothesis, rightHypothesis⟩

/-- A map over a list that has a result has one for each item. -/
theorem forall₂_of_mapM {Item Result : Type} {step : Item → Option Result} {items : List Item}
    {results : List Result} (done : items.mapM step = some results) :
    List.Forall₂ (fun item result => step item = some result) items results := by
  induction items generalizing results with
  | nil =>
      cases done
      exact .nil
  | cons item items inductionHypothesis =>
      simp only [List.mapM_cons, Option.bind_eq_bind, Option.bind_eq_some_iff, Option.pure_def,
        Option.some.injEq] at done
      obtain ⟨result, here, results, later, rfl⟩ := done
      exact .cons here (inductionHypothesis later)

theorem exists_of_forall₂ {Item Result : Type} {related : Item → Result → Prop}
    {items : List Item} {results : List Result} (each : List.Forall₂ related items results)
    {item : Item} (among : item ∈ items) : ∃ result ∈ results, related item result := by
  induction each with
  | nil => cases among
  | cons here _ inductionHypothesis =>
      rcases List.mem_cons.mp among with rfl | later
      · exact ⟨_, List.mem_cons_self, here⟩
      · obtain ⟨result, inResults, found⟩ := inductionHypothesis later
        exact ⟨result, List.mem_cons_of_mem _ inResults, found⟩

/-! ### Clauses -/

/-- The text of a query: that of its items and of each of its clauses. -/
theorem queryText?_eq_some_iff {query : SelectQuery} {location : Location}
    {caseSensitive : Bool} {text : NativeText} :
    queryText? query location caseSensitive = some text ↔
    hasShape query = true ∧ ∃ items filter groups pivot order labelled formatted,
      items? location query.items = some items ∧
      query.filter.toList.mapM (predicate? location caseSensitive) = some filter ∧
      query.groupBy.mapM (value? location) = some groups ∧
      query.pivot.mapM (value? location) = some pivot ∧
      query.orderBy.mapM (orderKey? location (itemNames query.items)) = some order ∧
      (labels query).mapM (note? location) = some labelled ∧
      query.formats.mapM (note? location) = some formatted ∧
      text = .words "select " :: items ++ clause " where " filter ++
        clause " group by " groups ++ clause " pivot " pivot ++ clause " order by " order ++
        clause " limit " (query.limit.toList.map fun count => [.words (Text.ofNat count)]) ++
        clause " offset "
          (if query.offset == 0 then [] else [[.words (Text.ofNat query.offset)]]) ++
        clause " label " labelled ++ clause " format " formatted := by
  constructor
  · intro translated
    simp only [queryText?, Option.bind_eq_bind] at translated
    split at translated
    · cases translated
    · next shape =>
        simp only [Option.bind_eq_some_iff, Option.pure_def, Option.some.injEq] at translated
        obtain ⟨items, onItems, filter, onFilter, groups, onGroups, pivot, onPivot, order,
          onOrder, labelled, onLabels, formatted, onFormats, rfl⟩ := translated
        exact ⟨by simpa using shape, items, filter, groups, pivot, order, labelled, formatted,
          onItems, onFilter, onGroups, onPivot, onOrder, onLabels, onFormats, rfl⟩
  · rintro ⟨shape, items, filter, groups, pivot, order, labelled, formatted, onItems, onFilter,
      onGroups, onPivot, onOrder, onLabels, onFormats, rfl⟩
    simp only [queryText?, shape, Bool.not_true, Bool.false_eq_true, if_false, onItems, onFilter,
      onGroups, onPivot, onOrder, onLabels, onFormats, Option.bind_eq_bind, Option.bind_some]
    rfl

/-- A list of items that is translated is all columns alone, or values. -/
theorem items?_eq_some {location : Location} {items : List SelectItem} {text : NativeText}
    (translated : items? location items = some text) :
    items = [.star none] ∧ text = [.words "*"] ∨
      ∃ (exprs : List Expr) (texts : List NativeText),
        items.map SelectItem.expr? = exprs.map some ∧
        List.Forall₂ (fun expr text => value? location expr = some text) exprs texts ∧
        text = NativeText.separated ", " texts := by
  unfold items? at translated
  split at translated
  · exact .inl ⟨rfl, (Option.some.inj translated).symm⟩
  · simp only [Option.bind_eq_bind, Option.bind_eq_some_iff, values?,
      Option.map_eq_some_iff] at translated
    obtain ⟨exprs, listed, texts, valued, rfl⟩ := translated
    refine .inr ⟨exprs, texts, ?_, forall₂_of_mapM valued, rfl⟩
    rw [← List.forall₂_eq_eq_eq, List.forall₂_map_left_iff, List.forall₂_map_right_iff]
    refine (forall₂_of_mapM listed).imp fun item expr => ?_
    cases item <;> exact id

/-- A key to order by uses no name of the SELECT list. -/
theorem orderKey?_eq_some {location : Location} {names : List String} {key : OrderKey}
    {text : NativeText} (translated : orderKey? location names key = some text) :
    (∀ reference ∈ key.expr.columns, reference.name ∉ names) ∧
      ∃ shown, value? location key.expr = some shown ∧
        text = shown ++ [.words (if key.descending then " desc" else " asc")] := by
  simp only [orderKey?, Option.bind_eq_bind] at translated
  split at translated
  · cases translated
  · next unnamed =>
      simp only [Option.bind_eq_some_iff, Option.pure_def, Option.some.injEq] at translated
      obtain ⟨shown, found, rfl⟩ := translated
      exact ⟨by simpa using unnamed, shown, found, rfl⟩

theorem note?_eq_some {location : Location} {entry : Expr × String} {text : NativeText}
    (translated : note? location entry = some text) :
    ∃ shown quoted, value? location entry.1 = some shown ∧
      NativeText.quote? entry.2 = some quoted ∧ text = shown ++ .words " " :: quoted := by
  simp only [note?, Option.bind_eq_bind, Option.bind_eq_some_iff, Option.pure_def,
    Option.some.injEq] at translated
  obtain ⟨shown, found, quoted, inQuotes, rfl⟩ := translated
  exact ⟨shown, quoted, found, inQuotes, rfl⟩

/-! ### Labels -/

/-- Entries with one more, unless they have one for its expression. -/
def withEntry (entries : List (Expr × String)) (entry : Expr × String) : List (Expr × String) :=
  if entries.any fun (known, _) => known.sameAs entry.1 then entries else entries ++ [entry]

/-- Names are added to entries one by one. -/
theorem foldl_named (items : List SelectItem) (entries : List (Expr × String)) :
    items.foldl (fun (entries : List (Expr × String)) item =>
      match item with
      | .expr expr (some name) =>
          if name.isEmpty || entries.any fun (known, _) => known.sameAs expr then entries
          else entries ++ [(expr, name)]
      | _ => entries) entries =
    (items.filterMap SelectItem.named?).foldl withEntry entries := by
  induction items generalizing entries with
  | nil => rfl
  | cons item items inductionHypothesis =>
      rw [List.foldl_cons, inductionHypothesis, List.filterMap_cons]
      split
      case h_1 expr name =>
        cases empty : name.isEmpty with
        | true => simp [SelectItem.named?, Option.filter, empty]
        | false =>
            simp only [SelectItem.named?, Option.filter, empty, Bool.not_false, if_true,
              Option.map_some, List.foldl_cons]
            rfl
      case h_2 other =>
        have unnamed : item.named? = none := by
          cases item with
          | star qualifier => rfl
          | expr expr aliasName =>
              cases aliasName with
              | none => rfl
              | some name => exact (other expr name rfl).elim
        rw [unnamed]

theorem labels_eq_foldl (query : SelectQuery) :
    labels query = query.named.foldl withEntry query.labels :=
  foldl_named query.items query.labels

/-- What has a label keeps it. -/
theorem subset_foldl_withEntry (entries named : List (Expr × String)) :
    entries ⊆ named.foldl withEntry entries := by
  induction named generalizing entries with
  | nil => exact List.Subset.refl entries
  | cons entry named inductionHypothesis =>
      refine List.Subset.trans ?_ (inductionHypothesis _)
      rw [withEntry]
      split
      · exact List.Subset.refl entries
      · exact List.subset_append_left entries _

theorem subset_labels (query : SelectQuery) : query.labels ⊆ labels query := by
  rw [labels_eq_foldl]
  exact subset_foldl_withEntry query.labels query.named

/-- Without names of the SELECT list there are no labels but those of LABEL. -/
theorem labels_eq {query : SelectQuery}
    (unnamed : ∀ expr name, SelectItem.expr expr (some name) ∉ query.items) :
    labels query = query.labels := by
  have noName : query.named = [] := by
    refine List.filterMap_eq_nil_iff.mpr fun item among => ?_
    cases item with
    | star qualifier => rfl
    | expr expr aliasName =>
        cases aliasName with
        | none => rfl
        | some name => exact absurd among (unnamed expr name)
  rw [labels_eq_foldl, noName]
  rfl

/-! ### Queries -/

/-- The parts of a query that is translated are such as can be translated. -/
structure Translated (query : SelectQuery) (location : Location) (caseSensitive : Bool) :
    Prop where
  distinct : query.distinct = false
  having : query.having = none
  distinctOn : query.distinctOn = []
  items : query.items = [.star none] ∨
    ∃ exprs : List Expr, query.items.map SelectItem.expr? = exprs.map some ∧
      ∀ expr ∈ exprs, ∃ text, value? location expr = some text
  filter : ∀ test ∈ query.filter, ∃ text, predicate? location caseSensitive test = some text
  groupBy : ∀ key ∈ query.groupBy, ∃ text, value? location key = some text
  pivot : ∀ key ∈ query.pivot, ∃ text, value? location key = some text
  orderBy : ∀ key ∈ query.orderBy, ∃ text, value? location key.expr = some text
  labels : ∀ entry ∈ query.labels, ∃ text, value? location entry.1 = some text
  formats : ∀ entry ∈ query.formats, ∃ text, value? location entry.1 = some text

theorem translated_of_queryText? {query : SelectQuery} {location : Location}
    {caseSensitive : Bool} {text : NativeText}
    (done : queryText? query location caseSensitive = some text) :
    Translated query location caseSensitive := by
  obtain ⟨shape, items, filter, groups, pivot, order, labelled, formatted, onItems, onFilter,
    onGroups, onPivot, onOrder, onLabels, onFormats, -⟩ := queryText?_eq_some_iff.mp done
  simp only [hasShape, Bool.and_eq_true, Bool.not_eq_true', List.isEmpty_iff,
    Option.isNone_iff_eq_none] at shape
  have each {Item : Type} {step : Item → Option NativeText} {items : List Item}
      {texts : List NativeText} (done : items.mapM step = some texts) (item : Item)
      (among : item ∈ items) : ∃ text, step item = some text := by
    obtain ⟨text, -, found⟩ := exists_of_forall₂ (forall₂_of_mapM done) among
    exact ⟨text, found⟩
  constructor
  case distinct => exact shape.1.1.2
  case having => exact shape.2
  case distinctOn => exact shape.1.2
  case items =>
    rcases items?_eq_some onItems with ⟨star, -⟩ | ⟨exprs, texts, listed, valued, -⟩
    · exact .inl star
    · refine .inr ⟨exprs, listed, fun expr among => ?_⟩
      obtain ⟨text, -, found⟩ := exists_of_forall₂ valued among
      exact ⟨text, found⟩
  case filter =>
    intro test among
    exact each onFilter test (Option.mem_toList.mpr among)
  case groupBy => exact each onGroups
  case pivot => exact each onPivot
  case orderBy =>
    intro key among
    obtain ⟨text, done⟩ := each onOrder key among
    obtain ⟨-, shown, found, -⟩ := orderKey?_eq_some done
    exact ⟨shown, found⟩
  case labels =>
    intro entry among
    obtain ⟨text, done⟩ := each onLabels entry (subset_labels query among)
    obtain ⟨shown, -, found, -⟩ := note?_eq_some done
    exact ⟨shown, found⟩
  case formats =>
    intro entry among
    obtain ⟨text, done⟩ := each onFormats entry among
    obtain ⟨shown, -, found, -⟩ := note?_eq_some done
    exact ⟨shown, found⟩

/-- All columns of a query that is translated are translated. -/
theorem Translated.column? {query : SelectQuery} {location : Location} {caseSensitive : Bool}
    (translated : Translated query location caseSensitive) :
    ∀ expr ∈ (Statement.select query).exprs, ∀ reference ∈ expr.columns,
      ∃ text, Native.column? location reference = some text := by
  have ofValue {expr : Expr} (found : ∃ text, value? location expr = some text) :
      ∀ reference ∈ expr.columns, ∃ text, Native.column? location reference = some text := by
    obtain ⟨text, found⟩ := found
    exact column?_of_value? found
  intro expr among
  simp only [Statement.exprs, translated.distinctOn, translated.having, Option.toList_none,
    List.nil_append, List.append_nil, List.mem_append, Option.mem_toList, List.mem_map,
    List.mem_filterMap] at among
  rcases among with (((((⟨item, isItem, named⟩ | isFilter) | isGroup) | isPivot) |
    ⟨key, isKey, rfl⟩) | ⟨entry, isLabel, rfl⟩) | ⟨entry, isFormat, rfl⟩
  · rcases translated.items with star | ⟨exprs, listed, valued⟩
    · rw [star] at isItem
      obtain rfl := List.mem_singleton.mp isItem
      cases named
    · have inExprs : some expr ∈ exprs.map some := by
        rw [← listed]
        exact List.mem_map.mpr ⟨item, isItem, named⟩
      obtain ⟨_, isExpr, same⟩ := List.mem_map.mp inExprs
      cases same
      exact ofValue (valued expr isExpr)
  · obtain ⟨text, found⟩ := translated.filter expr isFilter
    exact column?_of_predicate? found
  · exact ofValue (translated.groupBy expr isGroup)
  · exact ofValue (translated.pivot expr isPivot)
  · exact ofValue (translated.orderBy key isKey)
  · exact ofValue (translated.labels entry isLabel)
  · exact ofValue (translated.formats entry isFormat)

end Native

end GridQuery
