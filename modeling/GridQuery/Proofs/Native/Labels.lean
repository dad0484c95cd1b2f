import GridQuery.Proofs.Expr.Alike
import GridQuery.Proofs.Native.Overlooked
import GridQuery.Proofs.Select.Names

/-!
# Labels of a translated query

The grid's own language has labels for expressions, where a query names the columns of its
SELECT list. The translation gives an expression the text of its LABEL entry, or else the
first name that it has in the SELECT list. Evaluated directly, a query labels a column by its
name, unless a LABEL entry means the column, by its name or by its expression.

The two agree where names and LABEL entries do not tell apart what the expressions leave the
same. They differ for an expression that is shown twice under different names or with a LABEL
entry, for a LABEL entry by a name that is the code of another column, and for one by the
header of a column outside the range.
-/

namespace GridQuery

/-! ### The labels of the translation -/

namespace Native

/-- Of entries and names, the first for an expression stays. -/
theorem find?_foldl_withEntry (entries named : List (Expr × String)) (expr : Expr) :
    (named.foldl withEntry entries).find? (fun entry => entry.1.sameAs expr) =
      (entries ++ named).find? fun entry => entry.1.sameAs expr := by
  induction named generalizing entries with
  | nil => rw [List.append_nil]; rfl
  | cons entry named inductionHypothesis =>
      rw [List.foldl_cons, inductionHypothesis, withEntry]
      split_ifs with known
      · obtain ⟨earlier, among, alike⟩ := List.any_eq_true.mp known
        simp only [List.find?_append]
        cases found : entries.find? fun entry => entry.1.sameAs expr with
        | some first => rfl
        | none =>
            have unlike : ¬ entry.1.sameAs expr = true := fun same =>
              List.find?_eq_none.mp found earlier among (Expr.sameAs_trans alike same)
            simp [unlike]
      · rw [List.append_assoc, List.singleton_append]

theorem find?_labels (query : SelectQuery) (expr : Expr) :
    (labels query).find? (fun entry => entry.1.sameAs expr) =
      (query.labels ++ query.named).find? fun entry => entry.1.sameAs expr := by
  rw [labels_eq_foldl, find?_foldl_withEntry]

/-- No two labels of the translation are for expressions that are alike. -/
theorem pairwise_labels {query : SelectQuery}
    (apart : query.labels.Pairwise fun entry later => entry.1.sameAs later.1 = false) :
    (labels query).Pairwise fun entry later => entry.1.sameAs later.1 = false := by
  rw [labels_eq_foldl]
  generalize query.labels = entries at apart
  induction query.named generalizing entries with
  | nil => exact apart
  | cons entry named inductionHypothesis =>
      refine inductionHypothesis _ ?_
      rw [withEntry]
      split_ifs with known
      · exact apart
      · rw [List.pairwise_append]
        refine ⟨apart, List.pairwise_singleton _ _, fun earlier among later only => ?_⟩
        obtain rfl := List.mem_singleton.mp only
        refine Bool.eq_false_iff.mpr fun alike => known ?_
        exact List.any_eq_true.mpr ⟨earlier, among, alike⟩

end Native

/-! ### Labels of columns -/

namespace OutputColumn

variable {table : Table} {columns : List OutputColumn} {column : OutputColumn} {expr : Expr}

theorem isShown_of_sameAs (same : column.expr.sameAs expr = true) :
    column.isShown table expr = .ok true := by
  simp only [isShown, same, if_true]
  rfl

/-- A column is shown for an expression like its own, or for one that means its column. -/
theorem isShown_eq_true (shown : column.isShown table expr = .ok true) :
    column.expr.sameAs expr = true ∨ ∃ wanted reference place, expr = .column wanted ∧
      column.expr = .column reference ∧ table.resolve wanted = .ok place ∧
        table.resolve reference = .ok place := by
  unfold isShown at shown
  split_ifs at shown with same
  · exact .inl same
  · split at shown
    · next wanted reference given =>
        simp only [bind_eq_ok_iff, pure_eq_ok, Except.ok.injEq, beq_iff_eq] at shown
        obtain ⟨place, meant, other, own, rfl⟩ := shown
        exact .inr ⟨wanted, reference, place, rfl, given, meant, own⟩
    · cases shown

/-- The place of an expression is that of the first column that is shown for it. -/
theorem placeOf_eq_some {place : Nat} (found : placeOf table expr columns = .ok (some place)) :
    (∃ column, columns[place]? = some column ∧ column.isShown table expr = .ok true) ∧
      ∀ earlier < place, ∀ column, columns[earlier]? = some column →
        column.isShown table expr = .ok false := by
  induction columns generalizing place with
  | nil => cases found
  | cons first rest inductionHypothesis =>
      simp only [placeOf, bind_eq_ok_iff] at found
      obtain ⟨shown, tested, found⟩ := found
      split_ifs at found with here
      · cases found
        exact ⟨⟨first, rfl, here ▸ tested⟩, fun _ less => absurd less (Nat.not_lt_zero _)⟩
      · simp only [bind_eq_ok_iff, pure_eq_ok, Except.ok.injEq, Option.map_eq_some_iff] at found
        obtain ⟨_, later, before, rfl, rfl⟩ := found
        obtain ⟨there, missed⟩ := inductionHypothesis later
        refine ⟨there, fun earlier less column isThere => ?_⟩
        cases earlier with
        | zero =>
            cases isThere
            exact Bool.eq_false_iff.mpr here ▸ tested
        | succ earlier => exact missed earlier (Nat.lt_of_succ_lt_succ less) column isThere

/-- An entry of LABEL or FORMAT is found by its name, or by its expression. -/
theorem find_eq_ok {clause : String} {place : Nat}
    (found : find table clause columns expr = .ok place) :
    (∃ name, expr = .column ⟨none, name⟩ ∧
      columns.findIdx? (fun column => column.name == some name) = some place) ∨
    placeOf table expr columns = .ok (some place) := by
  unfold find at found
  dsimp only at found
  split at found
  · next named =>
      cases found
      split at named
      · exact .inl ⟨_, rfl, named⟩
      · cases named
  · simp only [bind_eq_ok_iff] at found
    obtain ⟨place?, searched, found⟩ := found
    cases place? with
    | none => simp at found
    | some place =>
        cases found
        exact .inr searched

end OutputColumn

/-- The columns of a query that stay as they are: those without an aggregate if it pivots. -/
def SelectQuery.standingColumns (query : SelectQuery) (columns : List OutputColumn) :
    List OutputColumn :=
  if query.pivot.isEmpty then columns else columns.filter (!·.expr.hasAggregate)

theorem SelectQuery.standingColumns_subset (query : SelectQuery) (columns : List OutputColumn) :
    query.standingColumns columns ⊆ columns := by
  rw [standingColumns]
  split_ifs
  · exact List.Subset.refl _
  · exact List.filter_subset_self columns

/-- Names and LABEL entries say nothing about columns that their expressions do not say. An
expression that is shown twice has no LABEL entry and no two names, a name by which a LABEL
entry means a column is also the column's expression, and expressions that mean one column of
the table are one. -/
structure LabelsExprs (query : SelectQuery) (table : Table) (columns : List OutputColumn) : Prop
    where
  numbers : ∀ column ∈ columns, column.name ≠ none →
    ∀ cell ∈ column.expr.literals, ¬ cell.isNaN
  once : columns.Pairwise fun column other => column.expr.sameAs other.expr = true →
    (∀ entry ∈ query.labels, entry.1.sameAs column.expr = false) ∧
      ∀ name ∈ column.name, ∀ otherName ∈ other.name, name = otherName
  byName : ∀ entry ∈ query.labels, ∀ name column, entry.1 = .column ⟨none, name⟩ →
    columns.find? (fun column => column.name == some name) = some column →
      column.expr.sameAs entry.1 = true
  byPlace : ∀ entry ∈ query.labels, ∀ column ∈ columns, ∀ wanted reference place,
    entry.1 = .column wanted → column.expr = .column reference →
      table.resolve wanted = .ok place → table.resolve reference = .ok place →
        wanted = reference

namespace LabelsExprs

variable {query : SelectQuery} {table : Table} {columns made : List OutputColumn}
  {column other : OutputColumn} {entry : Expr × String} {place otherPlace : Nat}

/-- Two columns that are alike have no LABEL entry and no two names. -/
theorem alike_of_getElem? (means : LabelsExprs query table columns)
    (found : columns[place]? = some column) (otherFound : columns[otherPlace]? = some other)
    (alike : column.expr.sameAs other.expr = true) (apart : place ≠ otherPlace) :
    (∀ entry ∈ query.labels, entry.1.sameAs column.expr = false) ∧
      ∀ name ∈ column.name, ∀ otherName ∈ other.name, name = otherName := by
  obtain ⟨bound, rfl⟩ := List.getElem?_eq_some_iff.mp found
  obtain ⟨otherBound, rfl⟩ := List.getElem?_eq_some_iff.mp otherFound
  have once := List.pairwise_iff_getElem.mp means.once
  rcases Nat.lt_or_gt_of_ne apart with before | after
  · exact once place otherPlace bound otherBound before alike
  · obtain ⟨unlabelled, names⟩ :=
      once otherPlace place otherBound bound after (Expr.sameAs_symm alike)
    refine ⟨fun entry among => Bool.eq_false_iff.mpr fun same => ?_,
      fun name own otherName others => (names otherName others name own).symm⟩
    exact Bool.eq_false_iff.mp (unlabelled entry among) (Expr.sameAs_trans same alike)

/-- A LABEL entry like two columns is like one. -/
theorem place_eq (means : LabelsExprs query table columns) (among : entry ∈ query.labels)
    (found : columns[place]? = some column) (otherFound : columns[otherPlace]? = some other)
    (alike : entry.1.sameAs column.expr = true) (otherAlike : other.expr.sameAs entry.1 = true) :
    otherPlace = place := by
  by_contra apart
  have same := Expr.sameAs_trans otherAlike alike
  have unlabelled := (means.alike_of_getElem? otherFound found same apart).1 entry among
  exact Bool.eq_false_iff.mp unlabelled (Expr.sameAs_symm otherAlike)

theorem sameAs_of_isShown (means : LabelsExprs query table columns)
    (among : entry ∈ query.labels) (inColumns : column ∈ columns)
    (shown : column.isShown table entry.1 = .ok true) : column.expr.sameAs entry.1 = true := by
  rcases OutputColumn.isShown_eq_true shown with alike | ⟨wanted, reference, place, isEntry,
    isColumn, meant, own⟩
  · exact alike
  · obtain rfl := means.byPlace entry among column inColumns wanted reference place isEntry
      isColumn meant own
    rw [isEntry, isColumn]
    exact beq_self_eq_true wanted

theorem exists_named_of_findIdx? (nameless : ∀ column ∈ made, column.name = none) {name : String}
    {landed : Nat}
    (found : (columns ++ made).findIdx? (fun column => column.name == some name) = some landed) :
    ∃ column, columns[landed]? = some column ∧
      columns.find? (fun column => column.name == some name) = some column := by
  have none : made.findIdx? (fun column => column.name == some name) = none := by
    refine List.findIdx?_eq_none_iff.mpr fun column among => ?_
    rw [nameless column among]
    rfl
  rw [List.findIdx?_append, none, Option.map_none, Option.or_none] at found
  obtain ⟨bound, named, missed⟩ := List.findIdx?_eq_some_iff_getElem.mp found
  refine ⟨columns[landed], List.getElem?_eq_getElem bound, ?_⟩
  rw [List.find?_eq_some_iff_getElem]
  exact ⟨named, landed, bound, rfl, fun earlier before => by simpa using missed earlier before⟩

/-- A LABEL entry is found at the place of a column just if it is for an expression like its
own. -/
theorem find_eq_iff (means : LabelsExprs query table columns)
    (nameless : ∀ column ∈ made, column.name = none) (among : entry ∈ query.labels)
    (found : columns[place]? = some column) {landed : Nat}
    (lands : OutputColumn.find table "LABEL" (columns ++ made) entry.1 = .ok landed) :
    landed = place ↔ entry.1.sameAs column.expr = true := by
  have standing {here : Nat} {other : OutputColumn} (isColumn : columns[here]? = some other) :
      (columns ++ made)[here]? = some other := by
    rw [List.getElem?_append_left (List.getElem?_eq_some_iff.mp isColumn).1]
    exact isColumn
  rcases OutputColumn.find_eq_ok lands with ⟨name, isName, named⟩ | searched
  · obtain ⟨other, otherFound, first⟩ := exists_named_of_findIdx? nameless named
    have otherAlike := means.byName entry among name other isName first
    constructor
    · rintro rfl
      cases found.symm.trans otherFound
      exact Expr.sameAs_symm otherAlike
    · exact fun alike => means.place_eq among found otherFound alike otherAlike
  · obtain ⟨⟨other, isThere, shown⟩, missed⟩ := OutputColumn.placeOf_eq_some searched
    constructor
    · rintro rfl
      cases (standing found).symm.trans isThere
      exact Expr.sameAs_symm
        (means.sameAs_of_isShown among (List.mem_of_getElem? found) shown)
    · intro alike
      have here : column.isShown table entry.1 = .ok true :=
        OutputColumn.isShown_of_sameAs (Expr.sameAs_symm alike)
      have notLater : ¬ place < landed := fun before => by
        cases here.symm.trans (missed place before column (standing found))
      have bound : landed < columns.length :=
        Nat.lt_of_le_of_lt (Nat.not_lt.mp notLater) (List.getElem?_eq_some_iff.mp found).1
      rw [List.getElem?_append_left bound] at isThere
      have otherAlike := means.sameAs_of_isShown among (List.mem_of_getElem? isThere) shown
      exact means.place_eq among found isThere alike otherAlike

end LabelsExprs

/-! ### Labels of a result -/

/-- Of entries that are found at a place just if they are like an expression, no two of them
alike, the one that is like it counts. -/
theorem lookup_of_notes {table : Table} {columns : List OutputColumn} {clause : String}
    {entries : List (Expr × String)} {found : List (Nat × String)}
    (noted : (entries.mapM fun (expr, text) => do
      return (← OutputColumn.find table clause columns expr, text) :
        Except ValidationError (List (Nat × String))) = .ok found)
    (apart : entries.Pairwise fun entry later => entry.1.sameAs later.1 = false) {place : Nat}
    {expr : Expr} (lands : ∀ entry ∈ entries, ∀ landed,
      OutputColumn.find table clause columns entry.1 = .ok landed →
        (landed = place ↔ entry.1.sameAs expr = true)) :
    found.reverse.lookup place =
      (entries.find? fun entry => entry.1.sameAs expr).map (·.2) := by
  induction entries generalizing found with
  | nil =>
      cases noted
      rfl
  | cons entry entries inductionHypothesis =>
      simp only [List.mapM_cons, bind_eq_ok_iff, pure_eq_ok, Except.ok.injEq] at noted
      obtain ⟨_, ⟨landed, here, rfl⟩, others, rest, rfl⟩ := noted
      obtain ⟨unlike, apart⟩ := List.pairwise_cons.mp apart
      have later := inductionHypothesis rest apart fun entry among =>
        lands entry (List.mem_cons_of_mem _ among)
      have placed := lands entry List.mem_cons_self landed here
      rw [List.reverse_cons, List.lookup_append, later]
      by_cases alike : entry.1.sameAs expr = true
      · have nothing : entries.find? (fun entry => entry.1.sameAs expr) = none :=
          List.find?_eq_none.mpr fun other among same => by
            have known := Expr.sameAs_trans alike (Expr.sameAs_symm same)
            exact Bool.eq_false_iff.mp (unlike other among) known
        simp [nothing, alike, placed.mpr alike]
      · have elsewhere : [(landed, entry.2)].lookup place = none := by
          refine List.lookup_eq_none_iff.mpr fun other only => ?_
          obtain rfl := List.mem_singleton.mp only
          exact bne_iff_ne.mpr fun same => alike (placed.mp same.symm)
        simp [alike, elsewhere]

namespace Evaluator

variable {evaluator : Evaluator} {query : SelectQuery} {table : Table}
  {columns : List OutputColumn} {shown : SelectResult}

/-- A pivot puts its columns after those that stay as they are. -/
theorem columns_of_outputOf {rows : List Row} {output : Output}
    (done : evaluator.outputOf query table columns rows = .ok output) :
    ∃ made, output.columns = query.standingColumns columns ++ made ∧
      ∀ column ∈ made, column.name = none := by
  have alone : ∃ made, columns = columns ++ made ∧
      ∀ column ∈ made, column.name = none :=
    ⟨[], (List.append_nil columns).symm, fun _ impossible => (List.not_mem_nil impossible).elim⟩
  cases pivots : query.pivot.isEmpty with
  | true =>
      have standing : query.standingColumns columns = columns := by
        simp [SelectQuery.standingColumns, pivots]
      rw [standing]
      unfold outputOf at done
      split_ifs at done
      · simp only [aggregate, pivots, if_true, bind_eq_ok_iff, pure_eq_ok, Except.ok.injEq] at done
        obtain ⟨_, -, groups, -, shown, -, rfl⟩ := done
        exact alone
      · simp at done
      · simp only [bind_eq_ok_iff, pure_eq_ok, Except.ok.injEq] at done
        obtain ⟨shown, -, rfl⟩ := done
        exact alone
  | false =>
      have grouped : query.isAggregated columns = true := by
        simp [SelectQuery.isAggregated, pivots]
      simp only [outputOf, grouped, if_true, aggregate, pivots, Bool.false_eq_true, if_false,
        bind_eq_ok_iff, pure_eq_ok, Except.ok.injEq] at done
      obtain ⟨_, -, groups, -, pivoted, -, shown, -, rfl⟩ := done
      refine ⟨_, by rw [SelectQuery.standingColumns, pivots]; rfl, fun column among => ?_⟩
      obtain ⟨_, -, rfl⟩ := List.mem_map.mp among
      rfl

/-- A column that stays as it is has the text of the LABEL entry that is found at its place,
or else its own label. -/
theorem label_of_select (shows : OutputColumn.ofItems table query.items = .ok columns)
    (done : evaluator.select query table = .ok shown) :
    ∃ made found, (∀ column ∈ made, column.name = none) ∧
      (query.labels.mapM fun (expr, text) => do
        return (← OutputColumn.find table "LABEL"
          (query.standingColumns columns ++ made) expr, text) :
          Except ValidationError (List (Nat × String))) = .ok found ∧
      ∀ place column, (query.standingColumns columns)[place]? = some column →
        (shown.columns[place]?).map (·.label) =
          some ((found.reverse.lookup place).getD column.label) := by
  simp only [select, arrange, Output.render, Output.notes, bind_eq_ok_iff,
    lift_validation_eq_ok_iff, shows, Except.ok.injEq, exists_eq_left', pure_eq_ok] at done
  obtain ⟨_, -, rows, -, output, made, _, ⟨kept, -, ordered, -, rfl⟩, _, ⟨found, noted, rfl⟩, _,
    -, cells, -, rfl⟩ := done
  obtain ⟨others, columns, nameless⟩ := columns_of_outputOf made
  rw [columns] at noted
  refine ⟨others, found, nameless, noted, fun place column isColumn => ?_⟩
  have bound := (List.getElem?_eq_some_iff.mp isColumn).1
  simp only [Output.resultColumns, columns, List.getElem?_map, List.getElem?_zipIdx,
    List.getElem?_append_left bound, isColumn, Option.map_some, Nat.zero_add]

end Evaluator

namespace Native

variable {evaluator : Evaluator} {query : SelectQuery} {table : Table}
  {columns : List OutputColumn} {column : OutputColumn} {place : Nat}

/-- Each column that has a name or a LABEL entry has, where a query is evaluated directly, the
label that the translation gives its expression. -/
def LabelsAgree (evaluator : Evaluator) (query : SelectQuery) (table : Table) : Prop :=
  ∀ columns shown, OutputColumn.ofItems table query.items = .ok columns →
    evaluator.select query table = .ok shown →
    ∀ (place : Nat) (column : OutputColumn),
      (query.standingColumns columns)[place]? = some column →
      column.name ≠ none ∨ (∃ entry ∈ query.labels, entry.1.sameAs column.expr = true) →
        ∃ entry ∈ labels query, entry.1.sameAs column.expr = true ∧
          (shown.columns[place]?).map (·.label) = some entry.2

/-- A name of an expression stays with it if the query pivots. -/
theorem exists_standing (shows : OutputColumn.ofItems table query.items = .ok columns)
    (isColumn : (query.standingColumns columns)[place]? = some column) {entry : Expr × String}
    (among : entry ∈ query.named) (alike : entry.1.sameAs column.expr = true) :
    ∃ (otherPlace : Nat) (other : OutputColumn),
      (query.standingColumns columns)[otherPlace]? = some other ∧
        other.expr = entry.1 ∧ other.name = some entry.2 := by
  rw [SelectQuery.named, ← OutputColumn.filterMap_named shows] at among
  obtain ⟨other, inColumns, isNamed⟩ := List.mem_filterMap.mp among
  obtain ⟨name, named, rfl⟩ := Option.map_eq_some_iff.mp isNamed
  have stands : other ∈ query.standingColumns columns := by
    have inStanding := List.mem_of_getElem? isColumn
    unfold SelectQuery.standingColumns at inStanding ⊢
    split_ifs at inStanding ⊢
    · exact inColumns
    · rw [List.mem_filter] at inStanding ⊢
      rw [Expr.hasAggregate_of_sameAs alike]
      exact ⟨inColumns, inStanding.2⟩
  obtain ⟨otherPlace, found⟩ := List.getElem?_of_mem stands
  exact ⟨otherPlace, other, found, rfl, named⟩

theorem labelsAgree_of_labelsExprs
    (apart : query.labels.Pairwise fun entry later => entry.1.sameAs later.1 = false)
    (means : ∀ columns, OutputColumn.ofItems table query.items = .ok columns →
      LabelsExprs query table (query.standingColumns columns)) :
    LabelsAgree evaluator query table := by
  intro columns shown shows done place column isColumn given
  have means := means columns shows
  have inStanding := List.mem_of_getElem? isColumn
  obtain ⟨made, found, nameless, noted, labelled⟩ := Evaluator.label_of_select shows done
  have lookup := lookup_of_notes noted apart fun entry among landed lands =>
    means.find_eq_iff nameless among isColumn lands
  have label := labelled place column isColumn
  rw [lookup] at label
  have first := find?_labels query column.expr
  rw [List.find?_append] at first
  cases byEntry : query.labels.find? fun entry => entry.1.sameAs column.expr with
  | some entry =>
      rw [byEntry, Option.some_or] at first
      rw [byEntry, Option.map_some, Option.getD_some] at label
      have alike := List.find?_some first
      exact ⟨entry, List.mem_of_find?_eq_some first, alike, label⟩
  | none =>
      rw [byEntry, Option.none_or] at first
      rw [byEntry, Option.map_none, Option.getD_none] at label
      have named : column.name ≠ none := given.resolve_right fun ⟨entry, among, alike⟩ =>
        List.find?_eq_none.mp byEntry entry among alike
      obtain ⟨name, isName⟩ := Option.ne_none_iff_exists'.mp named
      have inColumns := query.standingColumns_subset columns inStanding
      have ownLabel := (OutputColumn.label_place_of_name shows inColumns isName).1
      have ownEntry : (column.expr, name) ∈ query.named := by
        rw [SelectQuery.named, ← OutputColumn.filterMap_named shows]
        exact List.mem_filterMap.mpr ⟨column, inColumns, by rw [OutputColumn.named?, isName]; rfl⟩
      cases byName : query.named.find? fun entry => entry.1.sameAs column.expr with
      | none =>
          have self := Expr.sameAs_self (means.numbers column inStanding named)
          exact absurd self (List.find?_eq_none.mp byName _ ownEntry)
      | some entry =>
          rw [byName] at first
          have alike := List.find?_some byName
          refine ⟨entry, List.mem_of_find?_eq_some first, alike, ?_⟩
          obtain ⟨otherPlace, other, isOther, same, otherName⟩ :=
            exists_standing shows isColumn (List.mem_of_find?_eq_some byName) alike
          have one : entry.2 = name := by
            by_cases here : otherPlace = place
            · subst here
              cases isOther.symm.trans isColumn
              exact Option.some.inj (otherName.symm.trans isName)
            · rw [← same] at alike
              exact (means.alike_of_getElem? isOther isColumn alike here).2 _ otherName _ isName
          rw [label, ownLabel, one]

/-- Where names and LABEL entries tell no more than the expressions, the text of a query has
one label for each expression that has a name or a LABEL entry, and its columns have these
labels where it is evaluated directly. -/
theorem labels_of_queryText? {location : Location} {caseSensitive : Bool} {text : NativeText}
    (translated : queryText? query location caseSensitive = some text)
    (apart : query.labels.Pairwise fun entry later => entry.1.sameAs later.1 = false)
    (means : ∀ columns, OutputColumn.ofItems table query.items = .ok columns →
      LabelsExprs query table (query.standingColumns columns)) :
    (∃ before rendered after, text = before ++ clause " label " rendered ++ after ∧
      List.Forall₂ (fun entry note => note? location entry = some note) (labels query) rendered) ∧
    (labels query).Pairwise (fun entry later => entry.1.sameAs later.1 = false) ∧
    LabelsAgree evaluator query table := by
  obtain ⟨-, items, filter, groups, pivot, order, rendered, formatted, -, -, -, -, -, onLabels, -,
    rfl⟩ := queryText?_eq_some_iff.mp translated
  exact ⟨⟨_, rendered, _, rfl, forall₂_of_mapM onLabels⟩, pairwise_labels apart,
    labelsAgree_of_labelsExprs apart means⟩

/-! ### Columns that are named -/

open Evaluator (groupQuery named morning)

def fourColumnTable : Table where
  columns := [⟨"A", "", .string, none, false⟩, ⟨"B", "", .string, none, false⟩,
    ⟨"C", "", .string, none, false⟩, ⟨"D", "", .string, none, false⟩]
  rows := []
  source := .grid fourColumns
  aliasName := none
  joined := false
  header := [.text "", .text "", .text "", .text ""]

theorem fourColumnTable_made : emptyFourColumns = .ok fourColumnTable := by
  cbv

/-- One column under a name, and another with a LABEL entry. -/
def labelledQuery : SelectQuery :=
  { groupQuery [.expr (named "A") (some "item"), .expr (named "B") none] [] with
    labels := [(named "B", "Price")] }

def labelledColumns : List OutputColumn :=
  [⟨named "A", "A", "item", some "item", none⟩, ⟨named "B", "B", "B", none, none⟩]

theorem labelledQuery_labelsExprs :
    LabelsExprs labelledQuery fourColumnTable labelledColumns := by
  constructor
  case numbers =>
    intro column among _ cell held
    simp only [labelledColumns, List.mem_cons, List.not_mem_nil, or_false] at among
    rcases among with rfl | rfl <;> exact (List.not_mem_nil held).elim
  case once =>
    rw [labelledColumns, List.pairwise_pair]
    intro alike
    exact absurd alike (by decide)
  case byName =>
    intro entry among name column isName first
    obtain rfl := List.mem_singleton.mp among
    cases isName
    cases first
  case byPlace =>
    intro entry among column inColumns wanted reference place isEntry isColumn meant own
    obtain rfl := List.mem_singleton.mp among
    cases isEntry
    simp only [labelledColumns, List.mem_cons, List.not_mem_nil, or_false] at inColumns
    rcases inColumns with rfl | rfl
    · cases isColumn
      have here : fourColumnTable.resolve ⟨none, "A"⟩ = .ok 0 := by decide
      have there : fourColumnTable.resolve ⟨none, "B"⟩ = .ok 1 := by decide
      cases there.symm.trans meant
      cases here.symm.trans own
    · cases isColumn
      rfl

theorem column?_fourColumns : column? fourColumns ⟨none, "A"⟩ = some [.words "A"] ∧
    column? fourColumns ⟨none, "B"⟩ = some [.words "B"] :=
  ⟨rfl, rfl⟩

theorem labelledQuery_labels :
    queryText? labelledQuery fourColumns false = some [.words "select ", .words "A", .words ", ",
        .words "B", .words " label ", .words "B", .words " ", .quoted '"' "Price", .words ", ",
        .words "A", .words " ", .quoted '"' "item"] ∧
      labels labelledQuery = [(named "B", "Price"), (named "A", "item")] ∧
      LabelsAgree morning labelledQuery fourColumnTable := by
  have translated : queryText? labelledQuery fourColumns false = some [.words "select ",
      .words "A", .words ", ", .words "B", .words " label ", .words "B", .words " ",
      .quoted '"' "Price", .words ", ", .words "A", .words " ", .quoted '"' "item"] := by
    simp [queryText?, labelledQuery, groupQuery, named, hasShape, items?, values?, value?, labels,
      note?, itemNames, Expr.sameAs, NativeText.separated, NativeText.quote?, clause,
      column?_fourColumns]
  have shows : OutputColumn.ofItems fourColumnTable labelledQuery.items =
      .ok labelledColumns := by
    cbv
  refine ⟨translated, by decide, ?_⟩
  refine (labels_of_queryText? translated (List.pairwise_singleton _ _) fun columns given => ?_).2.2
  cases shows.symm.trans given
  exact labelledQuery_labelsExprs

/-- One column under two names. -/
def twiceNamed : SelectQuery :=
  groupQuery [.expr (named "A") (some "x"), .expr (named "A") (some "y")] []

/-- The text of the query has the first name as the label of both columns; evaluated directly
the second column has the second name. -/
theorem twiceNamed_not_labelsAgree :
    queryText? twiceNamed fourColumns false = some [.words "select ", .words "A", .words ", ",
        .words "A", .words " label ", .words "A", .words " ", .quoted '"' "x"] ∧
      twiceNamed.labels = [] ∧ emptyFourColumns = .ok fourColumnTable ∧
      ¬ LabelsAgree morning twiceNamed fourColumnTable := by
  have translated : queryText? twiceNamed fourColumns false = some [.words "select ", .words "A",
      .words ", ", .words "A", .words " label ", .words "A", .words " ", .quoted '"' "x"] := by
    simp [queryText?, twiceNamed, groupQuery, named, hasShape, items?, values?, value?, labels,
      note?, itemNames, Expr.sameAs, NativeText.separated, NativeText.quote?, clause,
      column?_fourColumns]
  refine ⟨translated, rfl, fourColumnTable_made, fun agree => ?_⟩
  have shows : OutputColumn.ofItems fourColumnTable twiceNamed.items =
      .ok [⟨named "A", "A", "x", some "x", none⟩, ⟨named "A", "A", "y", some "y", none⟩] := by
    cbv
  have done : morning.select twiceNamed fourColumnTable =
      .ok ⟨[⟨"A", "x", .string, none⟩, ⟨"A", "y", .string, none⟩], [], .null⟩ := by
    cbv
  obtain ⟨entry, among, -, label⟩ := agree _ _ shows done 1 _ rfl (.inl (Option.some_ne_none _))
  have only : labels twiceNamed = [(named "A", "x")] := by decide
  rw [only, List.mem_singleton] at among
  rw [among] at label
  exact absurd (Option.some.inj label) (by decide)

end Native

end GridQuery
