import GridQuery.Proofs.Select.Grouped
import GridQuery.Proofs.Select.Star
import GridQuery.Proofs.Table.Built
import Mathlib.Data.List.Pairwise

/-!
# The columns of SELECT *

A query for all columns takes the cells of a column by its place, but its id and label by a
reference made anew of the column's id and, in a joined table, of the name of the table that
it comes from. The reference may mean another column. So the rows are always those of the
table, and the columns have their own names just if for each of them the first column that
its reference means has the same label.
-/

namespace GridQuery

theorem Text.lower_ne_empty {text : String} (full : text.isEmpty = false) :
    Text.lower text ≠ "" := by
  intro empty
  have characters : lowerAfter [] text.toList = [] := by
    have lists := congrArg String.toList empty
    rwa [lower, String.toList_ofList] at lists
  cases shape : text.toList with
  | nil =>
      rw [String.toList_eq_nil_iff] at shape
      rw [shape] at full
      cases full
  | cons character rest =>
      rw [shape, lowerAfter, List.append_eq_nil_iff] at characters
      have lowered := characters.1
      split at lowered
      · cases lowered
      · split at lowered <;> cases lowered

theorem Column.belongsTo_empty (column : Column) : column.belongsTo "" = false := by
  rw [belongsTo]
  split
  · next owner _ =>
      cases full : owner.isEmpty with
      | true => rfl
      | false =>
          have other : Text.lower owner ≠ Text.lower "" := Text.lower_ne_empty full
          simp [other]
  · rfl

theorem Column.belongsTo_of_aliasName {column : Column} {owner : String}
    (owned : column.aliasName = some owner) (full : owner.isEmpty = false) :
    column.belongsTo owner = true := by
  simp [belongsTo, owned, full]

namespace Table

variable {table : Table} {column : Column}

/-- The reference by which SELECT * finds the names of a column. -/
def selfReference (table : Table) (column : Column) : ColumnRef :=
  ⟨if table.joined then column.aliasName else none, column.id⟩

/-- Whether another column has the id of a column, and the name of its table too if the
reference to it tells one. -/
def answersFor (table : Table) (column other : Column) : Bool :=
  other.id == column.id && (table.selfReference column).qualifier.all other.belongsTo

/-- The columns that the reference to a column may mean are of one table, and the first of
them has the label of the column. -/
def NamedAsItself (table : Table) (column : Column) : Prop :=
  ∃ first rest, table.columns.filter (table.answersFor column) = first :: rest ∧
    (∀ other ∈ rest, other.aliasName = first.aliasName) ∧
    table.outputLabel first = table.outputLabel column

/-! ### What the reference to a column means -/

theorem filter_answersFor_of_unqualified
    (unqualified : (table.selfReference column).qualifier = none) :
    table.places.filter (fun (other, _) => table.answersFor column other) =
      table.places.filter fun (other, _) => other.id == column.id := by
  refine List.filter_congr fun pair _ => ?_
  simp [answersFor, unqualified]

theorem filter_answersFor_of_qualified {owner : String}
    (qualified : (table.selfReference column).qualifier = some owner) :
    table.places.filter (fun (other, _) => table.answersFor column other) =
      (table.places.filter fun (other, _) => other.belongsTo owner).filter
        fun (other, _) => other.id == column.id := by
  rw [List.filter_filter]
  refine List.filter_congr fun pair _ => ?_
  simp [answersFor, qualified]

/-- The columns that the reference to a column leaves are those that answer for it. -/
theorem firstHits_selfReference (among : column ∈ table.columns)
    {found : List (Column × Nat)}
    (sought : table.candidates (table.selfReference column) = .ok found) :
    firstHits (nameTests column.id) found =
      table.places.filter fun (other, _) => table.answersFor column other := by
  obtain ⟨place, inPlaces⟩ := mem_places_of_mem among
  rw [candidates] at sought
  cases qualifier : (table.selfReference column).qualifier with
  | none =>
      simp only [qualifier, Except.ok.injEq] at sought
      rw [filter_answersFor_of_unqualified qualifier, ← sought]
      exact firstHits_of_mem inPlaces rfl
  | some owner =>
      simp only [qualifier] at sought
      split at sought
      · cases sought
      · next owned =>
          obtain rfl := Except.ok.inj sought
          have own : column.aliasName = some owner := by
            rw [selfReference] at qualifier
            split at qualifier
            · exact qualifier
            · cases qualifier
          have full : owner.isEmpty = false := by
            cases empty : owner.isEmpty with
            | false => rfl
            | true =>
                rw [String.isEmpty_iff] at empty
                refine absurd (List.filter_eq_nil_iff.mpr fun pair _ => ?_) owned
                rw [empty, Column.belongsTo_empty]
                exact Bool.false_ne_true
          rw [filter_answersFor_of_qualified qualifier]
          refine firstHits_of_mem (List.mem_filter.mpr ⟨inPlaces, ?_⟩) rfl
          exact Column.belongsTo_of_aliasName own full

/-- The reference to a column means the first of the columns that answer for it, if they
are all of one table. -/
theorem resolve_selfReference_eq_ok (among : column ∈ table.columns) {place : Nat} :
    table.resolve (table.selfReference column) = .ok place ↔
      ∃ first rest, table.places.filter (fun (other, _) => table.answersFor column other) =
          (first, place) :: rest ∧ ∀ other ∈ rest, other.1.aliasName = first.aliasName := by
  cases sought : table.candidates (table.selfReference column) with
  | error cause =>
      constructor
      · intro done
        simp [resolve, sought] at done
      · rintro ⟨first, rest, hits, -⟩
        have unowned := sought
        rw [candidates] at unowned
        cases qualifier : (table.selfReference column).qualifier with
        | none => simp [qualifier] at unowned
        | some owner =>
            simp only [qualifier] at unowned
            split at unowned
            · next none =>
                rw [filter_answersFor_of_qualified qualifier, none] at hits
                cases hits
            · cases unowned
  | ok found =>
      have left := firstHits_selfReference among sought
      simp only [resolve, sought, bind_eq_ok_iff, Except.ok.injEq, exists_eq_left']
      rw [show (table.selfReference column).name = column.id from rfl, left]
      cases table.places.filter fun (other, _) => table.answersFor column other with
      | nil => simp
      | cons pair rest =>
          obtain ⟨first, start⟩ := pair
          by_cases agree : ∀ other ∈ rest, other.1.aliasName = first.aliasName
          · have passes : (rest.all fun (other, _) => other.aliasName == first.aliasName) = true :=
              List.all_eq_true.mpr fun other membership => beq_iff_eq.mpr (agree other membership)
            simp only [passes, if_true, pure_eq_ok, Except.ok.injEq]
            constructor
            · rintro rfl
              exact ⟨first, rest, rfl, agree⟩
            · rintro ⟨_, _, same, -⟩
              cases same
              rfl
          · have fails : (rest.all fun (other, _) => other.aliasName == first.aliasName) = false :=
              Bool.eq_false_iff.mpr fun passes => agree fun other membership =>
                beq_iff_eq.mp (List.all_eq_true.mp passes other membership)
            simp only [fails, Bool.false_eq_true, if_false, throw_ne_ok, false_iff]
            rintro ⟨_, _, same, agree'⟩
            cases same
            exact agree agree'

/-- The column that the reference to a column means. -/
theorem getElem?_of_resolve_selfReference (among : column ∈ table.columns) {place : Nat}
    (done : table.resolve (table.selfReference column) = .ok place) :
    ∃ first rest, table.columns.filter (table.answersFor column) = first :: rest ∧
      (∀ other ∈ rest, other.aliasName = first.aliasName) ∧
      table.columns[place]? = some first := by
  obtain ⟨first, rest, hits, agree⟩ := (resolve_selfReference_eq_ok among).mp done
  have columns : table.columns.filter (table.answersFor column) =
      first :: rest.map Prod.fst := by
    have firsts := congrArg (List.map Prod.fst) hits
    rw [← List.zipIdx_map_fst 0 table.columns, List.filter_map]
    exact firsts
  refine ⟨first, rest.map Prod.fst, columns, ?_, ?_⟩
  · intro other membership
    obtain ⟨pair, inRest, rfl⟩ := List.mem_map.mp membership
    exact agree pair inRest
  · have hit : (first, place) ∈ table.places.filter fun (other, _) =>
        table.answersFor column other := by
      rw [hits]
      exact List.mem_cons_self
    exact List.mem_zipIdx_iff_getElem?.mp (List.mem_filter.mp hit).1

/-- The reference to a column means one, if the columns that answer for it are there and
all of one table. -/
theorem resolve_selfReference_of_filter (among : column ∈ table.columns) {first : Column}
    {rest : List Column}
    (hits : table.columns.filter (table.answersFor column) = first :: rest)
    (agree : ∀ other ∈ rest, other.aliasName = first.aliasName) :
    ∃ place, table.resolve (table.selfReference column) = .ok place := by
  have firsts : (table.places.filter fun (other, _) => table.answersFor column other).map
      Prod.fst = first :: rest := by
    rw [← hits]
    conv_rhs => rw [← List.zipIdx_map_fst 0 table.columns, List.filter_map]
    rfl
  obtain ⟨⟨_, place⟩, others, here, rfl, rfl⟩ := List.map_eq_cons_iff.mp firsts
  refine ⟨place, (resolve_selfReference_eq_ok among).mpr ⟨_, others, here, ?_⟩⟩
  intro other membership
  exact agree other.1 (List.mem_map_of_mem membership)

/-- A column that any column answers for answers for itself. -/
theorem answersFor_self {other : Column} (answers : table.answersFor column other = true) :
    table.answersFor column column = true := by
  rw [answersFor, Bool.and_eq_true] at answers ⊢
  refine ⟨beq_self_eq_true column.id, ?_⟩
  have named := answers.2
  cases qualifier : (table.selfReference column).qualifier with
  | none => rfl
  | some owner =>
      rw [qualifier, Option.all_some] at named
      have own : column.aliasName = some owner := by
        rw [selfReference] at qualifier
        split at qualifier
        · exact qualifier
        · cases qualifier
      rw [Option.all_some]
      refine Column.belongsTo_of_aliasName own ?_
      by_contra empty
      rw [Bool.not_eq_false, String.isEmpty_iff] at empty
      rw [empty, Column.belongsTo_empty] at named
      cases named

/-- The column that answers first for another has its id and comes from its table. -/
theorem outputId_eq_of_filter (among : column ∈ table.columns) {first : Column}
    {rest : List Column}
    (hits : table.columns.filter (table.answersFor column) = first :: rest)
    (agree : ∀ other ∈ rest, other.aliasName = first.aliasName) :
    table.outputId first = table.outputId column := by
  have answers : first ∈ table.columns.filter (table.answersFor column) := by
    rw [hits]
    exact List.mem_cons_self
  have answering := (List.mem_filter.mp answers).2
  have ids : first.id = column.id := by
    rw [answersFor, Bool.and_eq_true] at answering
    exact beq_iff_eq.mp answering.1
  have itself : column ∈ first :: rest := by
    rw [← hits]
    exact List.mem_filter.mpr ⟨among, answersFor_self answering⟩
  have owners : column.aliasName = first.aliasName := by
    rcases List.mem_cons.mp itself with rfl | later
    · rfl
    · exact agree column later
  rw [outputId, outputId, Column.qualifiedId, Column.qualifiedId, owners, ids]

end Table

/-! ### The columns of the result -/

/-- A column as SELECT * is to show it. -/
def OutputColumn.asItself (table : Table) (column : Column) (place : Nat) : OutputColumn :=
  ⟨.column (table.selfReference column), table.outputId column, table.outputLabel column, none,
    some place⟩

namespace OutputColumn

variable {table : Table} {column : Column} {place : Nat}

theorem columnText_eq_ok_iff {naming : Naming} {reference : ColumnRef} {name : String} :
    naming.columnText table reference = .ok name ↔
      ∃ meant first, table.resolve reference = .ok meant ∧
        table.columns[meant]? = some first ∧
        name = match naming with
          | .id => table.outputId first
          | .label => table.outputLabel first := by
  rw [Naming.columnText, bind_eq_ok_iff]
  refine exists_congr fun meant => ?_
  constructor
  · rintro ⟨found, done⟩
    have within := Table.resolve_lt found
    rw [List.getElem?_eq_getElem within] at done ⊢
    refine ⟨_, found, rfl, ?_⟩
    cases naming <;> exact (Except.ok.inj done).symm
  · rintro ⟨first, found, here, rfl⟩
    refine ⟨found, ?_⟩
    rw [here]
    cases naming <;> rfl

theorem ofPlace_eq_ok_iff {shown : OutputColumn} :
    ofPlace table column place = .ok shown ↔
      ∃ meant first, table.resolve (table.selfReference column) = .ok meant ∧
        table.columns[meant]? = some first ∧
        shown = ⟨.column (table.selfReference column), table.outputId first,
          table.outputLabel first, none, some place⟩ := by
  simp only [ofPlace, bind_eq_ok_iff, lift_validation_eq_ok_iff, pure_eq_ok, Except.ok.injEq]
  constructor
  · rintro ⟨id, ofId, label, ofLabel, rfl⟩
    obtain ⟨meant, first, found, here, rfl⟩ := columnText_eq_ok_iff.mp ofId
    obtain ⟨other, second, again, there, rfl⟩ := columnText_eq_ok_iff.mp ofLabel
    cases found.symm.trans again
    cases here.symm.trans there
    exact ⟨meant, first, found, here, rfl⟩
  · rintro ⟨meant, first, found, here, rfl⟩
    exact ⟨_, columnText_eq_ok_iff.mpr ⟨meant, first, found, here, rfl⟩, _,
      columnText_eq_ok_iff.mpr ⟨meant, first, found, here, rfl⟩, rfl⟩

theorem ofPlace_of_namedAsItself (among : column ∈ table.columns)
    (named : table.NamedAsItself column) :
    ofPlace table column place = .ok (asItself table column place) := by
  obtain ⟨first, rest, hits, agree, labels⟩ := named
  obtain ⟨meant, found⟩ := Table.resolve_selfReference_of_filter among hits agree
  obtain ⟨found', rest', hits', -, here⟩ := Table.getElem?_of_resolve_selfReference among found
  cases hits.symm.trans hits'
  refine ofPlace_eq_ok_iff.mpr ⟨meant, first, found, here, ?_⟩
  rw [asItself, labels, Table.outputId_eq_of_filter among hits agree]

theorem namedAsItself_of_ofPlace (among : column ∈ table.columns) {shown : OutputColumn}
    (done : ofPlace table column place = .ok shown)
    (labels : shown.label = table.outputLabel column) : table.NamedAsItself column := by
  obtain ⟨meant, first, found, here, rfl⟩ := ofPlace_eq_ok_iff.mp done
  obtain ⟨other, rest, hits, agree, there⟩ :=
    Table.getElem?_of_resolve_selfReference among found
  cases here.symm.trans there
  exact ⟨first, rest, hits, agree, labels⟩

theorem ofItems_star_eq_ok_iff {columns : List OutputColumn} :
    ofItems table [.star none] = .ok columns ↔
      table.columns ≠ [] ∧
        (table.places.mapM fun (column, place) => ofPlace table column place) = .ok columns := by
  have empty : table.places.isEmpty = true ↔ table.columns = [] := by
    rw [Table.places, List.isEmpty_iff, List.zipIdx_eq_nil_iff]
  simp only [ofItems, List.mapM_cons, List.mapM_nil, ofItem, bind_eq_ok_iff, pure_eq_ok,
    Except.ok.injEq]
  constructor
  · rintro ⟨_, ⟨shown, shows, _, rfl, rfl⟩, rfl⟩
    split at shows
    · simp at shows
    · next some =>
        refine ⟨fun none => some (empty.mpr none), ?_⟩
        simpa using shows
  · rintro ⟨some, shows⟩
    refine ⟨[columns], ⟨columns, ?_, [], rfl, rfl⟩, by simp⟩
    have full : ¬ table.places.isEmpty = true := fun none => some (empty.mp none)
    simpa [full] using shows

end OutputColumn

/-! ### The result -/

/-- A query for all columns and rows of tables. -/
def allQuery (source : Option TableRef) (joins : List JoinClause) : SelectQuery :=
  { starQuery source none [] none with joins }

namespace Evaluator

variable {evaluator : Evaluator} {table : Table} {source : Option TableRef}
  {joins : List JoinClause}

/-- SELECT * shows all columns of a table under their own names, and all its rows. -/
def ShowsItself (evaluator : Evaluator) (source : Option TableRef) (joins : List JoinClause)
    (table : Table) : Prop :=
  ∃ shown, evaluator.select (allQuery source joins) table = .ok shown ∧
    shown.columns.map (fun column => (column.id, column.label)) =
      table.columns.map (fun column => (table.outputId column, table.outputLabel column)) ∧
    shown.rows.map (·.map (·.value)) = table.rows.map (·.cells)

theorem check_allQuery {columns : List OutputColumn} {width : Nat}
    (shows : ShowsPlaces width columns) :
    (allQuery source joins).check table columns = .ok () := by
  have placed : columns.filter (·.place.isNone) = [] := by
    refine List.filter_eq_nil_iff.mpr fun column membership => ?_
    have among : column.place ∈ columns.map (·.place) := List.mem_map_of_mem membership
    rw [shows.1] at among
    obtain ⟨place, -, same⟩ := List.mem_map.mp among
    rw [← same]
    exact Bool.false_ne_true
  simp only [SelectQuery.check, placed]
  rfl

/-- SELECT * of a table has a result once its columns have names. -/
theorem select_allQuery (evaluator : Evaluator) (source : Option TableRef)
    (joins : List JoinClause) (full : table.IsFull) {columns : List OutputColumn}
    (shows : OutputColumn.ofItems table [.star none] = .ok columns) :
    ∃ shown, evaluator.select (allQuery source joins) table = .ok shown ∧
      shown.columns.map (fun column => (column.id, column.label)) =
        columns.map (fun column => (column.id, column.label)) ∧
      shown.rows.map (·.map (·.value)) = table.rows.map (·.cells) := by
  have places := showsPlaces_of_ofItems shows
  have made : evaluator.outputOf (starQuery source none [] none) table columns table.rows =
      .ok ⟨columns, table.rows.map (outputRow table)⟩ :=
    outputOf_star (fun _ membership => by cases membership) places full
  have arranged : evaluator.arrange (starQuery source none [] none)
      ⟨columns, table.rows.map (outputRow table)⟩ =
        .ok ⟨columns, table.rows.map (outputRow table)⟩ :=
    (arrange_star table.rows).trans rfl
  obtain ⟨result, rendered, names, rows⟩ :=
    render_plain ⟨columns, table.rows.map (outputRow table)⟩ table
  refine ⟨result, ?_, names, ?_⟩
  · simp only [select, bind_eq_ok_iff, lift_validation_eq_ok_iff]
    exact ⟨columns, shows, (), check_allQuery places, table.rows, rfl, _, made, _, arranged,
      rendered⟩
  · rw [rows, List.map_map]
    rfl

theorem ofItems_of_select {shown : SelectResult}
    (done : evaluator.select (allQuery source joins) table = .ok shown) :
    ∃ columns, OutputColumn.ofItems table [.star none] = .ok columns := by
  simp only [select, bind_eq_ok_iff] at done
  obtain ⟨columns, shows, -⟩ := done
  exact ⟨columns, shows⟩

/-- Whenever SELECT * has a result, it has all columns and rows of the table. -/
theorem shown_of_select (full : table.IsFull) {shown : SelectResult}
    (done : evaluator.select (allQuery source joins) table = .ok shown) :
    shown.columns.length = table.columns.length ∧
      shown.rows.map (·.map (·.value)) = table.rows.map (·.cells) := by
  obtain ⟨columns, shows⟩ := ofItems_of_select done
  obtain ⟨other, again, names, rows⟩ :=
    select_allQuery evaluator source joins full shows
  cases done.symm.trans again
  refine ⟨?_, rows⟩
  have sizes := congrArg List.length names
  have counted := length_of_mapM_eq_ok (OutputColumn.ofItems_star_eq_ok_iff.mp shows).2
  rw [List.length_map, List.length_map, counted, Table.places, List.length_zipIdx] at sizes
  exact sizes

/-- SELECT * shows a table as it is just if each of its columns is named as itself. -/
theorem showsItself_iff (full : table.IsFull) (some : table.columns ≠ []) :
    evaluator.ShowsItself source joins table ↔
      ∀ column ∈ table.columns, table.NamedAsItself column := by
  constructor
  · rintro ⟨shown, done, names, -⟩ column among
    obtain ⟨columns, shows⟩ := ofItems_of_select done
    obtain ⟨other, again, same, -⟩ :=
      select_allQuery evaluator source joins full shows
    cases done.symm.trans again
    have : Inhabited OutputColumn := ⟨⟨.countRows, "", "", none, none⟩⟩
    obtain ⟨each, rfl⟩ := mapM_eq_ok default (OutputColumn.ofItems_star_eq_ok_iff.mp shows).2
    obtain ⟨place, inPlaces⟩ := Table.mem_places_of_mem among
    have named := names.symm.trans same
    rw [← List.zipIdx_map_fst 0 table.columns, List.map_map, List.map_map] at named
    have own := congrArg Prod.snd (List.map_inj_left.mp named _ inPlaces)
    exact OutputColumn.namedAsItself_of_ofPlace among (each _ inPlaces) own.symm
  · intro named
    have shows : OutputColumn.ofItems table [.star none] =
        .ok (table.places.map fun (column, place) =>
          OutputColumn.asItself table column place) := by
      refine OutputColumn.ofItems_star_eq_ok_iff.mpr ⟨some, ?_⟩
      refine mapM_eq_ok_of_forall fun pair membership => ?_
      have among : pair.1 ∈ table.columns := List.fst_mem_of_mem_zipIdx membership
      exact OutputColumn.ofPlace_of_namedAsItself among (named pair.1 among)
    obtain ⟨shown, done, names, rows⟩ :=
      select_allQuery evaluator source joins full shows
    refine ⟨shown, done, names.trans ?_, rows⟩
    conv_rhs => rw [← List.zipIdx_map_fst 0 table.columns, List.map_map]
    rw [List.map_map]
    rfl

end Evaluator

/-! ### Tables whose columns are named as themselves -/

namespace Table

variable {table : Table}

/-- It is enough that the columns that answer for a column have the names that it has. -/
theorem namedAsItself_of_forall {column : Column} (among : column ∈ table.columns)
    (answers : table.answersFor column column = true)
    (same : ∀ other ∈ table.columns, table.answersFor column other = true →
      other.aliasName = column.aliasName ∧ other.label = column.label) :
    table.NamedAsItself column := by
  cases hits : table.columns.filter (table.answersFor column) with
  | nil => exact absurd answers (List.filter_eq_nil_iff.mp hits column among)
  | cons first rest =>
      have each (other : Column) (membership : other ∈ first :: rest) :
          other.aliasName = column.aliasName ∧ other.label = column.label := by
        rw [← hits, List.mem_filter] at membership
        exact same other membership.1 membership.2
      have own := each first List.mem_cons_self
      have agree (other : Column) (membership : other ∈ rest) :
          other.aliasName = first.aliasName :=
        (each other (List.mem_cons_of_mem first membership)).1.trans own.1.symm
      refine ⟨first, rest, hits, agree, ?_⟩
      rw [outputLabel, outputLabel, outputId_eq_of_filter among hits agree, own.1, own.2]

/-- The columns of a table that is not joined are named as themselves, whatever headers
are repeated in it. -/
theorem namedAsItself_of_isSingle (single : table.IsSingle) :
    ∀ column ∈ table.columns, table.NamedAsItself column := by
  intro column among
  obtain ⟨owner, owned⟩ := single.owned
  have unqualified : (table.selfReference column).qualifier = none := by
    rw [selfReference, single.unjoined]
    rfl
  refine namedAsItself_of_forall among ?_ fun other inTable answers => ⟨?_, ?_⟩
  · simp [answersFor, unqualified]
  · rw [owned column among, owned other inTable]
  · rw [answersFor, Bool.and_eq_true] at answers
    exact single.labelled other inTable column among (beq_iff_eq.mp answers.1)

/-- No column of one table has the name of a table, in any case, that one of the other has. -/
def Apart (left right : Table) : Prop :=
  ∀ column ∈ left.columns, ∀ other ∈ right.columns,
    column.aliasName.map Text.lower ≠ other.aliasName.map Text.lower

instance : Std.Symm Apart where
  symm _ _ apart := fun other inRight column inLeft same =>
    apart column inLeft other inRight same.symm

/-- The columns of tables joined under names that are apart are named as themselves. -/
theorem namedAsItself_of_apart {sources : List Table}
    (single : ∀ source ∈ sources, source.IsSingle)
    (columns : table.columns = sources.flatMap (·.columns)) (joined : table.joined = true)
    (called : ∀ column ∈ table.columns,
      ∃ owner, column.aliasName = some owner ∧ owner.isEmpty = false)
    (apart : sources.Pairwise Apart) :
    ∀ column ∈ table.columns, table.NamedAsItself column := by
  intro column among
  obtain ⟨owner, own, full⟩ := called column among
  have qualified : (table.selfReference column).qualifier = some owner := by
    rw [selfReference, joined]
    exact own
  have reads (other : Column) :
      table.answersFor column other = (other.id == column.id && other.belongsTo owner) := by
    rw [answersFor, qualified, Option.all_some]
  refine namedAsItself_of_forall among ?_ fun other inTable answers => ?_
  · rw [reads, Column.belongsTo_of_aliasName own full, beq_self_eq_true]
    rfl
  · rw [reads, Bool.and_eq_true, beq_iff_eq] at answers
    obtain ⟨ids, belongs⟩ := answers
    rw [columns] at among inTable
    obtain ⟨source, inSources, here⟩ := List.mem_flatMap.mp among
    obtain ⟨home, homeInSources, there⟩ := List.mem_flatMap.mp inTable
    -- A column that belongs to the owner's table comes from the same source.
    obtain rfl : source = home := by
      by_contra differ
      refine apart.forall inSources homeInSources differ column here other there ?_
      rw [Column.belongsTo] at belongs
      split at belongs
      · next name named =>
          rw [Bool.and_eq_true, beq_iff_eq] at belongs
          rw [own, named, Option.map_some, Option.map_some, belongs.2]
      · cases belongs
    have alone := single source inSources
    obtain ⟨given, owned⟩ := alone.owned
    exact ⟨(owned other there).trans (owned column here).symm,
      alone.labelled other there column here ids⟩

end Table

namespace Evaluator

variable {evaluator : Evaluator} {table : Table}

/-- Of tables joined under names that are apart SELECT * shows all columns under their own
names. -/
theorem showsItself_of_apart (built : table.Built) (some : table.columns ≠ [])
    (joined : table.joined = true)
    (called : ∀ column ∈ table.columns,
      ∃ owner, column.aliasName = Option.some owner ∧ owner.isEmpty = false)
    {sources : List Table} (single : ∀ source ∈ sources, source.IsSingle)
    (columns : table.columns = sources.flatMap (·.columns)) (apart : sources.Pairwise Table.Apart)
    (source : Option TableRef) (joins : List JoinClause) :
    evaluator.ShowsItself source joins table :=
  (showsItself_iff (Table.isFull_of_built built) some).mpr
    (Table.namedAsItself_of_apart single columns joined called apart)

/-- Whenever SELECT * has a result, it has as many columns as the table and exactly its
rows. Its columns are those of the table just if each is named as itself, as it is in a table
that is not joined. -/
theorem select_all_iff (built : table.Built) (some : table.columns ≠ [])
    (source : Option TableRef) (joins : List JoinClause) :
    (∀ shown, evaluator.select (allQuery source joins) table = .ok shown →
      shown.columns.length = table.columns.length ∧
        shown.rows.map (·.map (·.value)) = table.rows.map (·.cells)) ∧
    (evaluator.ShowsItself source joins table ↔
      ∀ column ∈ table.columns, table.NamedAsItself column) ∧
    (table.joined = false → evaluator.ShowsItself source joins table) := by
  have full := Table.isFull_of_built built
  refine ⟨fun shown done => shown_of_select full done, showsItself_iff full some, ?_⟩
  intro unjoined
  have single := Table.isSingle_of_unjoined built unjoined
  exact (showsItself_iff full some).mpr (Table.namedAsItself_of_isSingle single)

/-! ### Two ranges whose columns have the same letters -/

def rangeOfColumns (sheet : String) : Location :=
  ⟨"book", sheet ++ "!A:B", sheet, "A", some "B", 1, none⟩

def orders : Table :=
  ⟨[⟨"A", "item", .string, none, true⟩, ⟨"B", "customer", .string, none, true⟩],
    [⟨0, [.text "ink", .text "Ann"]⟩], .grid (rangeOfColumns "Orders"), none, false,
    [.text "item", .text "customer"]⟩

def customers : Table :=
  ⟨[⟨"A", "name", .string, none, true⟩, ⟨"B", "city", .string, none, true⟩],
    [⟨0, [.text "Ann", .text "Oslo"]⟩], .grid (rangeOfColumns "Customers"), none, false,
    [.text "name", .text "city"]⟩

/-- Orders beside their customers; the columns of each range are called A and B. -/
def ordersOfCustomers : Table :=
  ⟨orders.columns ++ customers.columns,
    [⟨0, [.text "ink", .text "Ann", .text "Ann", .text "Oslo"]⟩], orders.source, none, true, []⟩

def onCustomer : JoinClause :=
  ⟨.inner, ⟨"Customers!A:B", false, none⟩, ⟨none, "customer"⟩, ⟨none, "name"⟩⟩

theorem orders_built : orders.Built := by
  have made : Table.ofGrid (rangeOfColumns "Orders")
      [.list [.text "item", .text "customer"], .list [.text "ink", .text "Ann"]] 1 none =
        .ok orders := by cbv
  exact .grid made

theorem ordersOfCustomers_built : ordersOfCustomers.Built := by
  have made : Table.ofGrid (rangeOfColumns "Customers")
      [.list [.text "name", .text "city"], .list [.text "Ann", .text "Oslo"]] 1 none =
        .ok customers := by cbv
  have joined : orders.join customers onCustomer = .ok ordersOfCustomers := by cbv
  exact .join orders_built (.grid made) joined

theorem orders_showsItself :
    orders.Built ∧ orders.columns ≠ [] ∧
      morning.ShowsItself (some ⟨"Orders!A:B", false, none⟩) [] orders := by
  refine ⟨orders_built, by decide, ?_⟩
  exact (select_all_iff orders_built (by decide) _ []).2.2 rfl

/-- The third column of orders beside their customers is shown under the label of the
first. -/
theorem ordersOfCustomers_not_showsItself :
    ordersOfCustomers.Built ∧ ordersOfCustomers.columns ≠ [] ∧
      ¬ morning.ShowsItself (some ⟨"Orders!A:B", false, none⟩) [onCustomer]
        ordersOfCustomers := by
  refine ⟨ordersOfCustomers_built, by decide, ?_⟩
  intro shows
  have named := (showsItself_iff (Table.isFull_of_built ordersOfCustomers_built)
    (by decide)).mp shows ⟨"A", "name", .string, none, true⟩ (by decide)
  obtain ⟨first, rest, hits, -, labels⟩ := named
  have found : ordersOfCustomers.columns.find?
      (ordersOfCustomers.answersFor ⟨"A", "name", .string, none, true⟩) =
        some ⟨"A", "item", .string, none, true⟩ := by decide
  rw [← List.head?_filter, hits, List.head?_cons, Option.some.injEq] at found
  rw [found] at labels
  exact absurd labels (by decide)

end Evaluator

end GridQuery
