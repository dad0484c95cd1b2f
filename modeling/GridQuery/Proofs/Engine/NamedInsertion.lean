import GridQuery.Proofs.Engine.Preview
import GridQuery.Proofs.Selection
import GridQuery.Proofs.Table.Inserted

/-!
# INSERT into named columns

Where no two columns of a virtual table have one name, each name means its own column: it is
first looked for as it is, and only then in other ways. So a value given to a name comes to
stand under it, and the order in which columns are named makes no difference.
-/

namespace GridQuery

/-! ### Places of picked items -/

theorem getElem?_pick {Item : Type} {items : List Item} {places : List Nat}
    (inside : ∀ place ∈ places, place < items.length) (index : Nat) :
    (pick items places)[index]? = places[index]?.bind (items[·]?) := by
  induction places generalizing index with
  | nil => rfl
  | cons place places inductionHypothesis =>
      obtain ⟨here, rest⟩ := List.forall_mem_cons.mp inside
      rw [pick, List.filterMap_cons_some (List.getElem?_eq_getElem here)]
      cases index with
      | zero => exact (List.getElem?_eq_getElem here).symm
      | succ index => exact inductionHypothesis rest index

theorem length_pick {Item : Type} {items : List Item} {places : List Nat}
    (all : places.Perm (List.range items.length)) : (pick items places).length = items.length :=
  (pick_perm all).length_eq

/-! ### Names of a header -/

namespace Table

variable {name : String} {aliasName : Option String} {header : List Datum}
  {raw : List (List Datum)}

theorem map_id_ofHeader :
    (ofHeader name aliasName header raw).columns.map (·.id) = header.map Datum.headerText := by
  simp only [ofHeader, List.map_map]
  exact List.zipIdx_map_fst 0 (header.map Datum.headerText)

/-- A name that no other column has means its column. -/
theorem columnPosition_ofHeader (distinct : (header.map Datum.headerText).Nodup) {place : Nat}
    {column : String} (here : (header.map Datum.headerText)[place]? = some column) :
    (ofHeader name aliasName header raw).columnPosition column = .ok place := by
  have first : (header.map Datum.headerText).findIdx? (· == column) = some place := by
    obtain ⟨inside, found⟩ := List.getElem?_eq_some_iff.mp here
    refine List.findIdx?_eq_some_iff_getElem.mpr ⟨inside, by simp [found], ?_⟩
    intro earlier before same
    have equal := (beq_iff_eq.mp same).trans found.symm
    exact Nat.ne_of_lt before ((List.Nodup.getElem_inj_iff distinct).mp equal)
  rw [← map_id_ofHeader, List.findIdx?_map] at first
  simp only [columnPosition, nameTests, List.findSome?_cons]
  rw [show (fun column' : Column => column'.id == column) = (· == column) ∘ (·.id) from rfl, first]

theorem position_ofHeader (distinct : (header.map Datum.headerText).Nodup) {place : Nat}
    {column : String} (here : (header.map Datum.headerText)[place]? = some column) :
    (ofHeader name aliasName header raw).position column = place := by
  rw [position, columnPosition_ofHeader distinct here]
  rfl

/-- Different names of a header have different places. -/
theorem nodup_map_position (distinct : (header.map Datum.headerText).Nodup)
    {names : List String} (apart : names.Nodup) (known : names ⊆ header.map Datum.headerText) :
    (names.map (ofHeader name aliasName header raw).position).Nodup := by
  refine apart.map_on fun first inNames second others same => ?_
  obtain ⟨place, here⟩ := List.mem_iff_getElem?.mp (known inNames)
  obtain ⟨other, there⟩ := List.mem_iff_getElem?.mp (known others)
  rw [position_ofHeader distinct here, position_ofHeader distinct there] at same
  subst same
  exact Option.some.inj (here.symm.trans there)

end Table

/-- A row of the width of a header: under each name that is given the value that is given for
it, and an empty text under each other. -/
structure HoldsNamed (columns names : List String) (values row : List Datum) : Prop where
  width : row.length = columns.length
  held : ∀ (place index : Nat) (name : String), columns[place]? = some name →
    names[index]? = some name → row[place]? = values[index]?
  blank : ∀ (place : Nat) (name : String), columns[place]? = some name → name ∉ names →
    row[place]? = some (.text "")

namespace HoldsNamed

/-- A row that is given all its values, in any order of the columns, is these values. -/
theorem eq_of_perm {columns : List String} {values row : List Datum} {places : List Nat}
    (even : values.length = columns.length)
    (all : places.Perm (List.range columns.length))
    (holds : HoldsNamed columns (pick columns places) (pick values places) row) :
    row = values := by
  have inside : ∀ place ∈ places, place < columns.length := by
    intro place among
    exact List.mem_range.mp (all.subset among)
  refine List.ext_getElem? fun place => ?_
  by_cases here : place < columns.length
  · obtain ⟨index, _, found⟩ :=
      List.getElem_of_mem (all.symm.subset (List.mem_range.mpr here))
    have stands : places[index]? = some place := by
      rw [← found]
      exact List.getElem?_eq_getElem _
    have column : columns[place]? = some columns[place] := List.getElem?_eq_getElem here
    have named : (pick columns places)[index]? = some columns[place] := by
      rw [getElem?_pick inside, stands]
      exact column
    rw [holds.held place index _ column named, getElem?_pick (even ▸ inside), stands]
    rfl
  · have short : row.length ≤ place := by
      rw [holds.width]
      exact Nat.le_of_not_lt here
    rw [List.getElem?_eq_none short, List.getElem?_eq_none (by omega)]

end HoldsNamed

theorem getElem?_setAll_of_mem {row : List Datum} {pairs : List (Nat × Datum)} {place : Nat}
    {value : Datum} (distinct : (pairs.map (·.1)).Nodup) (among : (place, value) ∈ pairs)
    (inside : place < row.length) : (setAll row pairs)[place]? = some value := by
  obtain ⟨earlier, later, rfl⟩ := List.append_of_mem among
  refine getElem?_setAll_last inside fun pair after same => ?_
  rw [List.map_append, List.map_cons, List.nodup_append] at distinct
  have fresh := (List.nodup_cons.mp distinct.2.1).1
  have known := List.mem_map_of_mem (f := Prod.fst) after
  exact fresh (same ▸ known)

namespace Evaluator

variable {evaluator : Evaluator} {name : String} {aliasName : Option String}
  {header : List Datum} {raw : List (List Datum)}

theorem exists_foldlM_set {table : Table} {pairs : List (String × Datum)}
    (known : ∀ pair ∈ pairs, ∃ place, table.columnPosition pair.1 = .ok place)
    (start : List Datum) :
    ∃ row, (pairs.foldlM (fun row (name, value) => do
      return row.set (← table.columnPosition name) value) start :
        Except ValidationError (List Datum)) = .ok row := by
  induction pairs generalizing start with
  | nil => exact ⟨start, rfl⟩
  | cons pair pairs inductionHypothesis =>
      obtain ⟨⟨place, found⟩, later⟩ := List.forall_mem_cons.mp known
      obtain ⟨row, done⟩ := inductionHypothesis later (start.set place pair.2)
      refine ⟨row, ?_⟩
      simp only [List.foldlM_cons, found]
      exact done

theorem map_fst_namedPairs {table : Table} {names : List String} {cells : List Cell}
    (even : cells.length = names.length) :
    (namedPairs table (names.zip cells)).map (·.1) = names.map table.position := by
  have front := List.map_fst_zip (Nat.le_of_eq even.symm)
  rw [namedPairs, List.map_map]
  conv_rhs => rw [← front, List.map_map]
  rfl

/-- Values for different names of a header, set at the places of the names, stand under these
names. -/
theorem holdsNamed_setAll (distinct : (header.map Datum.headerText).Nodup) {names : List String}
    (apart : names.Nodup) (known : names ⊆ header.map Datum.headerText) {cells : List Cell}
    (even : cells.length = names.length) :
    HoldsNamed (header.map Datum.headerText) names (cells.map Cell.toDatum)
      (setAll (List.replicate header.length (.text ""))
        (namedPairs (.ofHeader name aliasName header raw) (names.zip cells))) := by
  have places : (namedPairs (.ofHeader name aliasName header raw) (names.zip cells)).map (·.1) =
      names.map (Table.ofHeader name aliasName header raw).position :=
    map_fst_namedPairs even
  have inside {place : Nat} {column : String}
      (here : (header.map Datum.headerText)[place]? = some column) : place < header.length := by
    have bound := (List.getElem?_eq_some_iff.mp here).1
    rwa [List.length_map] at bound
  constructor
  case width => simp
  case held =>
    intro place index column here given
    have bound := (List.getElem?_eq_some_iff.mp given).1
    obtain ⟨cell, value⟩ : ∃ cell, cells[index]? = some cell :=
      ⟨_, List.getElem?_eq_getElem (even ▸ bound)⟩
    have paired : (column, cell) ∈ names.zip cells :=
      List.mem_of_getElem? (List.getElem?_zip_eq_some.mpr ⟨given, value⟩)
    have among : (place, cell.toDatum) ∈
        namedPairs (.ofHeader name aliasName header raw) (names.zip cells) := by
      refine List.mem_map.mpr ⟨_, paired, ?_⟩
      rw [Table.position_ofHeader distinct here]
    have separate : ((namedPairs (.ofHeader name aliasName header raw)
        (names.zip cells)).map (·.1)).Nodup := by
      rw [places]
      exact Table.nodup_map_position distinct apart known
    rw [getElem?_setAll_of_mem separate among, List.getElem?_map, value]
    · rfl
    · rw [List.length_replicate]
      exact inside here
  case blank =>
    intro place column here unnamed
    rw [getElem?_setAll_of_forall_ne, List.getElem?_replicate, if_pos (inside here)]
    intro pair among same
    have given := List.mem_map_of_mem (f := Prod.fst) among
    rw [places] at given
    obtain ⟨other, inNames, found⟩ := List.mem_map.mp given
    obtain ⟨otherPlace, there⟩ := List.mem_iff_getElem?.mp (known inNames)
    rw [Table.position_ofHeader distinct there] at found
    rw [found, same] at there
    obtain rfl := Option.some.inj (there.symm.trans here)
    exact unnamed inNames

theorem exists_namedRow (distinct : (header.map Datum.headerText).Nodup) {names : List String}
    (apart : names.Nodup) (known : names ⊆ header.map Datum.headerText) {cells : List Cell}
    (even : cells.length = names.length) :
    ∃ row, namedRow (.ofHeader name aliasName header raw) names (cells.map Cell.toDatum) =
        .ok row ∧
      HoldsNamed (header.map Datum.headerText) names (cells.map Cell.toDatum) row := by
  obtain ⟨row, done⟩ : ∃ row, namedRow (.ofHeader name aliasName header raw) names
      (cells.map Cell.toDatum) = .ok row := by
    have counted : ((cells.map Cell.toDatum).length != names.length) = false := by
      simp [even]
    rw [namedRow, counted]
    refine exists_foldlM_set (fun pair among => ?_) _
    obtain ⟨place, here⟩ := List.mem_iff_getElem?.mp (known (List.of_mem_zip among).1)
    exact ⟨place, Table.columnPosition_ofHeader distinct here⟩
  refine ⟨row, done, ?_⟩
  obtain ⟨-, rfl⟩ := namedRow_eq_ok done
  rw [Table.length_columns_ofHeader]
  exact holdsNamed_setAll distinct apart known even

/-! ### Rows of VALUES -/

/-- Expressions in another order have their values in that order. -/
theorem values_pick_eq_ok_iff {context : Context} {exprs : List Expr} {places : List Nat}
    (all : places.Perm (List.range exprs.length)) {picked : List Cell} :
    evaluator.values context (pick exprs places) = .ok picked ↔
      ∃ cells, evaluator.values context exprs = .ok cells ∧ picked = pick cells places := by
  constructor
  · intro done
    have each (expr : Expr) (among : expr ∈ exprs) :
        ∃ cell, evaluator.value context expr = .ok cell :=
      ⟨_, (mapM_eq_ok .null done).1 expr ((pick_perm all).mem_iff.mpr among)⟩
    obtain ⟨cells, valued⟩ := exists_mapM_eq_ok each
    exact ⟨cells, valued, Except.ok.inj (done.symm.trans (mapM_pick valued places))⟩
  · rintro ⟨cells, valued, rfl⟩
    exact mapM_pick valued places

theorem positionalRow_of_length {values : List Datum} {width : Nat}
    (even : values.length = width) : positionalRow (some width) values = .ok values := by
  subst even
  simp [positionalRow]

/-- Values for all names of a header, in any order, make the row that they make in the order of
the header. -/
theorem namedRow_perm (distinct : (header.map Datum.headerText).Nodup) {places : List Nat}
    (all : places.Perm (List.range header.length)) {cells : List Cell}
    (even : cells.length = header.length) :
    namedRow (.ofHeader name aliasName header raw) (pick (header.map Datum.headerText) places)
      ((pick cells places).map Cell.toDatum) = .ok (cells.map Cell.toDatum) := by
  have columns : places.Perm (List.range (header.map Datum.headerText).length) := by
    rwa [List.length_map]
  have values : places.Perm (List.range cells.length) := by rwa [even]
  have perm := pick_perm columns
  have lengths : (pick cells places).length =
      (pick (header.map Datum.headerText) places).length := by
    rw [length_pick columns, length_pick values, even, List.length_map]
  obtain ⟨row, done, holds⟩ :=
    exists_namedRow distinct (perm.nodup_iff.mpr distinct) perm.subset lengths
  rw [← pick_map] at holds
  rw [done, holds.eq_of_perm (by simp [even]) columns]

theorem mapM_eq_ok_congr {Item Result : Type} {step other : Item → Except Error Result}
    {items : List Item}
    (each : ∀ item ∈ items, ∀ result, step item = .ok result ↔ other item = .ok result)
    {results : List Result} :
    items.mapM step = .ok results ↔ items.mapM other = .ok results := by
  induction items generalizing results with
  | nil => rfl
  | cons item items inductionHypothesis =>
      obtain ⟨here, later⟩ := List.forall_mem_cons.mp each
      simp only [List.mapM_cons, bind_eq_ok_iff, here, inductionHypothesis later]

/-- All columns of a table can be named in any order. -/
theorem planInsert_perm (distinct : (header.map Datum.headerText).Nodup) {places : List Nat}
    (all : places.Perm (List.range header.length)) {target : Option TableRef}
    {tuples : List (List Expr)} (even : ∀ tuple ∈ tuples, tuple.length = header.length)
    {rows : List (List Datum)} :
    evaluator.planInsert ⟨target, some (pick (header.map Datum.headerText) places),
        tuples.map (pick · places)⟩ (some (.ofHeader name aliasName header raw))
        (some header.length) = .ok rows ↔
      evaluator.planInsert ⟨target, none, tuples⟩ (some (.ofHeader name aliasName header raw))
        (some header.length) = .ok rows := by
  simp only [planInsert, List.mapM_map]
  refine mapM_eq_ok_congr fun tuple among row => ?_
  simp only [bind_eq_ok_iff, lift_validation_eq_ok_iff, Function.comp_apply]
  have size := even tuple among
  rw [← size] at all
  constructor
  · rintro ⟨picked, valued, done⟩
    obtain ⟨cells, given, rfl⟩ := (values_pick_eq_ok_iff all).mp valued
    have counted : cells.length = header.length := (length_of_mapM_eq_ok given).trans size
    rw [namedRow_perm distinct (size ▸ all) counted] at done
    rw [← done]
    exact ⟨cells, given, positionalRow_of_length (by rw [List.length_map, counted])⟩
  · rintro ⟨cells, given, done⟩
    have counted : cells.length = header.length := (length_of_mapM_eq_ok given).trans size
    rw [positionalRow_of_length (by rw [List.length_map, counted])] at done
    rw [← done]
    exact ⟨pick cells places, (values_pick_eq_ok_iff all).mpr ⟨cells, given, rfl⟩,
      namedRow_perm distinct (size ▸ all) counted⟩

/-- Tuples that have values are put under any different names of a table's columns. -/
theorem exists_planInsert (distinct : (header.map Datum.headerText).Nodup) {names : List String}
    (apart : names.Nodup) (known : names ⊆ header.map Datum.headerText)
    {target : Option TableRef} {tuples : List (List Expr)} {values : List (List Cell)}
    (even : ∀ tuple ∈ tuples, tuple.length = names.length)
    (valued : tuples.mapM (evaluator.values .constant) = .ok values) (width : Option Nat) :
    ∃ rows, evaluator.planInsert ⟨target, some names, tuples⟩
        (some (.ofHeader name aliasName header raw)) width = .ok rows ∧
      List.Forall₂ (fun cells row => HoldsNamed (header.map Datum.headerText) names
        (cells.map Cell.toDatum) row) values rows := by
  simp only [planInsert]
  induction tuples generalizing values with
  | nil =>
      cases valued
      exact ⟨[], rfl, .nil⟩
  | cons tuple tuples inductionHypothesis =>
      obtain ⟨sized, others⟩ := List.forall_mem_cons.mp even
      simp only [List.mapM_cons, bind_eq_ok_iff, pure_eq_ok, Except.ok.injEq] at valued
      obtain ⟨cells, here, later, rest, rfl⟩ := valued
      obtain ⟨rows, made, hold⟩ := inductionHypothesis others rest
      have counted : cells.length = names.length := (length_of_mapM_eq_ok here).trans sized
      obtain ⟨row, done, holds⟩ := exists_namedRow distinct apart known counted
      refine ⟨row :: rows, ?_, .cons holds hold⟩
      simp only [List.mapM_cons, bind_eq_ok_iff, lift_validation_eq_ok_iff]
      exact ⟨row, ⟨cells, here, done⟩, rows, made, rfl⟩

end Evaluator

namespace Engine

variable {State : Type} {engine : Engine State} {name : String} {aliasName : Option String}
  {header : List Datum} {raw : List (List Datum)} {rows : List Datum}

/-- An INSERT into a virtual table. -/
def insertInto (name : String) (aliasName : Option String) (columns : Option (List String))
    (tuples : List (List Expr)) : Statement :=
  .change (.insert ⟨some ⟨name, true, aliasName⟩, columns, tuples⟩)

/-- The data with new rows below all that was there. -/
def inserted (header : List Datum) (raw new : List (List Datum)) : MutationResult :=
  ⟨.insert, new.length, .null, none, some ((header :: raw) ++ new)⟩

theorem run_insertInto_eq_ok_iff (found : engine.workspace.virtualRows name = .ok rows)
    (read : rows.mapM Datum.rowItems = .ok (header :: raw)) {columns : Option (List String)}
    {tuples : List (List Expr)} {withMetadata : Bool} {before after : Session State}
    {result : StatementResult} :
    engine.run (insertInto name aliasName columns tuples) withMetadata before =
        (.ok result, after) ↔
      ∃ new, engine.evaluator.planInsert ⟨some ⟨name, true, aliasName⟩, columns, tuples⟩
          (some (.ofHeader name aliasName header raw)) (some header.length) = .ok new ∧
        result = .changed (inserted header raw new) ∧ after = before := by
  have tabled : engine.virtualTable name aliasName =
      .ok (Table.ofHeader name aliasName header raw, header :: raw) := by
    have items := mapM_rowItems_list (header :: raw)
    simp only [virtualTable, found, bind_eq_ok_iff, lift_data_eq_ok_iff]
    exact ⟨_, read, _, Table.ofVirtual_eq items, rfl⟩
  have made : engine.changeVirtual
      (.insert ⟨some ⟨name, true, aliasName⟩, columns, tuples⟩) name aliasName = (do
        let new ← engine.evaluator.planInsert ⟨some ⟨name, true, aliasName⟩, columns, tuples⟩
          (some (.ofHeader name aliasName header raw)) (some header.length)
        return inserted header raw new) := by
    rw [changeVirtual, tabled]
    change insertVirtual engine.evaluator _ (.ofHeader name aliasName header raw)
      (header :: raw) = _
    rw [insertVirtual, Table.length_columns_ofHeader]
    rfl
  rw [insertInto, run, Step.bind_eq_ok_iff]
  simp only [change, Mutation.target, made, Step.liftM_eq_ok_iff, bind_eq_ok_iff, pure_eq_ok,
    Except.ok.injEq]
  constructor
  · rintro ⟨_, _, ⟨⟨new, planned, rfl⟩, rfl⟩, returned⟩
    cases returned
    exact ⟨new, planned, rfl, rfl⟩
  · rintro ⟨new, planned, rfl, rfl⟩
    exact ⟨_, _, ⟨⟨new, planned, rfl⟩, rfl⟩, rfl⟩

/-- In a virtual table whose columns have different names, naming all columns in any order
inserts what is inserted without names. Naming some of them once each inserts rows of the width
of the header, with each value under its name and nothing under the others, below all rows that
were there. -/
theorem run_insert_named (found : engine.workspace.virtualRows name = .ok rows)
    (read : rows.mapM Datum.rowItems = .ok (header :: raw))
    (distinct : (header.map Datum.headerText).Nodup) (withMetadata : Bool)
    (session : Session State) :
    (∀ places tuples, places.Perm (List.range header.length) →
      (∀ tuple ∈ tuples, tuple.length = header.length) → ∀ result after,
        engine.run (insertInto name aliasName (some (pick (header.map Datum.headerText) places))
            (tuples.map (pick · places))) withMetadata session = (.ok result, after) ↔
          engine.run (insertInto name aliasName none tuples) withMetadata session =
            (.ok result, after)) ∧
    ∀ names tuples values, names.Nodup → names ⊆ header.map Datum.headerText →
      (∀ tuple ∈ tuples, tuple.length = names.length) →
      tuples.mapM (engine.evaluator.values .constant) = .ok values →
      ∃ new, engine.run (insertInto name aliasName (some names) tuples) withMetadata session =
          (.ok (.changed (inserted header raw new)), session) ∧
        List.Forall₂ (fun cells row => HoldsNamed (header.map Datum.headerText) names
          (cells.map Cell.toDatum) row) values new := by
  constructor
  case left =>
    intro places tuples all even result after
    simp only [run_insertInto_eq_ok_iff found read, Evaluator.planInsert_perm distinct all even]
  case right =>
    intro names tuples values apart known even valued
    obtain ⟨new, planned, hold⟩ := Evaluator.exists_planInsert distinct apart known even valued
      (some header.length)
    exact ⟨new, (run_insertInto_eq_ok_iff found read).mpr ⟨new, planned, rfl, rfl⟩, hold⟩

/-! ### Columns whose names are nearly one -/

def penHeader : List Datum :=
  [.text "name", .text "size", .text "Size"]

def penEngine : Engine Unit :=
  zooEngine.withTable "pens" [penHeader, [.text "nib"]]

theorem pens_insert_named :
    penEngine.run (insertInto "pens" none (some ["Size", "name", "size"])
        [[.literal (.int 3), .literal (.text "reed"), .literal (.int 2)]]) false
        (Session.start ()) =
      (.ok (.changed (inserted penHeader [[.text "nib"]] [[.text "reed", .int 2, .int 3]])),
        Session.start ()) ∧
    ∃ new, penEngine.run (insertInto "pens" none (some ["Size"]) [[.literal (.int 4)]]) false
        (Session.start ()) =
      (.ok (.changed (inserted penHeader [[.text "nib"]] new)), Session.start ()) ∧
      List.Forall₂ (fun cells row => HoldsNamed ["name", "size", "Size"] ["Size"]
        (cells.map Cell.toDatum) row) [[.int 4]] new := by
  have distinct : (penHeader.map Datum.headerText).Nodup := by decide
  obtain ⟨permuted, partly⟩ := @run_insert_named Unit penEngine "pens" none penHeader
    [[.text "nib"]] _ rfl rfl distinct false (Session.start ())
  constructor
  case left =>
    have positional : penEngine.run (insertInto "pens" none none
        [[.literal (.text "reed"), .literal (.int 2), .literal (.int 3)]]) false
        (Session.start ()) =
      (.ok (.changed (inserted penHeader [[.text "nib"]] [[.text "reed", .int 2, .int 3]])),
        Session.start ()) := by
      rfl
    exact (permuted [2, 0, 1] [[.literal (.text "reed"), .literal (.int 2), .literal (.int 3)]]
      (by decide) (by decide) _ _).mpr positional
  case right =>
    exact partly ["Size"] [[.literal (.int 4)]] [[.int 4]] (by decide) (by decide) (by decide) rfl

end Engine

end GridQuery
