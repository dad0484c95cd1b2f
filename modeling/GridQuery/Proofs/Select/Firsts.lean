import GridQuery.Proofs.Expr.Stops
import GridQuery.Proofs.FirstPlaces
import GridQuery.Proofs.Select.Distinct
import GridQuery.Proofs.Select.Names
import GridQuery.Proofs.Select.Origins

/-!
# The rows that DISTINCT keeps

DISTINCT keeps the rows at some places: each row is kept, or has before it a kept row with the
same key, and no two kept rows have the same key. The rows are those of the query without
DISTINCT, for neither their columns nor their cells depend on it. What DISTINCT leaves out is
not formatted; so a FORMAT that fails on such a row stops the query without DISTINCT alone.
-/

namespace GridQuery

/-! ### Keys -/

/-- Two cells of one type, with one value. What is not a number is not the value of another. -/
inductive Cell.SameTypeAndValue : Cell → Cell → Prop
  | null : SameTypeAndValue null null
  | text (content : String) : SameTypeAndValue (text content) (text content)
  | boolean (flag : Bool) : SameTypeAndValue (boolean flag) (boolean flag)
  | date (moment : Moment) : SameTypeAndValue (date moment) (date moment)
  | number {left right : Number} {place : Number.Place} (here : left.place? = some place)
      (there : right.place? = some place) : SameTypeAndValue (number left) (number right)

theorem Cell.sameValue_iff_sameTypeAndValue {left right : Cell} :
    left.sameValue right = true ↔ left.SameTypeAndValue right := by
  constructor
  · intro same
    cases left <;> cases right <;> simp only [sameValue, Bool.false_eq_true, beq_iff_eq] at same
    case null.null => exact .null
    case text.text => exact same ▸ .text _
    case boolean.boolean => exact same ▸ .boolean _
    case date.date => exact same ▸ .date _
    case number.number =>
      obtain ⟨place, here, there⟩ := (Number.sameValue_iff _ _).mp same
      exact .number here there
  · intro same
    cases same with
    | null => rfl
    | text content => simp [sameValue]
    | boolean flag => simp [sameValue]
    | date moment => simp [sameValue]
    | number here there => exact (Number.sameValue_iff _ _).mpr ⟨_, here, there⟩

/-- Keys that agree in all their cells. -/
def KeysAgree : List Cell → List Cell → Prop :=
  List.Forall₂ Cell.SameTypeAndValue

theorem sameCells_iff_keysAgree {left right : List Cell} :
    sameCells left right = true ↔ KeysAgree left right := by
  rw [sameCells_iff_forall₂, KeysAgree]
  simp only [Cell.sameValue_iff_sameTypeAndValue]

/-- The same query with all its rows. -/
def SelectQuery.withoutDistinct (query : SelectQuery) : SelectQuery :=
  { query with distinct := false, distinctOn := [] }

namespace Evaluator

variable {evaluator : Evaluator} {table : Table} {query : SelectQuery}

/-- The key of a row: all its cells, or what the expressions of DISTINCT ON are in it. -/
def distinctKey (evaluator : Evaluator) (query : SelectQuery) (row : OutputRow) :
    Except Error (List Cell) :=
  if query.distinctOn.isEmpty then .ok row.cells
  else evaluator.values row.context query.distinctOn

theorem mapM_paired {Item Result : Type} (step : Item → Except Error Result) (items : List Item) :
    items.mapM (fun item => do return (← step item, item)) =
      (items.mapM step).map (·.zip items) := by
  induction items with
  | nil => rfl
  | cons item items inductionHypothesis =>
      rw [List.mapM_cons, List.mapM_cons, inductionHypothesis]
      cases step item with
      | error failure => rfl
      | ok result => cases items.mapM step <;> rfl

/-- DISTINCT keeps the rows at the first places of their keys. -/
theorem exists_firstPlaces (thins : query.distinct = true) {rows kept : List OutputRow}
    (done : evaluator.distinctRows query rows = .ok kept) :
    ∃ keys places, rows.mapM (evaluator.distinctKey query) = .ok keys ∧
      FirstPlaces KeysAgree keys places ∧ kept = pick rows places := by
  have keyed : rows.mapM (fun row => do
      if query.distinctOn.isEmpty then return (row.cells, row)
      else return (← evaluator.values row.context query.distinctOn, row)) =
      (rows.mapM (evaluator.distinctKey query)).map (·.zip rows) := by
    rw [← mapM_paired]
    refine congrArg rows.mapM (funext fun row => ?_)
    unfold distinctKey
    split <;> rfl
  rw [distinctRows, keyed] at done
  simp only [thins, Bool.not_true, Bool.false_eq_true, if_false, bind_eq_ok_iff, map_eq_ok_iff,
    pure_eq_ok, Except.ok.injEq] at done
  obtain ⟨_, ⟨keys, evaluated, rfl⟩, rfl⟩ := done
  have even : keys.length = rows.length := length_of_mapM_eq_ok evaluated
  obtain ⟨places, firsts, found⟩ := Buckets.exists_firstPlaces sameCells (keys.zip rows)
  rw [List.map_fst_zip (Nat.le_of_eq even)] at firsts
  simp only [sameCells_iff_keysAgree] at firsts
  refine ⟨keys, places, evaluated, firsts, ?_⟩
  have thinned : distinctItems (keys.zip rows) =
      (Buckets.firsts sameCells (keys.zip rows)).map (·.2) := rfl
  rw [thinned, found, ← pick_map, List.map_snd_zip (Nat.le_of_eq even.symm)]

/-! ### The rows without DISTINCT -/

/-- The rows that a query shows, before they are thinned out, ordered and paged. -/
def output (evaluator : Evaluator) (query : SelectQuery) (table : Table) :
    Except Error Output := do
  let columns ← OutputColumn.ofItems table query.items
  query.check table columns
  let rows ← evaluator.passingRows query table
  evaluator.outputOf query table columns rows

theorem select_eq_output (evaluator : Evaluator) (query : SelectQuery) (table : Table) :
    evaluator.select query table = (do
      let output ← evaluator.output query table
      let arranged ← evaluator.arrange query output
      arranged.render table query.labels query.formats) := by
  simp only [select, output, bind_assoc]

/-- The query without DISTINCT has the rows that are thinned out. -/
theorem output_withoutDistinct {shown : Output}
    (made : evaluator.output query table = .ok shown) :
    evaluator.output query.withoutDistinct table = .ok shown := by
  simp only [output, bind_eq_ok_iff, lift_validation_eq_ok_iff] at made ⊢
  obtain ⟨columns, shows, _, checks, rows, passed, grouped⟩ := made
  refine ⟨columns, shows, (), ?_, rows, passed, grouped⟩
  have checked := SelectQuery.check_eq_ok_iff.mp checks
  refine SelectQuery.check_eq_ok_iff.mpr ⟨checked.filtered, checked.shown, checked.groupBy,
    checked.pivot, checked.filter, ?_⟩
  intro expr among
  apply checked.late
  simp only [SelectQuery.lateExprs, SelectQuery.withoutDistinct, List.append_nil,
    List.mem_append] at among ⊢
  exact among.imp_left .inl

theorem comesFrom_of_output {shown : Output}
    (made : evaluator.output query table = .ok shown) :
    ∀ row ∈ shown.rows, evaluator.ComesFrom table shown.columns row := by
  simp only [output, bind_eq_ok_iff] at made
  obtain ⟨columns, -, _, -, rows, passed, grouped⟩ := made
  exact comesFrom_of_outputOf (passingRows_subset passed) grouped

/-! ### Results -/

theorem arrange_of_unordered (unordered : query.orderBy = []) (unlimited : query.limit = none)
    (unskipped : query.offset = 0) (shown : Output) :
    evaluator.arrange query shown = (do
      let kept ← evaluator.distinctRows query shown.rows
      return ⟨shown.columns, kept⟩) := by
  simp only [arrange, sortRows, unordered, List.isEmpty_nil, if_true, unlimited, unskipped, page,
    List.drop_zero, pure_bind]

theorem select_withoutDistinct (unordered : query.orderBy = []) (unlimited : query.limit = none)
    (unskipped : query.offset = 0) {whole : Output}
    (made : evaluator.output query.withoutDistinct table = .ok whole) :
    evaluator.select query.withoutDistinct table =
      whole.render table query.labels query.formats := by
  have arranged : evaluator.arrange query.withoutDistinct whole = .ok whole := by
    have plain : query.withoutDistinct.orderBy = [] ∧ query.withoutDistinct.limit = none ∧
        query.withoutDistinct.offset = 0 := ⟨unordered, unlimited, unskipped⟩
    rw [arrange_of_unordered plain.1 plain.2.1 plain.2.2]
    rfl
  rw [select_eq_output, made]
  simp only [bind, Except.bind, arranged]
  rfl

end Evaluator

namespace Output

/-- Without a FORMAT nothing stops the rows from being shown, and what stops them is a fault
of a cell. -/
theorem mapM_resultRow_cases (patterns : List (Nat × String)) (rows : List OutputRow) :
    (∃ shown, rows.mapM (resultRow patterns) = .ok shown) ∨
      patterns ≠ [] ∧ ∃ fault, rows.mapM (resultRow patterns) = .error (.data fault) := by
  cases done : rows.mapM (resultRow patterns) with
  | ok shown => exact .inl ⟨shown, rfl⟩
  | error failure =>
      refine .inr ⟨?_, ?_⟩
      · rintro rfl
        have each (row : OutputRow) (_ : row ∈ rows) : ∃ shown, resultRow [] row = .ok shown :=
          ⟨_, mapM_eq_ok_of_forall fun _ _ => rfl⟩
        obtain ⟨shown, made⟩ := exists_mapM_eq_ok each
        cases made.symm.trans done
      · have faults : FailsOnly (fun failure => ∃ fault, failure = .data fault)
            (rows.mapM (resultRow patterns)) := by
          refine .mapM fun row _ => .mapM fun placed _ => ?_
          cases found : patterns.lookup placed.2 with
          | none =>
              simp only [found, resultCell]
              exact .pure _
          | some pattern =>
              simp only [found, resultCell]
              refine FailsOnly.bind ?_ fun _ _ => .pure _
              exact Evaluator.fails_lift fun fault _ => ⟨fault, rfl⟩
        obtain ⟨fault, rfl⟩ := faults failure done
        exact ⟨fault, rfl⟩

theorem render_of_notes {output : Output} {table : Table}
    {labels formats : List (Expr × String)} {labelled patterns : List (Nat × String)}
    (labelNotes : output.notes table "LABEL" labels = .ok labelled)
    (formatNotes : output.notes table "FORMAT" formats = .ok patterns) :
    output.render table labels formats = (output.rows.mapM (resultRow patterns)).map fun rows =>
      ⟨output.resultColumns table labelled patterns, rows, .null⟩ := by
  rw [render, labelNotes, formatNotes]
  change (output.rows.mapM (resultRow patterns) >>= fun rows => .ok (SelectResult.mk
    (output.resultColumns table labelled patterns) rows .null)) = _
  cases output.rows.mapM (resultRow patterns) <;> rfl

/-- Rows picked from an output are shown as they are in the whole of it, if that can be shown. -/
theorem rows_of_render_pick {whole : Output} {table : Table}
    {labels formats : List (Expr × String)} {places : List Nat} {thinned : SelectResult}
    (done : (⟨whole.columns, pick whole.rows places⟩ : Output).render table labels formats =
      .ok thinned) :
    (∃ shown, whole.render table labels formats = .ok shown ∧
        thinned.rows = pick shown.rows places) ∨
      formats ≠ [] ∧ ∃ fault, whole.render table labels formats = .error (.data fault) := by
  obtain ⟨labelled, noted, patterns, formatted, rows, made, rfl⟩ := render_eq_ok_iff.mp done
  have whole' : whole.render table labels formats =
      (whole.rows.mapM (resultRow patterns)).map fun rows =>
        ⟨whole.resultColumns table labelled patterns, rows, .null⟩ :=
    render_of_notes noted formatted
  rcases mapM_resultRow_cases patterns whole.rows with ⟨shown, all⟩ | ⟨some, fault, stopped⟩
  · rw [all] at whole'
    have same := (mapM_pick all places).symm.trans made
    exact .inl ⟨_, whole', (Except.ok.inj same).symm⟩
  · rw [stopped] at whole'
    refine .inr ⟨?_, fault, whole'⟩
    rintro rfl
    cases formatted
    exact some rfl

/-- What can be shown whole can be shown in part. -/
theorem exists_render_pick {whole : Output} {labels formats : List (Expr × String)}
    {shown : SelectResult} (done : whole.render table labels formats = .ok shown)
    (places : List Nat) :
    ∃ thinned, (⟨whole.columns, pick whole.rows places⟩ : Output).render table labels formats =
      .ok thinned := by
  obtain ⟨labelled, noted, patterns, formatted, rows, made, rfl⟩ := render_eq_ok_iff.mp done
  have picked := mapM_pick made places
  exact ⟨_, render_eq_ok_iff.mpr ⟨labelled, noted, patterns, formatted, _, picked, rfl⟩⟩

end Output

namespace Evaluator

variable {evaluator : Evaluator} {table : Table} {query : SelectQuery}

/-- DISTINCT that compares all cells stops no query that has a result without it. -/
theorem exists_select_of_withoutDistinct (thins : query.distinct = true)
    (all : query.distinctOn = []) (unordered : query.orderBy = []) (unlimited : query.limit = none)
    (unskipped : query.offset = 0) {shown : SelectResult}
    (done : evaluator.select query.withoutDistinct table = .ok shown) :
    ∃ thinned, evaluator.select query table = .ok thinned := by
  have same : evaluator.output query table = evaluator.output query.withoutDistinct table := by
    simp only [output, SelectQuery.check, SelectQuery.lateExprs, SelectQuery.withoutDistinct, all]
    rfl
  have plain := done
  rw [select_eq_output, bind_eq_ok_iff] at plain
  obtain ⟨whole, made, -⟩ := plain
  rw [select_withoutDistinct unordered unlimited unskipped made] at done
  have thin : evaluator.distinctRows query whole.rows =
      .ok (distinctItems (whole.rows.map fun row => (row.cells, row))) :=
    distinctRows_all thins all whole.rows
  obtain ⟨keys, places, -, -, kept⟩ := exists_firstPlaces thins thin
  obtain ⟨thinned, rendered⟩ := Output.exists_render_pick done places
  refine ⟨thinned, ?_⟩
  rw [select_eq_output, same, made]
  simp only [bind_eq_ok_iff, Except.ok.injEq, exists_eq_left',
    arrange_of_unordered unordered unlimited unskipped, thin, pure_eq_ok]
  rw [kept]
  exact rendered

/-- DISTINCT without ORDER BY and a page keeps rows of the same query without DISTINCT: each of
them is kept, or has before it a kept row whose key agrees with its own, and the keys of kept
rows do not agree. The key of a row is all its cells, or what the expressions of DISTINCT ON
are in the row or group that it shows. -/
theorem select_distinct_keepsFirsts (thins : query.distinct = true)
    (unordered : query.orderBy = []) (unlimited : query.limit = none)
    (unskipped : query.offset = 0) :
    (query.distinctOn = [] →
      ∀ shown, evaluator.select query.withoutDistinct table = .ok shown →
        ∃ thinned, evaluator.select query table = .ok thinned) ∧
    ∀ thinned, evaluator.select query table = .ok thinned →
      ∃ whole keys places, evaluator.output query.withoutDistinct table = .ok whole ∧
        (∀ row ∈ whole.rows, evaluator.ComesFrom table whole.columns row) ∧
        whole.rows.mapM (evaluator.distinctKey query) = .ok keys ∧
        FirstPlaces KeysAgree keys places ∧
        thinned.cellRows = pick (whole.rows.map (·.cells)) places ∧
        ((∃ shown, evaluator.select query.withoutDistinct table = .ok shown ∧
            shown.cellRows = whole.rows.map (·.cells) ∧
            thinned.rows = pick shown.rows places ∧ thinned.rows.Sublist shown.rows) ∨
          query.formats ≠ [] ∧
            ∃ fault, evaluator.select query.withoutDistinct table = .error (.data fault)) := by
  constructor
  case left =>
    intro all shown done
    exact exists_select_of_withoutDistinct thins all unordered unlimited unskipped done
  case right =>
    intro thinned done
    rw [select_eq_output] at done
    simp only [bind_eq_ok_iff, arrange_of_unordered unordered unlimited unskipped, pure_eq_ok,
      Except.ok.injEq] at done
    obtain ⟨whole, made, _, ⟨kept, thin, rfl⟩, rendered⟩ := done
    obtain ⟨keys, places, keyed, firsts, rfl⟩ := exists_firstPlaces thins thin
    have plain := output_withoutDistinct made
    refine ⟨whole, keys, places, plain, comesFrom_of_output made, keyed, firsts, ?_, ?_⟩
    · rw [(cellRows_of_render rendered).1, pick_map]
    · rw [select_withoutDistinct unordered unlimited unskipped plain]
      rcases Output.rows_of_render_pick rendered with ⟨shown, all, rows⟩ | stopped
      · have cells := (cellRows_of_render all).1
        have even : shown.rows.length = keys.length := by
          have lengths := congrArg List.length cells
          rw [SelectResult.cellRows, List.length_map, List.length_map] at lengths
          rw [lengths, length_of_mapM_eq_ok keyed]
        refine .inl ⟨shown, all, cells, rows, ?_⟩
        rw [rows]
        exact firsts.pick_sublist even
      · exact .inr stopped

/-! ### The first sale of each item -/

def firstSales : SelectQuery :=
  { groupQuery [.expr (named "item") (some "thing"), .expr (named "sold") none] [] with
    distinct := true, distinctOn := [named "thing"] }

theorem sales_keepsFirsts :
    ∃ thinned, morning.select firstSales sales = .ok thinned ∧
      thinned.cellRows = [[.text "ink", .int 10], [.text "pen", .int 20]] ∧
      ∃ whole keys places, morning.output firstSales.withoutDistinct sales = .ok whole ∧
        whole.rows.mapM (morning.distinctKey firstSales) = .ok keys ∧
        FirstPlaces KeysAgree keys places ∧
        ∃ shown, morning.select firstSales.withoutDistinct sales = .ok shown ∧
          thinned.rows = pick shown.rows places := by
  let thinned : SelectResult :=
    ⟨[⟨"item", "thing", .string, none⟩, ⟨"sold", "sold", .number, none⟩],
      [[⟨.text "ink", none⟩, ⟨.int 10, none⟩], [⟨.text "pen", none⟩, ⟨.int 20, none⟩]], .null⟩
  have done : morning.select firstSales sales = .ok thinned := by cbv
  obtain ⟨whole, keys, places, made, -, keyed, firsts, -, all⟩ :=
    (select_distinct_keepsFirsts rfl rfl rfl rfl).2 thinned done
  refine ⟨thinned, done, rfl, whole, keys, places, made, keyed, firsts, ?_⟩
  rcases all with ⟨shown, plain, -, rows, -⟩ | ⟨formatted, -⟩
  · exact ⟨shown, plain, rows⟩
  · exact absurd rfl formatted

end Evaluator

end GridQuery
