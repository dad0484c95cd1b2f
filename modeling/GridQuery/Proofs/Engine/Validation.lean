import GridQuery.Proofs.Engine.Insertion
import GridQuery.Proofs.Location.LongRow
import GridQuery.Proofs.Statement.Verb

/-!
# Statements are checked before the grid is asked

A statement that changes rows without saying which, and one that names a virtual table that
there is not, stop before anything is asked of the grid. They stop as not valid, but for the
number of a row that cannot be read: the numbers of the rows of a range are read before the
tables named after it are looked up.
-/

namespace GridQuery

/-- A change of rows that does not say which. -/
inductive Statement.Unconditional : Statement → Prop where
  | update {query : UpdateQuery} : query.filter = none → Unconditional (.change (.update query))
  | delete {query : DeleteQuery} : query.filter = none → Unconditional (.change (.delete query))

theorem Statement.Unconditional.checkCondition {statement : Statement}
    (unconditional : statement.Unconditional) :
    ∃ cause, statement.checkCondition = .error cause := by
  cases unconditional with
  | @update query none =>
      obtain ⟨target, assignments, filter, orderBy, limit⟩ := query
      cases none
      exact ⟨_, rfl⟩
  | @delete query none =>
      obtain ⟨target, filter, orderBy, limit⟩ := query
      cases none
      exact ⟨_, rfl⟩

namespace Workspace

variable {workspace : Workspace} {statement : Statement}

/-- A range whose digits are too many for a number. -/
def HasLongRow (table : TableRef) : Prop :=
  table.isVirtual = false ∧ ¬ ShortRuns table.name.toList

/-- What is said against a target before data is read. -/
def TargetRefusal (target : Option TableRef) (error : Error) : Prop :=
  (∃ cause, error = .invalid cause) ∨ error = .data .notNumeral ∧ ∃ table ∈ target, HasLongRow table

theorem failsOnly_locate {target : Option TableRef}
    (onGrid : ∀ table ∈ target, table.isVirtual = false) :
    FailsOnly (TargetRefusal target) (workspace.locate target) := by
  rw [locate.eq_def]
  split
  · exact FailsOnly.error (.inl ⟨_, rfl⟩)
  · exact FailsOnly.ok _
  · exact FailsOnly.error (.inl ⟨_, rfl⟩)
  · next table location _ =>
      refine FailsOnly.bind ?_ fun other _ => FailsOnly.ite (FailsOnly.pure _) (FailsOnly.pure _)
      refine (Location.failsOnly_ofRange location.spreadsheet table.name).mono ?_
      rintro error (invalid | ⟨rfl, long⟩)
      · exact .inl invalid
      · exact .inr ⟨rfl, table, rfl, onGrid table rfl, long⟩

theorem failsOnly_checkTarget (target : Option TableRef) :
    FailsOnly (TargetRefusal target) (workspace.checkTarget target) := by
  rw [checkTarget.eq_def]
  split
  · next name aliasName =>
      cases workspace.virtualRows name with
      | ok rows => exact FailsOnly.pure _
      | error cause => exact FailsOnly.throw (.inl ⟨cause, rfl⟩)
  · next other =>
      have onGrid : ∀ table ∈ target, table.isVirtual = false := by
        rintro ⟨name, isVirtual, aliasName⟩ rfl
        cases isVirtual with
        | false => rfl
        | true => exact absurd rfl (other name aliasName)
      refine FailsOnly.bind (failsOnly_locate onGrid) fun location _ => ?_
      exact FailsOnly.ite (FailsOnly.throw (.inl ⟨_, rfl⟩)) (FailsOnly.pure _)

theorem checkTarget_ne_ok {name : String} {aliasName : Option String}
    (missing : workspace.tables.lookup name = none) :
    workspace.checkTarget (some ⟨name, true, aliasName⟩) ≠ .ok () := by
  simp [checkTarget, virtualRows, missing]

/-- What is said against a statement once its text has been read: it is not valid, or the
tables that are looked up first are there and one of its ranges has a row of too many
digits. -/
def Refusal (workspace : Workspace) (references : List String) (statement : Statement)
    (error : Error) : Prop :=
  (∃ cause, error = .invalid cause) ∨
    error = .data .notNumeral ∧ ¬ statement.Unconditional ∧
      (∀ name ∈ references, (workspace.tables.lookup name).isSome) ∧
      ∃ table, some table ∈ statement.targets ∧ HasLongRow table

/-- Nothing else is said against a statement. -/
theorem failsOnly_check (references : List String) :
    FailsOnly (workspace.Refusal references statement) (workspace.check references statement) := by
  rw [check]
  refine FailsOnly.bind (FailsOnly.forM fun name _ => ?_) fun _ done => ?_
  · exact FailsOnly.ite (FailsOnly.throw (.inl ⟨_, rfl⟩)) (FailsOnly.pure ())
  have supplied : ∀ name ∈ references, (workspace.tables.lookup name).isSome := by
    intro name among
    have passed := forM_eq_ok_iff.mp done name among
    cases found : workspace.tables.lookup name with
    | some rows => rfl
    | none => simp [found] at passed
  split
  · exact FailsOnly.throw (.inl ⟨_, rfl⟩)
  · next conditional =>
      refine FailsOnly.bind ?_ fun _ _ => ?_
      · apply FailsOnly.forM
        intro target among
        refine (failsOnly_checkTarget target).mono ?_
        rintro error (invalid | ⟨rfl, table, rfl, long⟩)
        · exact .inl invalid
        · refine .inr ⟨rfl, fun unconditional => ?_, supplied, table, among, long⟩
          obtain ⟨cause, fails⟩ := unconditional.checkCondition
          rw [fails] at conditional
          cases conditional
      · split
        · exact FailsOnly.throw (.inl ⟨_, rfl⟩)
        · exact FailsOnly.pure ()

theorem check_ne_ok {references : List String}
    (wrong : statement.Unconditional ∨ ∃ name aliasName,
      some ⟨name, true, aliasName⟩ ∈ statement.targets ∧ workspace.tables.lookup name = none) :
    workspace.check references statement ≠ .ok () := by
  intro passed
  simp only [check, bind_eq_ok_iff] at passed
  obtain ⟨_, -, later⟩ := passed
  split at later
  · simp at later
  · next conditional =>
      rcases wrong with unconditional | ⟨name, aliasName, among, missing⟩
      · obtain ⟨cause, fails⟩ := unconditional.checkCondition
        rw [fails] at conditional
        cases conditional
      · obtain ⟨_, targets, -⟩ := (bind_eq_ok_iff ..).mp later
        exact checkTarget_ne_ok missing (forM_eq_ok_iff.mp targets _ among)

end Workspace

namespace Engine

variable {State : Type} {engine : Engine State} {text : String} {statement : Statement}

/-- A statement that changes rows without saying which, or names a virtual table that there
is not, fails before the grid is asked anything: as not valid, but for a range with a row of
too many digits where each table that the text is seen to name is there. -/
theorem execute_refused (parsed : Statement.parse text = .ok statement)
    (wrong : statement.Unconditional ∨ ∃ name aliasName,
      some ⟨name, true, aliasName⟩ ∈ statement.targets ∧
        engine.workspace.tables.lookup name = none)
    (withMetadata : Bool) (session : Session State) :
    ∃ error references, Statement.tableReferences text.toList = .ok references ∧
      engine.execute text withMetadata session = (.error error, session) ∧
      engine.workspace.Refusal references statement error := by
  obtain ⟨references, scanned⟩ := Statement.tableReferences_of_parse parsed
  cases checked : engine.workspace.check references statement with
  | ok passed => exact absurd checked (Workspace.check_ne_ok wrong)
  | error error =>
      refine ⟨error, references, scanned, ?_, Workspace.failsOnly_check references error checked⟩
      have prepared : engine.prepare text = .error error := by
        rw [prepare, Statement.read_of_parse parsed]
        simp only [scanned, bind, Except.bind, checked]
      rw [execute, prepared]
      rfl

end Engine

/-! ### A range joined with a virtual table that there is not -/

namespace Statement

/-- A join of a range with a virtual table. -/
def joinedWithMissing (range : String) : SelectQuery :=
  { starQuery (some ⟨range, false, none⟩) none [] none with
    joins := [⟨.inner, ⟨"missing", true, none⟩, ⟨none, "x"⟩, ⟨none, "y"⟩⟩] }

def gluedFront : List Char :=
  Keyword.SELECT.letters ++
    ' ' :: (Symbol.star.text.toList ++ ' ' :: (Keyword.FROM.letters ++ [' ']))

def gluedBack : List Char :=
  " INNER JOIN:missing ON (x) = (y)".toList

/-- The text of the join with the virtual table right behind the keyword. -/
def gluedText (range : String) : String :=
  String.ofList (gluedFront ++ '"' :: (range.toList ++ ['"'] ++ gluedBack))

theorem grammatical_joinedWithMissing (range : String) :
    (Statement.select (joinedWithMissing range)).Grammatical := by
  have missing : IsTableName "missing" :=
    ⟨'m', "issing".toList, rfl, rfl, List.all_eq_true.mp (by decide)⟩
  constructor
  · simp [joinedWithMissing, starQuery]
  · simp [joinedWithMissing, starQuery]
  · simp [joinedWithMissing, starQuery, GrammaticalItems]
  · simp [joinedWithMissing, starQuery, TableRef.Grammatical]
  · intro join among
    obtain rfl := List.mem_singleton.mp among
    exact ⟨⟨fun _ => missing, by simp⟩, ⟨by simp, by decide⟩, ⟨by simp, by decide⟩⟩
  case offset => exact (by decide : digitCount 0 ≤ Numeral.digitLimit)
  all_goals simp [joinedWithMissing, starQuery]

variable {range : String}
  (plain : ∀ character ∈ range.toList, character ≠ '"' ∧ character ≠ '\\')

include plain

theorem parse_gluedText :
    Statement.parse (gluedText range) = .ok (.select (joinedWithMissing range)) := by
  have back : Cuts gluedBack [.keyword .INNER "INNER", .keyword .JOIN "JOIN",
      .tableRef "missing", .keyword .ON "ON", .symbol .openParen, .identifier "x",
      .symbol .closeParen, .symbol .eq, .symbol .openParen, .identifier "y",
      .symbol .closeParen] := cuts_of_lex (by decide +kernel) (by decide +kernel)
  have literal := cuts_literal (.inl rfl) (standsFor_of_plain plain) (by decide) back
  have source := cuts_keyword .FROM (atBreak_blank _) literal.blank
  have items := cuts_symbol .star (atBreak_blank _) source.blank
  have whole := cuts_keyword .SELECT (atBreak_blank _) items.blank
  have words : tokens (Statement.select (joinedWithMissing range)).words =
      [.keyword .SELECT (String.ofList Keyword.SELECT.letters), .symbol .star,
        .keyword .FROM (String.ofList Keyword.FROM.letters), .text range,
        .keyword .INNER "INNER", .keyword .JOIN "JOIN", .tableRef "missing", .keyword .ON "ON",
        .symbol .openParen, .identifier "x", .symbol .closeParen, .symbol .eq,
        .symbol .openParen, .identifier "y", .symbol .closeParen] := rfl
  apply parse_of_cuts (grammatical_joinedWithMissing range)
  rw [gluedText, String.toList_ofList, gluedFront, words]
  rw [String.ofList_toList] at whole
  simpa using whole

/-- The scan for virtual tables overlooks the one behind the keyword. -/
theorem tableReferences_gluedText : tableReferences (gluedText range).toList = .ok [] := by
  have back : Masks (gluedBack ++ []) (gluedBack ++ []) :=
    Masks.passes (passes_of_plain (isPlain_of_all (by decide)) []) masks_nil
  rw [List.append_nil] at back
  have literal := Masks.literal (.inl rfl) (literalBody_of_plain plain) (by decide) back
  have passes : Passes gluedFront ('"' :: (range.toList ++ ['"']) ++ gluedBack) :=
    passes_of_plain (isPlain_of_all (by decide)) _
  have masked : mask (gluedText range).toList = .ok (gluedFront ++
      ('"' :: (List.replicate range.toList.length '_' ++ ['"']) ++ gluedBack)) := by
    rw [gluedText, String.toList_ofList]
    exact Masks.passes passes literal 0
  have front : ':' ∉ gluedFront ++ '"' :: List.replicate range.toList.length '_' := by
    simp
    decide
  have found := referencesFrom_append (colonsBehindWords_of_notMem front none) ('"' :: gluedBack)
  have glued (previous : Option Char) : referencesFrom previous ('"' :: gluedBack) = [] := by
    rfl
  rw [glued] at found
  rw [tableReferences, masked]
  simp only [Except.map, List.append_assoc, List.cons_append, List.nil_append] at found ⊢
  rw [found]
  rfl

end Statement

namespace Engine

def openSheet : Location :=
  ⟨"book", "A:B", "", "A", some "B", 1, none⟩

def sheetEngine : Engine Unit :=
  ⟨zooEngine.source, ⟨[], some openSheet, true, {}⟩, default⟩

theorem missing_mem_targets (range : String) :
    some ⟨"missing", true, none⟩ ∈
      (Statement.select (Statement.joinedWithMissing range)).targets :=
  List.mem_cons_of_mem _ List.mem_cons_self

theorem joined_refused :
    ∃ error references,
      Statement.tableReferences (Statement.gluedText "A:B").toList = .ok references ∧
      sheetEngine.execute (Statement.gluedText "A:B") false (Session.start ()) =
        (.error error, Session.start ()) ∧
      sheetEngine.workspace.Refusal references
        (.select (Statement.joinedWithMissing "A:B")) error :=
  execute_refused (Statement.parse_gluedText (by simp))
    (.inr ⟨"missing", none, missing_mem_targets "A:B", rfl⟩) false _

/-- A range that cannot be read stops the join before the table after it is missed. -/
theorem execute_gluedText {range : String} {error : Error}
    (plain : ∀ character ∈ range.toList, character ≠ '"' ∧ character ≠ '\\')
    (refused : openSheet.withRange range = .error error) (session : Session Unit) :
    sheetEngine.execute (Statement.gluedText range) false session = (.error error, session) := by
  have checked : sheetEngine.workspace.check [] (.select (Statement.joinedWithMissing range)) =
      .error error := by
    have located : sheetEngine.workspace.locate (some ⟨range, false, none⟩) = .error error :=
      refused
    simp [Workspace.check, Statement.checkCondition, Statement.targets,
      Statement.joinedWithMissing, starQuery, Workspace.checkTarget, located, bind, Except.bind,
      pure, Except.pure]
  have prepared : sheetEngine.prepare (Statement.gluedText range) = .error error := by
    rw [prepare, Statement.read_of_parse (Statement.parse_gluedText plain)]
    simp only [Statement.tableReferences_gluedText plain, bind, Except.bind, checked]
  rw [execute, prepared]
  rfl

/-- A cell whose row has one digit more than a numeral may have. -/
def longCell : String :=
  openSheet.cell "A" (10 ^ Numeral.digitLimit)

theorem isUpper_A : ∀ letter ∈ "A".toList, letter.isUpper = true :=
  List.all_eq_true.mp (by decide)

theorem longCell_refused : openSheet.withRange longCell = .error (.data .notNumeral) := by
  have refused := Location.ofRange_cell_eq_error openSheet openSheet.spreadsheet isUpper_A
    (by decide) Statement.digitLimit_lt_digitCount
  rw [Location.withRange, longCell, refused]
  rfl

theorem plain_longCell : ∀ character ∈ longCell.toList, character ≠ '"' ∧ character ≠ '\\' := by
  have written : longCell.toList = Location.cornerText "A" (10 ^ Numeral.digitLimit) := by
    simp [longCell, Location.cell, Location.onSheet, openSheet, Location.cornerText]
  intro character among
  rw [written] at among
  have plain := Location.isSheetChar_of_mem_cornerText isUpper_A among
  constructor
  · rintro rfl
    exact absurd plain (by decide)
  · rintro rfl
    exact absurd plain (by decide)

/-- The join of a cell that cannot be read with a table that there is not does not stop as
one that is not valid. -/
theorem longCell_not_invalid :
    Statement.parse (Statement.gluedText longCell) =
      .ok (.select (Statement.joinedWithMissing longCell)) ∧
    some ⟨"missing", true, none⟩ ∈
      (Statement.select (Statement.joinedWithMissing longCell)).targets ∧
    sheetEngine.workspace.tables.lookup "missing" = none ∧
    sheetEngine.execute (Statement.gluedText longCell) false (Session.start ()) =
      (.error (.data .notNumeral), Session.start ()) :=
  ⟨Statement.parse_gluedText plain_longCell, missing_mem_targets longCell, rfl,
    execute_gluedText plain_longCell longCell_refused (Session.start ())⟩

end Engine

end GridQuery
