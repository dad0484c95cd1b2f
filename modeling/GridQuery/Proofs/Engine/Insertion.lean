import GridQuery.Proofs.Engine.Preview
import GridQuery.Proofs.Statement.Insertion

/-!
# An INSERT of one literal

Whatever text a literal stands for, an INSERT of it into a virtual table adds one row and does
nothing else: the text comes first in the row, and the rest of it is empty.
-/

namespace GridQuery

namespace Engine

open Statement

variable {State : Type} {engine : Engine State} {name content : String} {quote : Char}
  {header : List Datum} {raw : List (List Datum)}

/-- A row of a width that begins with a text and is empty otherwise. -/
def textRow (width : Nat) (content : String) : List Datum :=
  .text content :: List.replicate (width - 1) (.text "")

theorem virtualRows_withTable :
    (engine.withTable name (header :: raw)).workspace.virtualRows name =
      .ok ((header :: raw).map .list) := by
  simp [withTable, Workspace.virtualRows]

theorem prepare_insertText (named : IsTableName name) (mark : quote = '"' ∨ quote = '\'')
    (inserts : engine.workspace.settings.virtualInserts = true) :
    (engine.withTable name (header :: raw)).prepare (insertText name quote content) =
      .ok (insertion name content) := by
  have known : (engine.withTable name (header :: raw)).workspace.tables.lookup name =
      some (.list ((header :: raw).map .list)) := by
    simp [withTable]
  have checked : (engine.withTable name (header :: raw)).workspace.check [name]
      (insertion name content) = .ok () := by
    have settings : (engine.withTable name (header :: raw)).workspace.settings.virtualInserts =
        true := inserts
    simp [Workspace.check, known, Statement.checkCondition, Statement.checkInsert, insertion,
      Statement.targets, Mutation.target, Workspace.checkTarget, virtualRows_withTable,
      settings]
  rw [prepare, read_insertText named mark]
  simp only [tableReferences_insertText named mark, bind_eq_ok_iff]
  exact ⟨_, rfl, (), checked, rfl⟩

theorem planInsert_text (evaluator : Evaluator) (table : Table) (wide : header ≠ []) :
    evaluator.planInsert ⟨some ⟨name, true, none⟩, none, [[.literal (.text content)]]⟩
      (some table) (some header.length) = .ok [textRow header.length content] := by
  have fits : ¬ header.length < 1 := by
    have filled := List.length_pos_iff.mpr wide
    omega
  have evaluated : evaluator.values Context.constant [.literal (.text content)] =
      .ok [.text content] := by
    rfl
  simp [Evaluator.planInsert, evaluated, Evaluator.positionalRow, Cell.toDatum, fits, textRow]

theorem changeVirtual_text (wide : header ≠ []) :
    (engine.withTable name (header :: raw)).changeVirtual
        (.insert ⟨some ⟨name, true, none⟩, none, [[.literal (.text content)]]⟩) name none =
      .ok ⟨.insert, 1, .null, none,
        some ((header :: raw) ++ [textRow header.length content])⟩ := by
  have tabled : (engine.withTable name (header :: raw)).virtualTable name none =
      .ok (Table.ofHeader name none header raw, header :: raw) := by
    have items := mapM_rowItems_list (header :: raw)
    simp only [virtualTable, virtualRows_withTable, bind_eq_ok_iff, lift_data_eq_ok_iff]
    exact ⟨_, items, _, Table.ofVirtual_eq items, rfl⟩
  rw [changeVirtual, bind_eq_ok_iff]
  refine ⟨_, tabled, ?_⟩
  simp [insertVirtual, Table.length_columns_ofHeader, planInsert_text _ _ wide]

/-- An escaped literal adds one row with its text, whatever the text holds, and neither names
another table nor ends before its last quote. -/
theorem execute_insertText (named : IsTableName name) (mark : quote = '"' ∨ quote = '\'')
    (inserts : engine.workspace.settings.virtualInserts = true) (wide : header ≠ [])
    (withMetadata : Bool) (session : Session State) :
    (engine.withTable name (header :: raw)).execute (insertText name quote content)
        withMetadata session =
      (.ok (.changed ⟨.insert, 1, .null, none,
        some ((header :: raw) ++ [textRow header.length content])⟩), session) := by
  rw [execute, prepare_insertText named mark inserts]
  simp only [Step.bind_apply, Step.liftM_apply, run, insertion, change, Mutation.target,
    changeVirtual_text wide]
  rfl

/-- A text that ends its literal, its statement and its line, if nothing is doubled. -/
def ending : String := "'); DELETE FROM :zoo -- \\"

theorem zoo_execute_insertText :
    (zooEngine.withTable "zoo" [[.text "animal", .text "legs"], [.text "ant", .int 6]]).execute
        (insertText "zoo" '\'' ending) false (Session.start ()) =
      (.ok (.changed ⟨.insert, 1, .null, none,
        some [[.text "animal", .text "legs"], [.text "ant", .int 6],
          [.text ending, .text ""]]⟩), Session.start ()) :=
  execute_insertText ⟨'z', ['o', 'o'], rfl, rfl, List.all_eq_true.mp (by decide)⟩ (.inr rfl) rfl
    (by simp) false _

end Engine

end GridQuery
