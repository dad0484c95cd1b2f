import GridQuery.Proofs.Statement.References
import GridQuery.Proofs.Statement.RoundTrip

/-!
# One literal to insert

A text between two quotes, its backslashes and quotes doubled, is one literal that stands for
the text. So the statement that inserts it into a virtual table names that table and no
other, and is read as the insertion of the text, whatever the text holds.
-/

namespace GridQuery.Statement

/-- A text with each backslash and each quote doubled. -/
def doubleMarks (quote : Char) (content : List Char) : List Char :=
  content.flatMap fun character =>
    if character == '\\' || character == quote then [character, character] else [character]

/-- A text as a literal between two quotes. -/
def quoted (quote : Char) (content : String) : String :=
  String.ofList (quote :: (doubleMarks quote content.toList ++ [quote]))

/-- The text that inserts one literal into a virtual table. -/
def insertText (name : String) (quote : Char) (content : String) : String :=
  "INSERT INTO :" ++ name ++ " VALUES (" ++ quoted quote content ++ ")"

/-- What stands before the literal. -/
def insertFront (name : String) : List Char :=
  Keyword.INSERT.letters ++ ' ' :: (Keyword.INTO.letters ++ ' ' :: ':' ::
    (name.toList ++ ' ' :: (Keyword.VALUES.letters ++ [' ', '('])))

example : quoted '\'' "cat's \\" = "'cat''s \\\\'" := by
  decide

variable {name content : String} {quote : Char}

theorem toList_insertText :
    (insertText name quote content).toList =
      insertFront name ++ quote :: (doubleMarks quote content.toList ++ [quote] ++ [')']) := by
  have into : "INSERT INTO :".toList =
      Keyword.INSERT.letters ++ ' ' :: (Keyword.INTO.letters ++ [' ', ':']) := by
    rfl
  have values : " VALUES (".toList = ' ' :: (Keyword.VALUES.letters ++ [' ', '(']) := by
    rfl
  have closing : ")".toList = [')'] := by
    rfl
  -- As variables the literals are not taken apart for each rewriting.
  have joined {first middle last : String} {before between after : List Char}
      (isFirst : first.toList = before) (isMiddle : middle.toList = between)
      (isLast : last.toList = after) :
      (first ++ name ++ middle ++ quoted quote content ++ last).toList =
        before ++ name.toList ++ between ++
          (quote :: (doubleMarks quote content.toList ++ [quote])) ++ after := by
    rw [String.toList_append, String.toList_append, String.toList_append, String.toList_append,
      isFirst, isMiddle, isLast, quoted, String.toList_ofList]
  refine (joined into values closing).trans ?_
  simp only [insertFront, List.append_assoc, List.cons_append, List.nil_append]

theorem standsFor_doubleMarks (content : List Char) :
    StandsFor quote (doubleMarks quote content) content := by
  induction content with
  | nil => exact .nil
  | cons character content inductionHypothesis =>
      by_cases slash : character = '\\'
      · subst slash
        simpa [doubleMarks] using
          StandsFor.escaped (show escaped? '\\' = some '\\' from rfl) inductionHypothesis
      · by_cases equal : character = quote
        · subst equal
          simpa [doubleMarks] using StandsFor.doubled inductionHypothesis
        · simpa [doubleMarks, slash, equal] using
            StandsFor.plain equal slash inductionHypothesis

/-! ### The statement of the text -/

/-- The statement that inserts one text into a virtual table. -/
def insertion (name content : String) : Statement :=
  .change (.insert ⟨some ⟨name, true, none⟩, none, [[.literal (.text content)]]⟩)

theorem grammatical_insertion (named : IsTableName name) :
    (insertion name content).Grammatical where
  target := by
    rintro table ⟨⟩
    exact ⟨fun _ => named, by simp⟩
  columns := by simp
  rows := by simp [Expr.Grammatical, Cell.Grammatical]

theorem cuts_insertText (named : IsTableName name) (mark : quote = '"' ∨ quote = '\'') :
    Cuts (insertText name quote content).toList (tokens (insertion name content).words) := by
  have single : [')'].head? ≠ some quote := by rcases mark with rfl | rfl <;> decide
  have closing : Cuts [')'] [.symbol .closeParen] := cuts_symbol .closeParen atBreak_nil cuts_nil
  have literal := cuts_literal mark (standsFor_doubleMarks content.toList) single closing
  have opening := Cuts.cons (by decide) (scanLexeme_openParen _) literal
  have values := cuts_keyword .VALUES (atBreak_blank _) opening.blank
  have table := cuts_virtualTable named (atBreak_blank _) values.blank
  have into := cuts_keyword .INTO (atBreak_blank _) table.blank
  have whole := cuts_keyword .INSERT (atBreak_blank _) into.blank
  rw [toList_insertText]
  simpa [insertFront, insertion, tokens, Statement.words, InsertQuery.words,
    InsertQuery.clauses, clause, TableRef.words, listed, enclosed, Expr.words, Cell.words,
    Word.tokens] using whole

theorem parse_insertText (named : IsTableName name) (mark : quote = '"' ∨ quote = '\'') :
    Statement.parse (insertText name quote content) = .ok (insertion name content) :=
  parse_of_cuts (grammatical_insertion named) (cuts_insertText named mark)

/-! ### The mask of the text -/

theorem isNameChar_of_isTableName (named : IsTableName name) :
    ∀ character ∈ name.toList, isNameChar character = true := by
  obtain ⟨first, later, shape, start, all⟩ := named
  rw [shape]
  exact List.forall_mem_cons.mpr ⟨isNameChar_of_isNameStart start, all⟩

theorem isPlain_insertFront (named : IsTableName name) :
    ∀ character ∈ insertFront name, IsPlain character := by
  have keyword (word : Keyword) (character : Char) (among : character ∈ word.letters) :
      IsPlain character := by
    obtain ⟨-, -, -, -, all⟩ := keyword_letters_shape word
    exact isPlain_of_isNameChar (all character among)
  have letters (character : Char) (among : character ∈ name.toList) : IsPlain character :=
    isPlain_of_isNameChar (isNameChar_of_isTableName named character among)
  simp only [insertFront, List.forall_mem_append, List.forall_mem_cons]
  exact ⟨keyword _, by decide, keyword _, by decide, by decide, letters, by decide, keyword _,
    by decide, by decide, by simp⟩

/-- The mask of the text after the front: the literal is covered up to its last quote. -/
def insertEnd (quote : Char) (content : String) : List Char :=
  quote :: (List.replicate (doubleMarks quote content.toList).length '_' ++ [quote, ')'])

theorem mask_insertText (named : IsTableName name) (mark : quote = '"' ∨ quote = '\'') :
    mask (insertText name quote content).toList =
      .ok (insertFront name ++ insertEnd quote content) := by
  have single : [')'].head? ≠ some quote := by rcases mark with rfl | rfl <;> decide
  have closing : Masks [')'] [')'] := masks_nil.cons rfl (by simp)
  have literal := Masks.literal mark (standsFor_doubleMarks content.toList).literalBody single
    closing
  have whole := Masks.passes (passes_of_plain (isPlain_insertFront named) _) literal
  rw [toList_insertText]
  simpa [mask, insertEnd] using whole 0

theorem verb?_insertText (named : IsTableName name) (mark : quote = '"' ∨ quote = '\'') :
    verb? (insertText name quote content).toList = .ok (some "INSERT") := by
  have word (rest : List Char) : ((Keyword.INSERT.letters ++ ' ' :: rest).dropWhile
      Text.isBlank).takeWhile isNameStart = Keyword.INSERT.letters := by
    have begins : Stops Text.isBlank (Keyword.INSERT.letters ++ ' ' :: rest) :=
      stops_append ((stops_cons _ _ _).mpr (by decide)) (by decide)
    rw [dropWhile_of_stops begins]
    exact takeWhile_append_stops (List.all_eq_true.mp (by decide)) (by simp [isNameStart])
  rw [verb?, mask_insertText named mark, insertFront, List.append_assoc]
  simp only [Except.map, List.cons_append, word]
  rfl

/-! ### The tables that the text names -/

/-- A table between a blank and what names none. -/
theorem referencesFrom_table {rest : List Char} (named : IsTableName name)
    (stops : Stops isNameChar rest) (none : ':' ∉ rest) :
    referencesFrom (some ' ') (':' :: (name.toList ++ rest)) = [name] := by
  have free : Text.isWordChar ' ' = false := by decide
  have nothing (previous : Option Char) : referencesFrom previous rest = [] := by
    simpa [referencesFrom] using
      referencesFrom_append (colonsBehindWords_of_notMem none previous) []
  obtain ⟨first, letters, shape, start, all⟩ := named
  have written : String.ofList (first :: letters) = name := by
    rw [← shape, String.ofList_toList]
  have marks : ∀ last ∈ some ' ', last ≠ ':' ∧ last ≠ '!' := by simp
  have found := referencesFrom_name start all stops marks
  simpa [shape, free, nothing, written] using found

theorem tableReferences_insertText (named : IsTableName name)
    (mark : quote = '"' ∨ quote = '\'') :
    tableReferences (insertText name quote content).toList = .ok [name] := by
  have split : insertFront name ++ insertEnd quote content =
      (Keyword.INSERT.letters ++ ' ' :: (Keyword.INTO.letters ++ [' '])) ++ ':' ::
        (name.toList ++ (' ' :: (Keyword.VALUES.letters ++ [' ', '(']) ++
          insertEnd quote content)) := by
    simp [insertFront]
  have colon : ':' ≠ quote := by rcases mark with rfl | rfl <;> decide
  have covered : ':' ∉ insertEnd quote content := by simp [insertEnd, colon]
  have none : ':' ∉ ' ' :: (Keyword.VALUES.letters ++ [' ', '(']) ++ insertEnd quote content := by
    rw [List.mem_append, not_or]
    exact ⟨by decide, covered⟩
  rw [tableReferences, mask_insertText named mark, split]
  have stops : Stops isNameChar
      (' ' :: (Keyword.VALUES.letters ++ [' ', '(']) ++ insertEnd quote content) := by
    rw [List.cons_append, stops_cons]
    decide
  have references := referencesFrom_append (colonsBehindWords_of_notMem
    (show ':' ∉ Keyword.INSERT.letters ++ ' ' :: (Keyword.INTO.letters ++ [' ']) by decide) Option.none)
  have last : (Keyword.INSERT.letters ++ ' ' :: (Keyword.INTO.letters ++ [' '])).getLast?.or
      Option.none = some ' ' := by
    rfl
  simp only [Except.map, references, last, referencesFrom_table named stops none]
  rfl

/-- The text is read as the insertion. -/
theorem read_insertText (named : IsTableName name) (mark : quote = '"' ∨ quote = '\'') :
    Statement.read (insertText name quote content) = .ok (insertion name content) := by
  have nonempty : (Text.trimList (insertText name quote content).toList).isEmpty = false := by
    have begins : Stops Text.isBlank (insertText name quote content).toList := by
      rw [toList_insertText, insertFront, List.append_assoc]
      exact stops_append ((stops_cons _ _ _).mpr (by decide)) (by decide)
    have ends : Stops Text.isBlank (insertText name quote content).toList.reverse := by
      have last : Text.isBlank ')' = false := by decide
      simp [toList_insertText, last]
    rw [trimList_of_stops begins ends, toList_insertText]
    simp
  simp only [Statement.read, nonempty, verb?_insertText named mark, Bool.false_eq_true, if_false]
  exact parse_insertText named mark

end GridQuery.Statement
