import GridQuery.Proofs.Statement.Mask

/-!
# The tables that a statement names

The scan for names of virtual tables finds those that the tokens refer to, in their order. A
colon inside a literal or a comment is painted over, one between two corners of a range stands
behind a word, and any other begins a reference. But a reference right behind a word is taken
for a part of a range, and overlooked.
-/

namespace GridQuery.Statement

/-- The names of the virtual tables that tokens refer to. -/
def tableNames (tokens : List PlacedToken) : List String :=
  tokens.filterMap fun placed =>
    match placed.token with
    | .tableRef name => some name
    | _ => none

/-- The place is right behind a word. -/
def isBehindWord (statement : List Char) (position : Nat) : Bool :=
  (statement.take position).getLast?.any Text.isWordChar

/-! ### Colons that begin no name -/

theorem ColonsBehindWords.of_none {text : List Char} (behind : ColonsBehindWords none text)
    (previous : Option Char) : ColonsBehindWords previous text := by
  cases text with
  | nil => trivial
  | cons first text => exact ⟨fun colon => absurd (behind.1 colon) (by simp), behind.2⟩

/-- Behind words there are no references. -/
theorem referencesFrom_append {previous : Option Char} {text : List Char}
    (behind : ColonsBehindWords previous text) (rest : List Char) :
    referencesFrom previous (text ++ rest) =
      referencesFrom (text.getLast?.or previous) rest := by
  induction text generalizing previous with
  | nil => rfl
  | cons first text inductionHypothesis =>
      obtain ⟨here, later⟩ := behind
      have step : referencesFrom previous (first :: (text ++ rest)) =
          referencesFrom (some first) (text ++ rest) := by
        by_cases colon : first = ':'
        · obtain ⟨character, rfl, word⟩ := Option.any_eq_true _ _ |>.mp (here colon)
          simp [referencesFrom, word]
        · simp [referencesFrom, colon]
      rw [List.cons_append, step, inductionHypothesis later]
      cases last : text.getLast? <;> simp [List.getLast?_cons, last]

/-- A reference is found unless a word, a colon or an exclamation mark stands before it. -/
theorem referencesFrom_name {first : Char} {name rest : List Char} {previous : Option Char}
    (start : isNameStart first = true) (named : ∀ character ∈ name, isNameChar character = true)
    (stops : Stops isNameChar rest) (marks : ∀ last ∈ previous, last ≠ ':' ∧ last ≠ '!') :
    referencesFrom previous (':' :: first :: name ++ rest) =
      (if previous.any Text.isWordChar then [] else [String.ofList (first :: name)]) ++
        referencesFrom (first :: name).getLast? rest := by
  have all : ∀ character ∈ first :: name, isNameChar character = true :=
    List.forall_mem_cons.mpr ⟨isNameChar_of_isNameStart start, named⟩
  have later : referencesFrom (some ':') (first :: name ++ rest) =
      referencesFrom (first :: name).getLast? rest := by
    have colon : ':' ∉ first :: name := notMem_of_test all (by decide)
    rw [referencesFrom_append (colonsBehindWords_of_notMem colon _)]
    simp [List.getLast?_cons]
  have taken : (first :: (name ++ rest)).takeWhile isNameChar = first :: name :=
    takeWhile_append_stops all stops
  cases previous with
  | none => simpa [referencesFrom, start, taken] using later
  | some character =>
      obtain ⟨colon, exclamation⟩ := marks character rfl
      cases word : Text.isWordChar character <;>
        simpa [referencesFrom, start, taken, colon, exclamation, word] using later

/-! ### References among the lexemes -/

/-- Where a colon comes next, what stands before it is left as it was and is neither a colon
nor an exclamation mark. -/
def LeadsTo (rest : List Char) (previous given : Option Char) : Prop :=
  rest.head? = some ':' → previous = given ∧ ∀ last ∈ previous, last ≠ ':' ∧ last ≠ '!'

/-- The quotes of a literal are not painted over. -/
theorem leadsTo_quoted {quote : Char} (colon : quote ≠ ':') (exclamation : quote ≠ '!')
    (body shown rest : List Char) :
    LeadsTo rest (quote :: (shown ++ [quote])).getLast? (quote :: (body ++ [quote])).getLast? := by
  rw [← List.cons_append, ← List.cons_append, List.getLast?_concat, List.getLast?_concat]
  exact fun _ => ⟨rfl, by simp [colon, exclamation]⟩

/-- Where a lexeme refers to a table, it is told by what stands before it. -/
theorem tableNames_of_tableRef (name : String) (position : Nat) (written : List Char)
    (found : List PlacedLexeme) (test : PlacedToken → Bool) :
    tableNames (((⟨.token (.tableRef name), position, written⟩ :: found).filterMap
        PlacedLexeme.token?).filter test) =
      (if test ⟨.tableRef name, position⟩ then [name] else []) ++
        tableNames ((found.filterMap PlacedLexeme.token?).filter test) := by
  cases passed : test ⟨.tableRef name, position⟩ <;>
    simp [PlacedLexeme.token?, tableNames, passed]

theorem tableNames_of_other {lexeme : Lexeme} (other : ∀ name, lexeme ≠ .token (.tableRef name))
    (position : Nat) (written : List Char) (found : List PlacedLexeme)
    (test : PlacedToken → Bool) :
    tableNames (((⟨lexeme, position, written⟩ :: found).filterMap PlacedLexeme.token?).filter
        test) =
      tableNames ((found.filterMap PlacedLexeme.token?).filter test) := by
  cases lexeme with
  | dropped => rfl
  | token token =>
      have silent : tableNames [⟨token, position⟩] = [] := by
        cases token with
        | tableRef name => exact absurd rfl (other name)
        | _ => rfl
      cases passed : test ⟨token, position⟩ with
      | false => simp [PlacedLexeme.token?, passed]
      | true =>
          simp only [List.filterMap_cons, PlacedLexeme.token?, List.filter_cons, passed, if_true]
          rw [tableNames, ← List.singleton_append, List.filterMap_append]
          exact congrArg (· ++ _) silent

/-- The names that references begin in the painted characters, the character before them
given, are those of the references that no word stands before. -/
theorem referencesFrom_paintFrom {position : Nat} {characters : List Char}
    {found : List PlacedLexeme} (splits : Splits position characters found)
    (front : List Char) (previous : Option Char) (place : position = front.length)
    (leads : LeadsTo characters previous front.getLast?) :
    referencesFrom previous
        (paintFrom (fun _ => '_') (fun _ => ' ') found position characters) =
      tableNames ((found.filterMap PlacedLexeme.token?).filter fun placed =>
        !isBehindWord (front ++ characters) placed.position) := by
  induction splits generalizing front previous with
  | nil => rfl
  | @space position first rest found space splits inductionHypothesis =>
      have before : ∀ later ∈ found, position < later.position := splits.le_position
      have other : first ≠ ':' ∧ first ≠ '!' := by
        constructor <;> rintro rfl <;> exact absurd space (by decide)
      have behind : ColonsBehindWords previous [first] :=
        ⟨fun colon => absurd colon other.1, trivial⟩
      have later := inductionHypothesis (front ++ [first]) (some first) (by simp [place])
        fun _ => ⟨by simp, by simpa using other⟩
      rw [paintFrom, painted_of_before before, ← List.singleton_append,
        referencesFrom_append behind]
      simpa using later
  | @lexeme position lexeme written rest found scanned splits inductionHypothesis =>
      have before := splits.le_position
      have shape := shape_of_scanLexeme scanned
      have later (shown : Option Char) (next : LeadsTo rest shown written.getLast?) :
          referencesFrom shown (paintFrom (fun _ => '_') (fun _ => ' ') found
              (position + written.length) rest) =
            tableNames ((found.filterMap PlacedLexeme.token?).filter fun placed =>
              !isBehindWord (front ++ (written ++ rest)) placed.position) := by
        have last : (front ++ written).getLast? = written.getLast? :=
          List.getLast?_append_of_ne_nil front shape.ne_nil
        rw [← List.append_assoc]
        exact inductionHypothesis (front ++ written) shown (by simp [place]) (last ▸ next)
      -- A lexeme that refers to no table is passed over, whatever it is painted with.
      have skip (shown : List Char) (filled : shown ≠ [])
          (other : ∀ name, lexeme ≠ .token (.tableRef name))
          (behind : ColonsBehindWords none shown)
          (next : LeadsTo rest shown.getLast? written.getLast?) :
          referencesFrom previous (shown ++ paintFrom (fun _ => '_') (fun _ => ' ') found
              (position + written.length) rest) =
            tableNames (((⟨lexeme, position, written⟩ :: found).filterMap
              PlacedLexeme.token?).filter fun placed =>
                !isBehindWord (front ++ (written ++ rest)) placed.position) := by
        have last : shown.getLast?.or previous = shown.getLast? := by
          rw [List.getLast?_eq_some_getLast filled, Option.some_or]
        rw [tableNames_of_other other, referencesFrom_append (behind.of_none previous), last,
          later _ next]
      rw [paintFrom_append, paintFrom_cons_of_after (Nat.le_refl _)]
      cases shape with
      | @literal content quote body _ mark =>
          rw [paintFrom_of_literal before rfl rfl rfl]
          have colon : quote ≠ ':' := by rcases mark with rfl | rfl <;> decide
          have exclamation : quote ≠ '!' := by rcases mark with rfl | rfl <;> decide
          exact skip _ (by simp) (by simp)
            (colonsBehindWords_of_notMem (by simp [colon.symm]) none)
            (leadsTo_quoted colon exclamation body _ rest)
      | @quotedName name _ without =>
          rw [paintFrom_of_literal before (by simp [PlacedLexeme.isLiteral]) rfl rfl]
          exact skip _ (by simp) (by simp)
            (colonsBehindWords_of_notMem (by simp [backtick]) none)
            (leadsTo_quoted (by decide) (by decide) name _ rest)
      | lineBreak rest =>
          rw [paintFrom_of_other before rfl rfl]
          exact skip ['\n'] (by simp) (by simp) (colonsBehindWords_of_notMem (by decide) none)
            fun _ => ⟨rfl, by simp⟩
      | @comment text rest without stops =>
          rw [paintFrom_of_comment before rfl rfl]
          refine skip _ (by simp) (by simp) (colonsBehindWords_of_notMem (by simp) none)
            fun colon => ?_
          exact absurd (stops ':' colon) (by decide)
      | passing other nonempty passes colons =>
          rw [paintFrom_of_other before (isLiteral_of_passes other passes) rfl]
          cases colons with
          | @tableRef first name _ start named stops =>
              obtain ⟨same, marks⟩ := leads rfl
              have all : ∀ character ∈ first :: name, isNameChar character = true :=
                List.forall_mem_cons.mpr ⟨isNameChar_of_isNameStart start, named⟩
              have next : LeadsTo rest (first :: name).getLast?
                  (':' :: first :: name).getLast? := by
                refine fun _ => ⟨by simp, fun last ends => ?_⟩
                have letter := all last (List.mem_of_getLast? ends)
                constructor <;> rintro rfl <;> exact absurd letter (by decide)
              have behind : isBehindWord (front ++ (':' :: first :: name ++ rest)) position =
                  previous.any Text.isWordChar := by
                rw [isBehindWord, place, List.take_left, same]
              have stopped : Stops isNameChar (paintFrom (fun _ => '_') (fun _ => ' ') found
                  (position + (':' :: first :: name).length) rest) :=
                stops_paintFrom splits (fun _ => by decide) stops
              rw [referencesFrom_name start named stopped marks, later _ next,
                tableNames_of_tableRef, behind]
              cases previous.any Text.isWordChar <;> rfl
          | other _ noTable behind last =>
              exact skip _ nonempty (by simpa using noTable) behind fun _ => ⟨rfl, last⟩

/-- In a text that can be cut into tokens, the scan finds the tables that the tokens refer to,
in their order and each once, but for references right behind a word. -/
theorem tableReferences_of_lexable {statement : List Char}
    (lexable : (lex statement).fault = none) :
    tableReferences statement =
      .ok (tableNames ((lex statement).tokens.filter fun placed =>
        !isBehindWord statement placed.position)).eraseDups := by
  have found := referencesFrom_paintFrom (splits_of_fault_none lexable) [] none rfl
    fun _ => ⟨rfl, by simp⟩
  rw [List.nil_append] at found
  rw [tableReferences, mask_of_lexable lexable, tokens_lex, Except.map, found]

/-! ### References beside quotes and ranges, and one behind a word -/

/-- Colons in a literal, in a range and in a comment name no table. -/
def harvest : List Char := "SELECT ':x' FROM :a,:b,'':a JOIN(:c) A!B1:C2 -- :d".toList

theorem harvest_tableReferences :
    (lex harvest).fault = none ∧ tableReferences harvest = .ok ["a", "b", "c"] := by
  have lexable : (lex harvest).fault = none := by rfl
  refine ⟨lexable, ?_⟩
  rw [tableReferences_of_lexable lexable]
  rfl

/-- The tokens of this text refer to a table that the scan overlooks. -/
theorem fromTable_not_found :
    (lex "SELECT * FROM:t".toList).fault = none ∧
      tableReferences "SELECT * FROM:t".toList = .ok [] ∧
      (tableNames (lex "SELECT * FROM:t".toList).tokens).eraseDups = ["t"] := by
  decide +kernel

end GridQuery.Statement
