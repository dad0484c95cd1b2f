import GridQuery.Proofs.Statement.Scanning

/-!
# Printed statements are cut into their words

Words with blanks between them are cut into the tokens of the words, one after another, and
no fault is found among them.
-/

namespace GridQuery.Statement

/-- A name that backticks can hold. -/
def IsName (name : String) : Prop :=
  name.toList ≠ [] ∧ backtick ∉ name.toList

instance (name : String) : Decidable (IsName name) :=
  inferInstanceAs (Decidable (name.toList ≠ [] ∧ backtick ∉ name.toList))

/-- A name that can follow a colon. -/
def IsTableName (name : String) : Prop :=
  ∃ first later, name.toList = first :: later ∧ isNameStart first = true ∧
    ∀ character ∈ later, isNameChar character = true

/-- A number of digits that are read as an integer. -/
def IsNumeral (value : Nat) : Prop :=
  digitCount value ≤ Numeral.digitLimit

/-- The least number of too many digits. -/
theorem digitLimit_lt_digitCount : Numeral.digitLimit < digitCount (10 ^ Numeral.digitLimit) := by
  by_contra short
  have bound := (Nat.length_toDigits_le_iff (by decide : 1 < 10) (by decide)).mp
    (Nat.le_of_not_lt short)
  exact Nat.lt_irrefl _ bound

/-- Whether a word is read back as its tokens. -/
def Word.Readable : Word → Prop
  | keyword _ => True
  | symbol _ => True
  | name given => IsName given
  | virtualTable given => IsTableName given
  | number (.int value) => IsNumeral value.natAbs
  | number (.float _) => False
  | text _ => True

/-- Whether characters are cut into the given tokens without a fault, wherever they stand. -/
def Cuts (characters : List Char) (found : List Token) : Prop :=
  ∀ position, (lexFrom position 0 characters).tokens.map (·.token) = found ∧
    (lexFrom position 0 characters).fault = none

/-- Where characters stand makes no difference to the tokens that they are cut into. -/
theorem lexFrom_position (characters : List Char) (position other skipped : Nat) :
    (lexFrom position skipped characters).tokens.map (·.token) =
        (lexFrom other skipped characters).tokens.map (·.token) ∧
      (lexFrom position skipped characters).fault.isSome =
        (lexFrom other skipped characters).fault.isSome := by
  induction characters generalizing position other skipped with
  | nil => exact ⟨rfl, rfl⟩
  | cons first rest inductionHypothesis =>
      simp only [lexFrom]
      split
      · exact inductionHypothesis _ _ _
      · split
        · exact inductionHypothesis _ _ _
        · split
          · exact ⟨rfl, rfl⟩
          · exact ⟨rfl, rfl⟩
          · exact inductionHypothesis _ _ _
          · next token length _ =>
              have later := inductionHypothesis (position + 1) (other + 1) (length - 1)
              exact ⟨congrArg (token :: ·) later.1, later.2⟩

/-- Characters are cut wherever they stand as they are where they stand alone. -/
theorem cuts_of_lex {characters : List Char} {found : List Token}
    (tokens : (lex characters).tokens.map (·.token) = found)
    (lexable : (lex characters).fault.isSome = false) : Cuts characters found := by
  intro position
  obtain ⟨same, sound⟩ := lexFrom_position characters position 0 0
  refine ⟨same.trans tokens, ?_⟩
  rw [← Option.isSome_eq_false_iff.trans Option.isNone_iff_eq_none]
  exact sound.trans lexable

theorem cuts_nil : Cuts [] [] := fun _ => ⟨rfl, rfl⟩

theorem lexFrom_skipped (characters : List Char) (position skipped : Nat) :
    lexFrom position skipped characters =
      lexFrom (position + min skipped characters.length) 0 (characters.drop skipped) := by
  induction characters generalizing position skipped with
  | nil => simp [lexFrom]
  | cons first rest inductionHypothesis =>
      cases skipped with
      | zero => simp
      | succ skipped =>
          have later := inductionHypothesis (position + 1) skipped
          simp only [lexFrom, Nat.zero_lt_succ, if_true, Nat.add_sub_cancel, later,
            List.drop_succ_cons, List.length_cons]
          congr 1
          omega

theorem Cuts.blank {rest : List Char} {found : List Token} (cuts : Cuts rest found) :
    Cuts (' ' :: rest) found := by
  intro position
  simpa [lexFrom, isSpace] using cuts (position + 1)

/-- A lexeme at the front is the first token. -/
theorem Cuts.cons {first : Char} {rest : List Char} {token : Token} {found : List Token}
    {length : Nat} (space : isSpace first = false)
    (scanned : scanLexeme (first :: rest) = some (.ok (.token token, length + 1)))
    (cuts : Cuts (rest.drop length) found) : Cuts (first :: rest) (token :: found) := by
  intro position
  have later := cuts (position + 1 + min length rest.length)
  have skipped := lexFrom_skipped rest (position + 1) length
  simp [lexFrom, space, scanned, skipped, later]

theorem Cuts.append {first : Char} {later rest : List Char} {token : Token}
    {found : List Token} (space : isSpace first = false)
    (scanned : scanLexeme (first :: (later ++ rest)) =
      some (.ok (.token token, later.length + 1)))
    (cuts : Cuts rest found) : Cuts (first :: (later ++ rest)) (token :: found) :=
  Cuts.cons space scanned (by simpa using cuts)

theorem isSpace_of_toNat {character : Char} (above : 33 ≤ character.toNat) :
    isSpace character = false := by
  have other (space : Char) (below : space.toNat < 33) : character ≠ space := by
    rintro rfl
    omega
  simp [isSpace, other ' ' (by decide), other '\t' (by decide), other '\r' (by decide)]

variable {rest : List Char} {found : List Token}

theorem cuts_keyword (word : Keyword) (atBreak : AtBreak rest) (cuts : Cuts rest found) :
    Cuts (word.letters ++ rest)
      (.keyword word (String.ofList word.letters) :: found) := by
  have scanned := scanLexeme_keyword word atBreak
  obtain ⟨first, later, shape, start, -⟩ := keyword_letters_shape word
  have bounds := toNat_of_isNameStart start
  rw [shape] at scanned ⊢
  exact Cuts.append (isSpace_of_toNat (by omega)) scanned cuts

theorem cuts_symbol (sign : Symbol) (atBreak : AtBreak rest) (cuts : Cuts rest found) :
    Cuts (sign.text.toList ++ rest) (.symbol sign :: found) := by
  have scanned := scanLexeme_symbol sign atBreak
  obtain ⟨first, later, shape, space⟩ : ∃ first later,
      sign.text.toList = first :: later ∧ isSpace first = false := by
    cases sign <;> exact ⟨_, _, rfl, rfl⟩
  rw [shape] at scanned ⊢
  exact Cuts.append space scanned cuts

theorem cuts_name {name : String} (holds : IsName name) (cuts : Cuts rest found) :
    Cuts (backtick :: (name.toList ++ [backtick] ++ rest)) (.identifier name :: found) := by
  apply Cuts.append (by decide) _ cuts
  simpa using scanLexeme_name holds.1 holds.2

theorem cuts_virtualTable {name : String} (holds : IsTableName name) (atBreak : AtBreak rest)
    (cuts : Cuts rest found) : Cuts (':' :: (name.toList ++ rest)) (.tableRef name :: found) := by
  obtain ⟨first, later, shape, start, all⟩ := holds
  have scanned := scanLexeme_virtualTable start all atBreak
  rw [← shape, String.ofList_toList] at scanned
  apply Cuts.append (by decide) _ cuts
  simpa [shape] using scanned

theorem cuts_literal {quote : Char} {body content : List Char}
    (mark : quote = '"' ∨ quote = '\'') (stands : StandsFor quote body content)
    (single : rest.head? ≠ some quote) (cuts : Cuts rest found) :
    Cuts (quote :: (body ++ [quote] ++ rest)) (.text (String.ofList content) :: found) := by
  have space : isSpace quote = false := by rcases mark with rfl | rfl <;> rfl
  apply Cuts.append space _ cuts
  simpa using scanLexeme_literal mark stands single

theorem cuts_text (content : String) (atBreak : AtBreak rest) (cuts : Cuts rest found) :
    Cuts ('"' :: (escape content.toList ++ ['"'] ++ rest)) (.text content :: found) := by
  simpa only [String.ofList_toList] using cuts_literal (.inl rfl)
    (standsFor_escape content.toList) (atBreak.head?_ne (by decide)) cuts

theorem cuts_integer {value : Nat} (limited : IsNumeral value) (atBreak : AtBreak rest)
    (cuts : Cuts rest found) :
    Cuts (Nat.toDigits 10 value ++ rest) (.integer value :: found) := by
  have scanned := scanLexeme_integer limited atBreak
  obtain ⟨first, later, shape, digit⟩ := toDigits_shape value
  have bounds := Char.isDigit_iff_toNat.mp digit
  simp only [Char.reduceToNat] at bounds
  rw [digitCount, shape] at scanned
  rw [shape]
  exact Cuts.append (isSpace_of_toNat (by omega)) scanned cuts

theorem cuts_minus (single : rest.head? ≠ some '-') (cuts : Cuts rest found) :
    Cuts ('-' :: rest) (.symbol .minus :: found) :=
  Cuts.cons (by decide) (scanLexeme_minus single) cuts

theorem cuts_int {value : Int} (limited : IsNumeral value.natAbs) (atBreak : AtBreak rest)
    (cuts : Cuts rest found) :
    Cuts ((Text.ofInt value).toList ++ rest) ((Word.number (.int value)).tokens ++ found) := by
  have size := cuts_integer limited atBreak cuts
  by_cases negative : value < 0
  · have single : (Nat.toDigits 10 value.natAbs ++ rest).head? ≠ some '-' := by
      obtain ⟨first, later, shape, digit⟩ := toDigits_shape value.natAbs
      rw [shape]
      rintro ⟨rfl⟩
      exact absurd digit (by decide)
    simpa [Text.ofInt, Word.tokens, negative] using cuts_minus single size
  · simpa [Text.ofInt, Word.tokens, negative] using size

/-- A word is cut into its tokens. -/
theorem cuts_word {word : Word} (readable : word.Readable) (atBreak : AtBreak rest)
    (cuts : Cuts rest found) : Cuts (word.letters ++ rest) (word.tokens ++ found) := by
  cases word with
  | keyword word => exact cuts_keyword word atBreak cuts
  | symbol sign => exact cuts_symbol sign atBreak cuts
  | name given => exact cuts_name readable cuts
  | virtualTable given => exact cuts_virtualTable readable atBreak cuts
  | number value =>
      cases value with
      | int value => exact cuts_int readable atBreak cuts
      | float value => exact readable.elim
  | text content => exact cuts_text content atBreak cuts

theorem cuts_spellBy {letters : Word → List Char} {words : List Word}
    (each : ∀ word ∈ words, ∀ rest found, AtBreak rest → Cuts rest found →
      Cuts (letters word ++ rest) (word.tokens ++ found)) :
    Cuts (spellBy letters words) (tokens words) := by
  induction words with
  | nil => exact cuts_nil
  | cons word words inductionHypothesis =>
      have later := inductionHypothesis fun other membership =>
        each other (List.mem_cons_of_mem word membership)
      have first := each word List.mem_cons_self
      cases words with
      | nil => simpa [spellBy, tokens] using first [] [] atBreak_nil cuts_nil
      | cons next words =>
          simpa [spellBy, tokens] using first _ _ (atBreak_blank _) later.blank

theorem cuts_spell {words : List Word} (readable : ∀ word ∈ words, word.Readable) :
    Cuts (spell words) (tokens words) := by
  rw [spell_eq_spellBy]
  exact cuts_spellBy fun word membership _ _ => cuts_word (readable word membership)

/-- An integer of too many digits stops the cutting of a query for it. -/
theorem lex_longInteger {value : Nat} (long : Numeral.digitLimit < digitCount value) :
    lex (Keyword.SELECT.letters ++ ' ' :: Nat.toDigits 10 value) =
      ⟨[⟨.keyword .SELECT "SELECT", 0⟩], some (.data .notNumeral)⟩ := by
  have stopped (position : Nat) :
      lexFrom position 0 (Nat.toDigits 10 value) = ⟨[], some (.data .notNumeral)⟩ := by
    have scanned := scanLexeme_longInteger long atBreak_nil
    obtain ⟨first, later, shape, digit⟩ := toDigits_shape value
    have bounds := Char.isDigit_iff_toNat.mp digit
    simp only [Char.reduceToNat] at bounds
    rw [List.append_nil, shape] at scanned
    simp [shape, lexFrom, isSpace_of_toNat (show 33 ≤ first.toNat by omega), scanned]
  have keyword := scanLexeme_keyword .SELECT (atBreak_blank (Nat.toDigits 10 value))
  have letters : Keyword.SELECT.letters = ['S', 'E', 'L', 'E', 'C', 'T'] := by decide
  rw [letters] at keyword ⊢
  simp only [List.cons_append, List.nil_append] at keyword ⊢
  simp [lex, lexFrom, isSpace, keyword, stopped]

end GridQuery.Statement
