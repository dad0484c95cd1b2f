import GridQuery.Native.Text
import GridQuery.Proofs.Number.Written
import GridQuery.Proofs.Statement.Lexing

/-!
# Texts of the grid's language cut into tokens

A text is a row of pieces. Most pieces are cut as they stand only if a blank, a comma or a
parenthesis comes after them, and some whatever comes after them; pieces of both kinds are
put together to the texts of values and of clauses.
-/

namespace GridQuery

namespace NativeText

/-- The characters of a text. -/
def letters (text : NativeText) : List Char :=
  text.flatMap (·.text.toList)

@[simp]
theorem letters_nil : letters [] = [] := rfl

@[simp]
theorem letters_words (content : String) (text : NativeText) :
    letters (.words content :: text) = content.toList ++ letters text := rfl

@[simp]
theorem letters_quoted (quote : Char) (content : String) (text : NativeText) :
    letters (.quoted quote content :: text) =
      quote :: (content.toList ++ [quote] ++ letters text) := by
  simp [letters, NativePart.text]

@[simp]
theorem letters_append (left right : NativeText) :
    letters (left ++ right) = letters left ++ letters right := by
  simp [letters]

theorem toList_text (text : NativeText) : text.text.toList = letters text := by
  induction text with
  | nil => rfl
  | cons part text inductionHypothesis =>
      rw [NativeText.text] at inductionHypothesis ⊢
      simp [letters, String.join_cons, inductionHypothesis]

end NativeText

namespace Statement

/-- Characters are cut into the tokens wherever a word may end after them. -/
def Spells (letters : List Char) (tokens : List Token) : Prop :=
  ∀ rest found, AtBreak rest → Cuts rest found → Cuts (letters ++ rest) (tokens ++ found)

/-- Characters are cut into the tokens whatever comes after them. -/
def Begins (letters : List Char) (tokens : List Token) : Prop :=
  ∀ rest found, Cuts rest found → Cuts (letters ++ rest) (tokens ++ found)

/-- A word may end before the characters. -/
def Breaks (letters : List Char) : Prop :=
  ∀ rest, AtBreak (letters ++ rest)

theorem breaks_cons {first : Char} (among : first ∈ breaks) (later : List Char) :
    Breaks (first :: later) :=
  fun _ => (atBreak_cons first _).mpr among

variable {letters later : List Char} {tokens others : List Token}

theorem Begins.append (first : Begins letters tokens) (second : Begins later others) :
    Begins (letters ++ later) (tokens ++ others) := by
  intro rest found cuts
  rw [List.append_assoc, List.append_assoc]
  exact first _ _ (second rest found cuts)

theorem Begins.before (first : Begins letters tokens) (second : Spells later others) :
    Spells (letters ++ later) (tokens ++ others) := by
  intro rest found atBreak cuts
  rw [List.append_assoc, List.append_assoc]
  exact first _ _ (second rest found atBreak cuts)

theorem Spells.append (first : Spells letters tokens) (breaks : Breaks later)
    (second : Begins later others) : Begins (letters ++ later) (tokens ++ others) := by
  intro rest found cuts
  rw [List.append_assoc, List.append_assoc]
  exact first _ _ (breaks rest) (second rest found cuts)

theorem Spells.before (first : Spells letters tokens) (breaks : Breaks later)
    (second : Spells later others) : Spells (letters ++ later) (tokens ++ others) := by
  intro rest found atBreak cuts
  rw [List.append_assoc, List.append_assoc]
  exact first _ _ (breaks rest) (second rest found atBreak cuts)

/-! Words, signs and numbers. -/

theorem begins_blank : Begins [' '] [] :=
  fun _ _ cuts => cuts.blank

theorem begins_openParen : Begins ['('] [.symbol .openParen] :=
  fun rest _ cuts => Cuts.cons (by decide) (scanLexeme_openParen rest) cuts

theorem spells_symbol (sign : Symbol) : Spells sign.text.toList [.symbol sign] :=
  fun _ _ atBreak cuts => cuts_symbol sign atBreak cuts

theorem spells_closeParen : Spells [')'] [.symbol .closeParen] :=
  spells_symbol .closeParen

theorem begins_comma : Begins [',', ' '] [.symbol .comma] :=
  (spells_symbol .comma).append (breaks_cons (by decide) []) begins_blank

theorem spells_word {word : String} (named : IsTableName word) :
    Spells word.toList [wordToken word] := by
  obtain ⟨first, later, shape, start, all⟩ := named
  intro rest found atBreak cuts
  have bounds := toNat_of_isNameStart start
  have scanned := scanLexeme_word start all atBreak
  rw [← shape, String.ofList_toList] at scanned
  rw [shape]
  exact Cuts.append (isSpace_of_toNat (by omega)) scanned cuts

theorem spells_integer {value : Nat} (limited : IsNumeral value) :
    Spells (Text.ofNat value).toList [.integer value] := by
  intro rest found atBreak cuts
  rw [toList_ofNat]
  exact cuts_integer limited atBreak cuts

theorem spells_int {value : Int} (limited : IsNumeral value.natAbs) :
    Spells (Text.ofInt value).toList (Word.number (.int value)).tokens :=
  fun _ _ atBreak cuts => cuts_int limited atBreak cuts

/-- A text in quotes that it does not hold stands for itself if it has no backslash. -/
theorem spells_quoted {quote : Char} {content : String} (mark : quote = '"' ∨ quote = '\'')
    (unquoted : quote ∉ content.toList) (plain : '\\' ∉ content.toList) :
    Spells (quote :: (content.toList ++ [quote])) [.text content] := by
  intro rest found atBreak cuts
  have stands : StandsFor quote content.toList content.toList := by
    apply standsFor_of_plain
    intro character among
    constructor
    · rintro rfl
      exact unquoted among
    · rintro rfl
      exact plain among
  have single : rest.head? ≠ some quote :=
    atBreak.head?_ne (by rcases mark with rfl | rfl <;> decide)
  simpa using cuts_literal mark stands single cuts

/-! Keywords in small letters. -/

/-- The spelling of a keyword in small letters. -/
def Keyword.small (word : Keyword) : String :=
  ((spellings.find? (·.2 == word)).map (·.1)).getD ""

/-- The token of a keyword that is written in small letters. -/
def smallToken (word : Keyword) : Token :=
  .keyword word word.small

@[simp]
theorem smallToken_eq (word : Keyword) : smallToken word = .keyword word word.small := rfl

/-- Keywords in small letters with a blank after each. -/
def phrase (words : List Keyword) : List Char :=
  words.flatMap fun word => word.small.toList ++ [' ']

theorem ofWord?_small (word : Keyword) : Keyword.ofWord? word.small = some word := by
  cases word <;> decide +kernel

theorem spells_small (word : Keyword) : Spells word.small.toList [smallToken word] := by
  have named : IsTableName word.small := by
    cases word <;> exact ⟨_, _, rfl, rfl, List.all_eq_true.mp rfl⟩
  have found : wordToken word.small = smallToken word := by
    rw [wordToken, ofWord?_small, smallToken]
  rw [← found]
  exact spells_word named

theorem begins_phrase (words : List Keyword) : Begins (phrase words) (words.map smallToken) := by
  induction words with
  | nil => exact fun _ _ cuts => cuts
  | cons word words inductionHypothesis =>
      have first : Begins (word.small.toList ++ [' ']) [smallToken word] :=
        (spells_small word).append (breaks_cons (by decide) []) begins_blank
      exact first.append inductionHypothesis

/-- A word with a blank before it and one after it is cut whatever comes next. -/
theorem Spells.spaced (spells : Spells letters tokens) :
    Begins (' ' :: (letters ++ [' '])) tokens := by
  have closed : Begins (letters ++ [' ']) (tokens ++ []) :=
    spells.append (breaks_cons (by decide) []) begins_blank
  rw [List.append_nil] at closed
  exact begins_blank.append closed

/-! Numbers that are no integers. -/

/-- No sheet is named by characters without an exclamation mark. -/
theorem scanRange_eq_none_of_notMem {rest : List Char} (unmarked : '!' ∉ letters)
    (atBreak : AtBreak rest) : scanRange (letters ++ rest) = none := by
  have split := List.takeWhile_append_dropWhile (p := isNameChar) (l := letters)
  have all : ∀ character ∈ letters.takeWhile isNameChar, isNameChar character = true :=
    List.all_eq_true.mp List.all_takeWhile
  have stops : Stops isNameChar (letters.dropWhile isNameChar ++ rest) := by
    cases shape : letters.dropWhile isNameChar with
    | nil => exact atBreak.stops (by decide)
    | cons first later =>
        have stopped := stops_dropWhile isNameChar letters
        rw [shape] at stopped
        exact stops_append stopped (List.cons_ne_nil first later)
  have mark : (letters.dropWhile isNameChar ++ rest).head? ≠ some '!' := by
    cases shape : letters.dropWhile isNameChar with
    | nil => exact atBreak.head?_ne (by decide)
    | cons first later =>
        rintro ⟨rfl⟩
        apply unmarked
        rw [← split, shape]
        simp
  rw [← split, List.append_assoc]
  exact scanRange_eq_none all stops mark

theorem scanLexeme_float {number : Double} {first : Char}
    (writes : Double.Writes (first :: letters) number) (unmarked : '!' ∉ first :: letters)
    (digit : first.isDigit = true) {rest : List Char} (atBreak : AtBreak rest) :
    scanLexeme (first :: (letters ++ rest)) =
      some (.ok (.token (.float number), letters.length + 1)) := by
  obtain ⟨numeral, scanned, fractional, same⟩ :=
    writes rest (atBreak.stops (by decide)) (atBreak.stops (by decide))
  have range := scanRange_eq_none_of_notMem unmarked atBreak
  rw [List.cons_append] at scanned range
  have numeral : scanNumeral (first :: (letters ++ rest)) =
      some (.ok (.token (.float number), letters.length + 1)) := by
    simp [scanNumeral, scanned, fractional, same]
    omega
  exact scanLexeme_numeral digit range numeral

/-- The text of a finite number without its sign is cut into its magnitude. -/
theorem spells_magnitudeText (code : Fin Double.codeLimit) :
    Spells (Double.magnitudeText code) [.float (.finite false code)] := by
  intro rest found atBreak cuts
  have writes := Double.writes_magnitudeText code
  have unmarked : '!' ∉ Double.magnitudeText code := by
    intro among
    rcases Double.mem_magnitudeText among with digit | mark
    · exact absurd digit (by decide)
    · exact absurd mark (by decide)
  obtain ⟨first, later, shape, digit⟩ := Double.magnitudeText_shape code
  have bounds := Char.isDigit_iff_toNat.mp digit
  simp only [Char.reduceToNat] at bounds
  rw [shape] at writes unmarked ⊢
  exact Cuts.append (isSpace_of_toNat (by omega)) (scanLexeme_float writes unmarked digit atBreak)
    cuts

/-- A minus is cut off a text that begins with none. -/
theorem Spells.minus (spells : Spells letters tokens) {first : Char}
    (shape : letters = first :: later) (single : first ≠ '-') :
    Spells ('-' :: letters) (.symbol .minus :: tokens) := by
  intro rest found atBreak cuts
  subst shape
  exact cuts_minus (by simpa using single) (spells rest found atBreak cuts)

end Statement

end GridQuery
