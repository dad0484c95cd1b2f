import GridQuery.Proofs.Numeral
import GridQuery.Proofs.Statement.Literal
import GridQuery.Proofs.Statement.Printer

/-!
# Printed words are scanned back

At the beginning of a printed word the scanner takes the whole word, if nothing, a blank, a
comma or a parenthesis comes after it, and no other kind of lexeme is found there first.
-/

namespace GridQuery.Statement

/-- The characters that a word ends before, whatever word it is. -/
def breaks : List Char := [' ', ',', '(', ')']

/-- Nothing comes next or a character that a word ends before. -/
def AtBreak (rest : List Char) : Prop :=
  Stops (!breaks.contains ·) rest

@[simp]
theorem atBreak_nil : AtBreak [] := by simp [AtBreak]

@[simp]
theorem atBreak_cons (next : Char) (rest : List Char) :
    AtBreak (next :: rest) ↔ next ∈ breaks := by
  simp [AtBreak]

theorem atBreak_blank (rest : List Char) : AtBreak (' ' :: rest) := by simp [breaks]

theorem AtBreak.stops {rest : List Char} (atBreak : AtBreak rest) {test : Char → Bool}
    (failed : breaks.all (!test ·) = true) : Stops test rest := by
  intro character membership
  have among : character ∈ breaks := by simpa using atBreak character membership
  simpa using List.all_eq_true.mp failed character among

theorem AtBreak.head?_ne {rest : List Char} (atBreak : AtBreak rest) {character : Char}
    (other : character ∉ breaks) : rest.head? ≠ some character := by
  intro head
  exact other (by simpa using atBreak character (by simp [head]))

/-! Characters that names begin with and go on with. -/

theorem toNat_of_isNameStart {character : Char} (start : isNameStart character = true) :
    65 ≤ character.toNat ∧ character.toNat ≤ 122 := by
  simp only [isNameStart, Bool.or_eq_true, beq_iff_eq] at start
  rcases start with letter | rfl
  · simp [Char.isAlpha, Char.isUpper, Char.isLower, UInt32.le_iff_toNat_le] at letter
    omega
  · decide

theorem isNameChar_of_isNameStart {character : Char} (start : isNameStart character = true) :
    isNameChar character = true := by
  simp only [isNameStart, isNameChar, Char.isAlphanum, Bool.or_eq_true] at start ⊢
  rcases start with letter | line
  · exact .inl (.inl letter)
  · exact .inr line

theorem isNameChar_of_isDigit {character : Char} (digit : character.isDigit = true) :
    isNameChar character = true := by
  simp [isNameChar, Char.isAlphanum, digit]

theorem digitValue?_of_isNameStart {character : Char} (start : isNameStart character = true) :
    Text.digitValue? character = none := by
  have bounds := toNat_of_isNameStart start
  exact Text.digitValue?_eq_none (by omega)

/-! What is not found at a place. -/

theorem scanEquality_eq_none (first : Char) (rest : List Char) (mark : first ≠ '!')
    (less : first ≠ '<') (equal : first ≠ '=') : scanEquality (first :: rest) = none := by
  unfold scanEquality
  split <;> simp_all

theorem scanTableRef_eq_none (first : Char) (rest : List Char) (colon : first ≠ ':') :
    scanTableRef (first :: rest) = none := by
  unfold scanTableRef
  split <;> simp_all

/-- No sheet is named where no exclamation mark follows the name. -/
theorem scanRange_eq_none {name rest : List Char}
    (all : ∀ character ∈ name, isNameChar character = true) (stops : Stops isNameChar rest)
    (mark : rest.head? ≠ some '!') : scanRange (name ++ rest) = none := by
  unfold scanRange
  simp only [takeWhile_append_stops all stops, List.drop_left]
  cases name with
  | nil => rfl
  | cons first name =>
      cases rest with
      | nil => rfl
      | cons next rest =>
          have other : next ≠ '!' := by simpa using mark
          simp only [List.isEmpty_cons, Bool.false_eq_true, if_false]
          split
          · next shape => exact absurd (List.cons.inj shape).1 other
          · rfl

theorem scanRange_cons_eq_none {first : Char} (rest : List Char)
    (other : isNameChar first = false) : scanRange (first :: rest) = none := by
  simp [scanRange, other]

theorem scanNumeral_eq_none (first : Char) (rest : List Char)
    (digit : Text.digitValue? first = none) (point : first ≠ '.') :
    scanNumeral (first :: rest) = none := by
  simp [scanNumeral, scan_eq_none digit point]

theorem scanLiteral_eq_none (first : Char) (rest : List Char) (double : first ≠ '"')
    (single : first ≠ '\'') : scanLiteral (first :: rest) = none := by
  simp [scanLiteral, double, single]

theorem scanQuotedName_eq_none (first : Char) (rest : List Char) (tick : first ≠ backtick) :
    scanQuotedName (first :: rest) = none := by
  simp [scanQuotedName, tick]

/-- What is left to look for where no comparison, table, sheet or numeral begins. -/
theorem scanLexeme_eq_late {first : Char} {rest : List Char}
    (plain : first ∉ ['!', '<', '=', ':', '.']) (digit : Text.digitValue? first = none)
    (range : scanRange (first :: rest) = none) :
    scanLexeme (first :: rest) =
      (scanLiteral (first :: rest) <|> scanQuotedName (first :: rest) <|>
        scanWord (first :: rest) <|> scanDropped (first :: rest) <|>
        scanSymbol (first :: rest)).map .ok := by
  simp only [List.mem_cons, List.not_mem_nil, or_false, not_or] at plain
  obtain ⟨mark, less, equal, colon, point⟩ := plain
  have equality := scanEquality_eq_none first rest mark less equal
  have table := scanTableRef_eq_none first rest colon
  have numeral := scanNumeral_eq_none first rest digit point
  simp [scanLexeme, equality, table, range, numeral]

/-- Where a digit stands that is not the beginning of a sheet, a numeral is found. -/
theorem scanLexeme_numeral {first : Char} {rest : List Char} {scanned : Except DataFault Scanned}
    (digit : first.isDigit = true) (range : scanRange (first :: rest) = none)
    (numeral : scanNumeral (first :: rest) = some scanned) :
    scanLexeme (first :: rest) = some scanned := by
  have other {character : Char} (plain : character.isDigit = false) : first ≠ character := by
    rintro rfl
    exact Bool.false_ne_true (plain.symm.trans digit)
  have equality := scanEquality_eq_none first rest (other (by decide : '!'.isDigit = false))
    (other (by decide : '<'.isDigit = false)) (other (by decide : '='.isDigit = false))
  have table := scanTableRef_eq_none first rest (other (by decide : ':'.isDigit = false))
  simp [scanLexeme, equality, table, range, numeral]

/-- The kind of lexeme that is found. Only where nothing is dropped is a symbol found, so that
two minus signs are the beginning of a comment. -/
inductive Found (characters : List Char) (scanned : Scanned) : Prop where
  | equality (found : scanEquality characters = some scanned)
  | tableRef (found : scanTableRef characters = some scanned)
  | range (found : scanRange characters = some scanned)
  | numeral (found : scanNumeral characters = some (.ok scanned))
  | literal (found : scanLiteral characters = some scanned)
  | quotedName (found : scanQuotedName characters = some scanned)
  | word (found : scanWord characters = some scanned)
  | dropped (found : scanDropped characters = some scanned)
  | symbol (kept : scanDropped characters = none) (found : scanSymbol characters = some scanned)

/-- Each lexeme is of one of the kinds. -/
theorem found_of_scanLexeme {characters : List Char} {scanned : Scanned}
    (found : scanLexeme characters = some (.ok scanned)) : Found characters scanned := by
  simp only [scanLexeme, Option.orElse_eq_orElse, Option.orElse_eq_or, Option.or_eq_some_iff,
    Option.map_eq_some_iff, Except.ok.injEq, exists_eq_right, Option.map_eq_none_iff,
    Option.or_eq_none_iff] at found
  rcases found with (found | ⟨-, found | ⟨-, found⟩⟩) | ⟨-, found | ⟨-, found⟩⟩
  · exact .equality found
  · exact .tableRef found
  · exact .range found
  · exact .numeral found
  · rcases found with found | ⟨-, found | ⟨-, found | ⟨-, found | ⟨kept, found⟩⟩⟩⟩
    · exact .literal found
    · exact .quotedName found
    · exact .word found
    · exact .dropped found
    · exact .symbol kept found

/-! Keywords. -/

theorem keyword_letters_shape (word : Keyword) :
    ∃ first later, word.letters = first :: later ∧ isNameStart first = true ∧
      ∀ character ∈ word.letters, isNameChar character = true := by
  cases word <;> exact ⟨_, _, rfl, rfl, List.all_eq_true.mp (by rfl)⟩

theorem ofWord?_letters (word : Keyword) :
    Keyword.ofWord? (String.ofList word.letters) = some word := by
  cases word <;> decide +kernel

/-! What is found where a word begins. -/

theorem scanLexeme_name {name rest : List Char} (nonempty : name ≠ [])
    (plain : backtick ∉ name) :
    scanLexeme (backtick :: (name ++ backtick :: rest)) =
      some (.ok (.token (.identifier (String.ofList name)), name.length + 2)) := by
  have taken : (name ++ backtick :: rest).takeWhile (· != backtick) = name := by
    apply takeWhile_append_stops
    · intro character membership
      have other : character ≠ backtick := fun equal => plain (equal ▸ membership)
      simpa using other
    · simp
  have literal := scanLiteral_eq_none backtick (name ++ backtick :: rest)
    (by decide) (by decide)
  rw [scanLexeme_eq_late (by decide) (by decide) (scanRange_cons_eq_none _ (by decide))]
  simp [literal, scanQuotedName, taken, nonempty]

theorem scanLexeme_virtualTable {first : Char} {name rest : List Char}
    (start : isNameStart first = true) (all : ∀ character ∈ name, isNameChar character = true)
    (atBreak : AtBreak rest) :
    scanLexeme (':' :: first :: (name ++ rest)) =
      some (.ok (.token (.tableRef (String.ofList (first :: name))), name.length + 2)) := by
  have taken := takeWhile_append_stops all (atBreak.stops (by decide))
  have equality := scanEquality_eq_none ':' (first :: (name ++ rest))
    (by decide) (by decide) (by decide)
  simp [scanLexeme, equality, scanTableRef, start, taken]

/-- The token of a word: a keyword in any case, or a name. -/
def wordToken (word : String) : Token :=
  match Keyword.ofWord? word with
  | some keyword => .keyword keyword word
  | none => .identifier word

theorem scanLexeme_word_of_stops {first : Char} {later rest : List Char}
    (start : isNameStart first = true) (all : ∀ character ∈ later, isNameChar character = true)
    (stops : Stops isNameChar rest) (mark : rest.head? ≠ some '!') :
    scanLexeme (first :: (later ++ rest)) =
      some (.ok (.token (wordToken (String.ofList (first :: later))), later.length + 1)) := by
  have named : ∀ character ∈ first :: later, isNameChar character = true :=
    List.forall_mem_cons.mpr ⟨isNameChar_of_isNameStart start, all⟩
  have range : scanRange (first :: (later ++ rest)) = none := scanRange_eq_none named stops mark
  have bounds := toNat_of_isNameStart start
  have other (character : Char) (outside : character.toNat < 65) : first ≠ character := by
    rintro rfl
    omega
  have taken : (later ++ rest).takeWhile isNameChar = later := takeWhile_append_stops all stops
  have plain : first ∉ ['!', '<', '=', ':', '.'] := by
    simp [other]
  have literal := scanLiteral_eq_none first (later ++ rest) (other '"' (by decide))
    (other '\'' (by decide))
  have tick : first ≠ backtick := by
    rintro rfl
    simp [isNameStart, backtick] at start
  have quoted := scanQuotedName_eq_none first (later ++ rest) tick
  have scanned : scanWord (first :: (later ++ rest)) =
      some (.token (wordToken (String.ofList (first :: later))), later.length + 1) := by
    simp only [scanWord, start, if_true, taken, List.length_cons]
    rfl
  rw [scanLexeme_eq_late plain (digitValue?_of_isNameStart start) range]
  simp [literal, quoted, scanned]

theorem scanLexeme_word {first : Char} {later rest : List Char} (start : isNameStart first = true)
    (all : ∀ character ∈ later, isNameChar character = true) (atBreak : AtBreak rest) :
    scanLexeme (first :: (later ++ rest)) =
      some (.ok (.token (wordToken (String.ofList (first :: later))), later.length + 1)) :=
  scanLexeme_word_of_stops start all (atBreak.stops (by decide)) (atBreak.head?_ne (by decide))

theorem scanLexeme_keyword (word : Keyword) {rest : List Char} (atBreak : AtBreak rest) :
    scanLexeme (word.letters ++ rest) =
      some (.ok (.token (.keyword word (String.ofList word.letters)), word.letters.length)) := by
  have found := ofWord?_letters word
  obtain ⟨first, later, shape, start, all⟩ := keyword_letters_shape word
  rw [shape] at found all ⊢
  have scanned := scanLexeme_word start
    (fun character membership => all character (List.mem_cons_of_mem first membership)) atBreak
  simp only [wordToken, found] at scanned
  exact scanned

/-- A minus is one if no second comes after it. -/
theorem scanLexeme_minus {rest : List Char} (single : rest.head? ≠ some '-') :
    scanLexeme ('-' :: rest) = some (.ok (.token (.symbol .minus), 1)) := by
  have dropped : scanDropped ('-' :: rest) = none := by
    unfold scanDropped
    split <;> simp_all
  have literal := scanLiteral_eq_none '-' rest (by decide) (by decide)
  have quoted := scanQuotedName_eq_none '-' rest (by decide)
  have word : scanWord ('-' :: rest) = none := rfl
  rw [scanLexeme_eq_late (by decide) (by decide) (scanRange_cons_eq_none rest (by decide))]
  simp [literal, quoted, word, dropped, scanSymbol]

theorem scanLexeme_symbol (sign : Symbol) {rest : List Char} (atBreak : AtBreak rest) :
    scanLexeme (sign.text.toList ++ rest) =
      some (.ok (.token (.symbol sign), sign.text.toList.length)) := by
  cases rest with
  | nil => cases sign <;> rfl
  | cons first rest =>
      have among : first ∈ breaks := by simpa using atBreak
      simp only [breaks, List.mem_cons, List.not_mem_nil, or_false] at among
      rcases among with rfl | rfl | rfl | rfl <;> cases sign <;> rfl

/-- An opening parenthesis is one, whatever comes after it. -/
theorem scanLexeme_openParen (rest : List Char) :
    scanLexeme ('(' :: rest) = some (.ok (.token (.symbol .openParen), 1)) := by
  rw [scanLexeme_eq_late (by decide) (by decide) (scanRange_cons_eq_none rest (by decide))]
  rfl

/-! Integers. -/

theorem scan_digits {digits rest : List Char} (nonempty : digits ≠ [])
    (all : ∀ digit ∈ digits, digit.isDigit = true) (atBreak : AtBreak rest) :
    Numeral.scan (digits ++ rest) = some (⟨digitValues digits, none, none⟩, rest) := by
  have scanned := scanDigits_append all (atBreak.stops (by decide))
  obtain ⟨first, later, rfl⟩ := List.exists_cons_of_ne_nil nonempty
  unfold Numeral.scan
  rw [scanned]
  cases rest with
  | nil => rfl
  | cons next rest =>
      have among : next ∈ breaks := by simpa using atBreak
      simp only [breaks, List.mem_cons, List.not_mem_nil, or_false] at among
      rcases among with rfl | rfl | rfl | rfl <;> rfl

theorem scan_toDigits (value : Nat) {rest : List Char} (atBreak : AtBreak rest) :
    Numeral.scan (Nat.toDigits 10 value ++ rest) =
      some (⟨digitValues (Nat.toDigits 10 value), none, none⟩, rest) :=
  scan_digits Nat.toDigits_ne_nil (fun _ => isDigit_of_mem_toDigits) atBreak

theorem scanLexeme_digits {value : Nat} {rest : List Char} {scanned : Except DataFault Scanned}
    (atBreak : AtBreak rest) (numeral : scanNumeral (Nat.toDigits 10 value ++ rest) = some scanned) :
    scanLexeme (Nat.toDigits 10 value ++ rest) = some scanned := by
  have all (digit : Char) (membership : digit ∈ Nat.toDigits 10 value) : digit.isDigit = true :=
    isDigit_of_mem_toDigits membership
  have range : scanRange (Nat.toDigits 10 value ++ rest) = none :=
    scanRange_eq_none (fun digit membership => isNameChar_of_isDigit (all digit membership))
      (atBreak.stops (by decide)) (atBreak.head?_ne (by decide))
  obtain ⟨first, later, shape, digit⟩ := toDigits_shape value
  rw [shape, List.cons_append] at range numeral ⊢
  exact scanLexeme_numeral digit range numeral

theorem scanLexeme_integer {value : Nat} {rest : List Char}
    (limited : digitCount value ≤ Numeral.digitLimit) (atBreak : AtBreak rest) :
    scanLexeme (Nat.toDigits 10 value ++ rest) =
      some (.ok (.token (.integer value), digitCount value)) := by
  have scanned := scan_toDigits value atBreak
  apply scanLexeme_digits atBreak
  simpa [scanNumeral, scanned, Numeral.isInteger, digitCount] using limited

theorem scanLexeme_longInteger {value : Nat} {rest : List Char}
    (long : Numeral.digitLimit < digitCount value) (atBreak : AtBreak rest) :
    scanLexeme (Nat.toDigits 10 value ++ rest) = some (.error .notNumeral) := by
  have scanned := scan_toDigits value atBreak
  apply scanLexeme_digits atBreak
  simpa [scanNumeral, scanned, Numeral.isInteger, digitCount] using long

/-! Texts. -/

/-- Where a quote stands, a literal is found or nothing. -/
theorem scanLexeme_quote {quote : Char} (mark : quote = '"' ∨ quote = '\'') (rest : List Char) :
    scanLexeme (quote :: rest) = (scanLiteral (quote :: rest)).map .ok := by
  have plain : quote ∉ ['!', '<', '=', ':', '.'] := by rcases mark with rfl | rfl <;> decide
  have digit : Text.digitValue? quote = none := by rcases mark with rfl | rfl <;> decide
  have range : isNameChar quote = false := by rcases mark with rfl | rfl <;> decide
  have later : (scanQuotedName (quote :: rest) <|> scanWord (quote :: rest) <|>
      scanDropped (quote :: rest) <|> scanSymbol (quote :: rest)) = none := by
    rcases mark with rfl | rfl <;> rfl
  rw [scanLexeme_eq_late plain digit (scanRange_cons_eq_none rest range), later]
  simp

/-- A literal is the text that its inside stands for. -/
theorem scanLexeme_literal {quote : Char} {body content rest : List Char}
    (mark : quote = '"' ∨ quote = '\'') (stands : StandsFor quote body content)
    (single : rest.head? ≠ some quote) :
    scanLexeme (quote :: (body ++ quote :: rest)) =
      some (.ok (.token (.text (String.ofList content)), body.length + 2)) := by
  have slash : quote ≠ '\\' := by rcases mark with rfl | rfl <;> decide
  have found := stands.literalBody.found slash single
  rw [scanLexeme_quote mark]
  simp [scanLiteral, mark, found, stands.unescape_eq slash]

theorem standsFor_escape (content : List Char) : StandsFor '"' (escape content) content := by
  induction content with
  | nil => exact .nil
  | cons character content inductionHypothesis =>
      by_cases marked : character = '\\' ∨ character = '"'
      · have found : escaped? character = some character := by
          rcases marked with rfl | rfl <;> rfl
        simpa [escape, marked] using StandsFor.escaped found inductionHypothesis
      · obtain ⟨slash, quote⟩ := not_or.mp marked
        simpa [escape, marked] using StandsFor.plain quote slash inductionHypothesis

end GridQuery.Statement
