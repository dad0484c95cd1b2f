import GridQuery.Proofs.Statement.Lexing

/-!
# Names as they are written

A name is written as it stands if it is a word, and between backticks otherwise. Any name is
read back from between backticks. A word is read back only if its letters and numerals are
those of ASCII, though those of any script make a word.
-/

namespace GridQuery.Statement

/-- A name that is written as it stands: no keyword, but letters, numerals and underscores
with no digit in front. -/
structure IsWord (name : String) : Prop where
  nonempty : name.toList ≠ []
  notKeyword : Keyword.ofWord? name = none
  characters : ∀ character ∈ name.toList, Text.isWordChar character = true
  front : ∀ first ∈ name.toList.head?, Text.isAnyDigit first = false

/-- A word with a letter or numeral that is not of ASCII. -/
def IsForeignWord (name : String) : Prop :=
  IsWord name ∧ ∃ character ∈ name.toList, isNameChar character = false

/-- Whether a name, as it is written, is cut into one token, the name itself. -/
def IsReadBack (name : String) : Prop :=
  (lex (quoteIdentifier name).toList).tokens.map (·.token) = [.identifier name] ∧
    (lex (quoteIdentifier name).toList).fault = none

/-! ### Where a name is written between backticks -/

theorem quoteIdentifier_of_isWord {name : String} (word : IsWord name) :
    quoteIdentifier name = name := by
  obtain ⟨first, rest, shape⟩ := List.exists_cons_of_ne_nil word.nonempty
  have characters := word.characters
  have front := word.front
  rw [shape] at characters front
  have all : rest.all Text.isWordChar = true := by
    simpa using fun character among => characters character (List.mem_cons_of_mem first among)
  have digit : Text.isAnyDigit first = false := front first rfl
  simp [quoteIdentifier, shape, word.notKeyword, all, digit, characters first List.mem_cons_self]

theorem quoteIdentifier_of_not_isWord {name : String} (other : ¬ IsWord name) :
    quoteIdentifier name = "`" ++ name ++ "`" := by
  unfold quoteIdentifier
  dsimp only
  apply if_neg
  intro plain
  apply other
  simp only [Bool.and_eq_true, Option.isNone_iff_eq_none, Bool.not_eq_true',
    List.isEmpty_eq_false_iff, List.all_eq_true] at plain
  obtain ⟨⟨⟨notKeyword, nonempty⟩, characters⟩, front⟩ := plain
  refine ⟨nonempty, notKeyword, characters, ?_⟩
  intro first head
  simpa [Option.mem_def.mp head] using front

/-! ### Characters of words -/

/-- Letters and numerals of ASCII make unquoted names. -/
theorem toNat_of_isWordChar {character : Char} (inWord : Text.isWordChar character = true)
    (other : isNameChar character = false) : 128 ≤ character.toNat := by
  by_contra small
  have ascii : ∀ code < 128, Text.isWordChar (Char.ofNat code) = true →
      isNameChar (Char.ofNat code) = true := by decide +kernel
  have named := ascii character.toNat (Nat.lt_of_not_le small)
  rw [Char.ofNat_toNat] at named
  rw [named inWord] at other
  cases other

theorem isSpace_of_isWordChar {character : Char} (inWord : Text.isWordChar character = true) :
    isSpace character = false := by
  have other (space : Char) (apart : Text.isWordChar space = false) : character ≠ space := by
    rintro rfl
    rw [inWord] at apart
    cases apart
  simp [isSpace, other ' ' (by decide), other '\t' (by decide), other '\r' (by decide)]

theorem isNameStart_of_isNameChar {character : Char} (named : isNameChar character = true)
    (front : Text.isAnyDigit character = false) : isNameStart character = true := by
  have digit : character.isDigit = false := by
    by_contra digit
    have value := Text.digitValue?_of_isDigit (Bool.eq_true_of_not_eq_false digit)
    simp [Text.isAnyDigit, Text.isDigit, value] at front
  simpa [isNameChar, isNameStart, Char.isAlphanum, digit] using named

/-! ### What is read of a written name -/

theorem isReadBack_of_not_isWord {name : String} (holds : IsName name) (other : ¬ IsWord name) :
    IsReadBack name := by
  have cuts := cuts_name holds cuts_nil
  have written : (quoteIdentifier name).toList = backtick :: (name.toList ++ [backtick] ++ []) := by
    simp [quoteIdentifier_of_not_isWord other, backtick]
  rw [IsReadBack, written]
  exact cuts 0

/-- The words that unquoted names are. -/
theorem isReadBack_of_isWord {name : String} (word : IsWord name)
    (named : ∀ character ∈ name.toList, isNameChar character = true) : IsReadBack name := by
  obtain ⟨first, later, shape⟩ := List.exists_cons_of_ne_nil word.nonempty
  have start : isNameStart first = true :=
    isNameStart_of_isNameChar (named first (by simp [shape])) (word.front first (by simp [shape]))
  have all : ∀ character ∈ later, isNameChar character = true := by
    intro character among
    exact named character (by simp [shape, among])
  have scanned := scanLexeme_word start all atBreak_nil
  have token : wordToken (String.ofList (first :: later)) = .identifier name := by
    rw [← shape, String.ofList_toList, wordToken, word.notKeyword]
  have bounds := toNat_of_isNameStart start
  have cuts := Cuts.append (isSpace_of_toNat (by omega)) (token ▸ scanned) cuts_nil
  rw [List.append_nil] at cuts
  rw [IsReadBack, quoteIdentifier_of_isWord word, shape]
  exact cuts 0

theorem eq_of_wordToken {word name : String} (token : wordToken word = .identifier name) :
    word = name := by
  unfold wordToken at token
  split at token
  · cases token
  · exact Token.identifier.inj token

/-- No lexeme begins with a letter or numeral that is neither of ASCII nor a digit. -/
theorem scanLexeme_foreign {first : Char} (rest : List Char)
    (inWord : Text.isWordChar first = true) (unnamed : isNameChar first = false)
    (digit : Text.digitValue? first = none) : scanLexeme (first :: rest) = none := by
  have foreign := toNat_of_isWordChar inWord unnamed
  have other (character : Char) (ascii : character.toNat < 128) : first ≠ character := by
    rintro rfl
    omega
  have plain : first ∉ ['!', '<', '=', ':', '.'] := by
    simp [other]
  have literal := scanLiteral_eq_none first rest (other '"' (by decide)) (other '\'' (by decide))
  have quoted := scanQuotedName_eq_none first rest (other backtick (by decide))
  have word : scanWord (first :: rest) = none := by
    have start : isNameStart first = false := by
      by_contra start
      rw [isNameChar_of_isNameStart (Bool.eq_true_of_not_eq_false start)] at unnamed
      cases unnamed
    simp [scanWord, start]
  have dropped : scanDropped (first :: rest) = none := by
    unfold scanDropped
    split <;> simp_all
  have symbol : scanSymbol (first :: rest) = none := by
    unfold scanSymbol
    split <;> simp_all
  rw [scanLexeme_eq_late plain digit (scanRange_cons_eq_none rest unnamed)]
  simp [literal, quoted, word, dropped, symbol]

/-- A foreign word is cut where its letters and numerals of ASCII end, if not before. -/
theorem not_isReadBack_of_isForeignWord {name : String} (foreign : IsForeignWord name) :
    ¬ IsReadBack name := by
  obtain ⟨word, outside, among, unnamed⟩ := foreign
  rw [IsReadBack, quoteIdentifier_of_isWord word]
  rintro ⟨tokens, lexable⟩
  obtain ⟨first, rest, shape⟩ := List.exists_cons_of_ne_nil word.nonempty
  have inWord := word.characters
  have front := word.front first (by simp [shape])
  rw [shape] at tokens lexable inWord among
  have space := isSpace_of_isWordChar (inWord first List.mem_cons_self)
  by_cases named : isNameChar first = true
  · -- The first token ends where the name does not.
    have start := isNameStart_of_isNameChar named front
    have mark : (rest.dropWhile isNameChar).head? ≠ some '!' := by
      intro head
      have inRest := (List.dropWhile_suffix isNameChar).subset (List.mem_of_head? head)
      exact absurd (inWord '!' (List.mem_cons_of_mem first inRest)) (by decide)
    have all : ∀ character ∈ rest.takeWhile isNameChar, isNameChar character = true :=
      fun _ => List.mem_takeWhile_imp
    have scanned := scanLexeme_word_of_stops start all (stops_dropWhile isNameChar rest) mark
    rw [List.takeWhile_append_dropWhile] at scanned
    simp only [lex, lexFrom, Nat.lt_irrefl, if_false, space, Bool.false_eq_true, scanned,
      List.map_cons, List.cons.injEq] at tokens
    have whole := congrArg String.toList (eq_of_wordToken tokens.1)
    rw [String.toList_ofList, shape, List.cons.injEq] at whole
    rcases List.mem_cons.mp among with rfl | later
    · rw [named] at unnamed
      cases unnamed
    · rw [← whole.2] at later
      rw [List.mem_takeWhile_imp later] at unnamed
      cases unnamed
  · have digit : Text.digitValue? first = none := by
      rw [Text.isAnyDigit, Bool.or_eq_false_iff] at front
      simpa [Text.isDigit] using front.1
    have nothing := scanLexeme_foreign rest (inWord first List.mem_cons_self)
      (Bool.eq_false_of_not_eq_true named) digit
    simp [lex, lexFrom, space, nothing] at lexable

/-! ### Which names are read back -/

/-- Every name is read back as it is written, but for the foreign words. -/
theorem isReadBack_iff {name : String} (holds : IsName name) :
    IsReadBack name ↔ ¬ IsForeignWord name := by
  constructor
  · intro readBack foreign
    exact not_isReadBack_of_isForeignWord foreign readBack
  · intro native
    by_cases word : IsWord name
    · apply isReadBack_of_isWord word
      intro character among
      by_contra unnamed
      exact native ⟨word, character, among, Bool.eq_false_of_not_eq_true unnamed⟩
    · exact isReadBack_of_not_isWord holds word

/-- A keyword in capitals is written between backticks. -/
theorem select_isReadBack : IsName "SELECT" ∧ ¬ IsForeignWord "SELECT" ∧ IsReadBack "SELECT" := by
  have holds : IsName "SELECT" := by decide
  have native : ¬ IsForeignWord "SELECT" := by
    rintro ⟨word, -⟩
    exact absurd word.notKeyword (by decide +kernel)
  exact ⟨holds, native, (isReadBack_iff holds).mpr native⟩

/-- A name with an accent is written as it stands, and no lexeme begins with its last letter. -/
theorem coffee_not_isReadBack :
    IsName "café" ∧ quoteIdentifier "café" = "café" ∧
      (lex (quoteIdentifier "café").toList).fault =
        some (.statement (.illegalCharacter 'é' 3)) ∧
      ¬ IsReadBack "café" := by
  have written : quoteIdentifier "café" = "café" := by decide +kernel
  have stopped : (lex (quoteIdentifier "café").toList).fault =
      some (.statement (.illegalCharacter 'é' 3)) := by
    rw [written]
    decide +kernel
  refine ⟨by decide, written, stopped, ?_⟩
  rintro ⟨-, lexable⟩
  rw [stopped] at lexable
  cases lexable

end GridQuery.Statement
