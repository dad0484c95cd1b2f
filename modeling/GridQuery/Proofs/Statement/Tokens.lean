import GridQuery.Proofs.Statement.Lexing

/-!
# The tokens of a text

Whatever the text, its names can stand in backticks, its virtual tables after a colon, and
its integers have no more digits than can be read.
-/

namespace GridQuery

namespace Statement

/-- What holds of every token that a text is cut into. -/
def Token.Sound : Token → Prop
  | keyword _ _ => True
  | symbol _ => True
  | identifier name => IsName name
  | tableRef name => IsTableName name
  | range _ => True
  | integer value => IsNumeral value
  | float _ => True
  | text _ => True

/-- A lexeme is sound if it is a sound token or dropped. -/
def Lexeme.Sound : Lexeme → Prop
  | token found => found.Sound
  | dropped => True

variable {characters : List Char} {scanned : Scanned}

theorem scanEquality_sound (found : scanEquality characters = some scanned) :
    scanned.1.Sound := by
  unfold scanEquality at found
  split at found <;> simp at found <;> subst found <;> trivial

theorem scanSymbol_sound (found : scanSymbol characters = some scanned) :
    scanned.1.Sound := by
  unfold scanSymbol at found
  split at found <;> simp at found <;> subst found <;> trivial

theorem scanDropped_sound (found : scanDropped characters = some scanned) :
    scanned.1.Sound := by
  unfold scanDropped at found
  split at found <;> simp at found <;> subst found <;> trivial

theorem scanTableRef_sound (found : scanTableRef characters = some scanned) :
    scanned.1.Sound := by
  unfold scanTableRef at found
  split at found
  · next first rest =>
      split at found
      · next start =>
          obtain rfl := Option.some.inj found
          refine ⟨first, rest.takeWhile isNameChar, by simp, start, ?_⟩
          exact List.all_eq_true.mp List.all_takeWhile
      · simp at found
  · simp at found

theorem scanRange_sound (found : scanRange characters = some scanned) : scanned.1.Sound := by
  unfold scanRange at found
  simp only [Option.bind_eq_bind] at found
  split at found
  · simp at found
  · split at found
    · simp only [Option.bind_eq_some_iff, Option.some.injEq] at found
      obtain ⟨first, -, rfl⟩ := found
      trivial
    · simp at found

theorem scanLiteral_sound (found : scanLiteral characters = some scanned) :
    scanned.1.Sound := by
  unfold scanLiteral at found
  split at found
  · split at found
    · simp only [Option.map_eq_some_iff] at found
      obtain ⟨body, -, rfl⟩ := found
      trivial
    · simp at found
  · simp at found

theorem scanQuotedName_sound (found : scanQuotedName characters = some scanned) :
    scanned.1.Sound := by
  unfold scanQuotedName at found
  split at found
  · next first rest =>
      simp only [Option.ite_none_right_eq_some, Bool.and_eq_true, Option.some.injEq] at found
      obtain ⟨⟨⟨-, nonempty⟩, -⟩, rfl⟩ := found
      refine ⟨by simpa using nonempty, ?_⟩
      rw [String.toList_ofList]
      exact not_mem_takeWhile_ne backtick rest
  · simp at found

theorem scanWord_sound (found : scanWord characters = some scanned) : scanned.1.Sound := by
  unfold scanWord at found
  split at found
  · next first rest =>
      simp only [Option.ite_none_right_eq_some, Option.some.injEq] at found
      obtain ⟨start, rfl⟩ := found
      have named : IsName (String.ofList (first :: rest.takeWhile isNameChar)) := by
        refine ⟨by simp, ?_⟩
        intro membership
        have plain : isNameChar backtick = true := by
          rcases List.mem_cons.mp (by simpa using membership) with equal | later
          · exact equal ▸ isNameChar_of_isNameStart start
          · exact List.all_eq_true.mp List.all_takeWhile backtick later
        exact absurd plain (by decide)
      split
      · trivial
      · exact named
  · simp at found

/-! Integers. -/

theorem digitValue?_lt {character : Char} {value : Nat}
    (digit : Text.digitValue? character = some value) : value < 10 := by
  obtain ⟨first, found, rfl⟩ := Option.map_eq_some_iff.mp digit
  have inside := List.find?_some found
  simp only [Bool.and_eq_true, decide_eq_true_eq] at inside
  omega

theorem scanDigits_lt (characters : List Char) :
    ∀ digit ∈ (Numeral.scanDigits characters).1, digit < 10 := by
  induction characters with
  | nil => simp [Numeral.scanDigits]
  | cons character rest inductionHypothesis =>
      unfold Numeral.scanDigits
      split
      · simp
      · next value digit =>
          simpa using ⟨digitValue?_lt digit, inductionHypothesis⟩

theorem foldl_digits_lt (value : Nat) {digits : List Nat} (all : ∀ digit ∈ digits, digit < 10) :
    digits.foldl (fun value digit => 10 * value + digit) value <
      (value + 1) * 10 ^ digits.length := by
  induction digits generalizing value with
  | nil => simp
  | cons digit digits inductionHypothesis =>
      have first := all digit List.mem_cons_self
      have later := inductionHypothesis (10 * value + digit) fun other membership =>
        all other (List.mem_cons_of_mem digit membership)
      have step : (10 * value + digit + 1) * 10 ^ digits.length ≤
          ((value + 1) * 10) * 10 ^ digits.length :=
        Nat.mul_le_mul_right _ (by omega)
      rw [List.foldl_cons, List.length_cons, Nat.pow_succ', ← Nat.mul_assoc]
      exact Nat.lt_of_lt_of_le later step

theorem ofDigits_lt {digits : List Nat} (all : ∀ digit ∈ digits, digit < 10) :
    ofDigits digits < 10 ^ digits.length := by
  simpa [ofDigits] using foldl_digits_lt 0 all

/-- The number of digits that are not too many has no more digits. -/
theorem isNumeral_ofDigits {digits : List Nat} (all : ∀ digit ∈ digits, digit < 10)
    (limited : digits.length ≤ Numeral.digitLimit) : IsNumeral (ofDigits digits) := by
  have bound := Nat.lt_of_lt_of_le (ofDigits_lt all)
    (Nat.pow_le_pow_right (by decide) limited)
  exact (Nat.length_toDigits_le_iff (by decide) (by decide)).mpr bound

theorem scan_whole {numeral : Numeral} {rest : List Char}
    (scanned : Numeral.scan characters = some (numeral, rest)) :
    ∀ digit ∈ numeral.whole, digit < 10 := by
  have digits := scanDigits_lt characters
  unfold Numeral.scan at scanned
  split at scanned
  · split at scanned
    · simp at scanned
    · simp at scanned
      simp [← scanned.1]
  · simp at scanned
  · next shape =>
      simp at scanned
      simpa [← scanned.1, shape] using digits
  · next shape =>
      simp at scanned
      simpa [← scanned.1, shape] using digits

theorem scanNumeral_sound (found : scanNumeral characters = some (.ok scanned)) :
    scanned.1.Sound := by
  simp only [scanNumeral, Option.bind_eq_bind, Option.bind_eq_some_iff] at found
  obtain ⟨⟨numeral, rest⟩, read, found⟩ := found
  have digits := scan_whole read
  split at found
  · simp only [Option.some.injEq, Except.ok.injEq] at found
    subst found
    trivial
  · split at found
    · simp at found
    · next limited =>
        simp only [Option.some.injEq, Except.ok.injEq] at found
        subst found
        exact isNumeral_ofDigits digits (Nat.le_of_not_lt limited)

/-- Each lexeme that is found is sound. -/
theorem scanLexeme_sound (found : scanLexeme characters = some (.ok scanned)) :
    scanned.1.Sound := by
  cases found_of_scanLexeme found with
  | equality found => exact scanEquality_sound found
  | tableRef found => exact scanTableRef_sound found
  | range found => exact scanRange_sound found
  | numeral found => exact scanNumeral_sound found
  | literal found => exact scanLiteral_sound found
  | quotedName found => exact scanQuotedName_sound found
  | word found => exact scanWord_sound found
  | dropped found => exact scanDropped_sound found
  | symbol _ found => exact scanSymbol_sound found

/-- All tokens are sound. -/
def AllSound (placed : List PlacedToken) : Prop :=
  ∀ found ∈ placed, found.token.Sound

theorem lexFrom_sound (characters : List Char) (position skipped : Nat) :
    AllSound (lexFrom position skipped characters).tokens := by
  induction characters generalizing position skipped with
  | nil => simp [lexFrom, AllSound]
  | cons first rest inductionHypothesis =>
      unfold lexFrom
      split
      · exact inductionHypothesis _ _
      · split
        · exact inductionHypothesis _ _
        · split
          · simp [AllSound]
          · simp [AllSound]
          · exact inductionHypothesis _ _
          · next token length scanned =>
              intro found membership
              rcases List.mem_cons.mp membership with rfl | later
              · exact scanLexeme_sound scanned
              · exact inductionHypothesis _ _ found later

end Statement

end GridQuery
