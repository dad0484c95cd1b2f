import GridQuery.Proofs.Expr.Stops
import GridQuery.Proofs.Native.Spelling
import GridQuery.Proofs.Native.Translated
import GridQuery.Proofs.Statement.ReadOperand

/-!
# Translated values and predicates are read back

The text of a value is cut into tokens that are read as one operand, and that of a predicate
into tokens that lead an expression, by induction on the expression. The leaves decide what is
told in the text: no column is a keyword, no text holds a backslash, and a day has a year of
four digits.
-/

namespace GridQuery

open Statement Statement.Parser

/-- A cell is told by its literal in the grid's language. -/
def Cell.IsTold : Cell → Prop
  | null => True
  | text content => '\\' ∉ content.toList
  | number (.int _) => True
  | number (.float value) => ∃ negative code, value = .finite negative code
  | boolean _ => True
  | date moment => moment.isMidnight = true ∧ 1000 ≤ moment.date.year

/-- A leaf of an expression is told by its text in the grid's language. -/
def Expr.IsToldLeaf : Expr → Prop
  | literal cell => cell.IsTold
  | column reference =>
      Keyword.ofWord? reference.name = none ∧ reference.name.toList.getLast? ≠ some '\n'
  | today => False
  | _ => True

/-- All leaves of an expression are told. -/
def Expr.IsTold (expr : Expr) : Prop :=
  ∀ part ∈ expr.parts, part.IsToldLeaf

namespace Native

/-- A text is cut into tokens that are read, in some way, as something. -/
def Tells {Item : Type} (reads : List Token → Item → Prop) (text : NativeText) (item : Item) :
    Prop :=
  ∃ before, Spells text.letters before ∧ reads before item

/-! ### Literals and columns -/

theorem quote?_eq_some {content : String} {text : NativeText}
    (quoted : NativeText.quote? content = some text) :
    ∃ quote, (quote = '"' ∨ quote = '\'') ∧ quote ∉ content.toList ∧
      text = [.quoted quote content] := by
  unfold NativeText.quote? at quoted
  split at quoted
  · next absent =>
      exact ⟨'"', .inl rfl, by simpa using absent, (Option.some.inj quoted).symm⟩
  · split at quoted
    · next absent =>
        exact ⟨'\'', .inr rfl, by simpa using absent, (Option.some.inj quoted).symm⟩
    · cases quoted

theorem spells_of_quote? {content : String} {text : NativeText}
    (quoted : NativeText.quote? content = some text) (plain : '\\' ∉ content.toList) :
    Spells text.letters [.text content] := by
  obtain ⟨quote, mark, unquoted, rfl⟩ := quote?_eq_some quoted
  simpa using spells_quoted mark unquoted plain

theorem tells_number {number : Number} (grammatical : (Cell.number number).Grammatical)
    (told : (Cell.number number).IsTold) :
    Tells IsOperand [.words number.literalText] (.literal (.number number)) := by
  cases number with
  | int value =>
      refine ⟨_, ?_, isOperand_int value⟩
      simpa [Number.literalText] using spells_int grammatical
  | float value =>
      obtain ⟨negative, code, rfl⟩ := told
      have size := spells_magnitudeText code
      have text := Double.toList_text negative code
      cases negative with
      | false =>
          refine ⟨_, ?_, isOperand_float _⟩
          simpa [Number.literalText, text] using size
      | true =>
          obtain ⟨first, later, shape, digit⟩ := Double.magnitudeText_shape code
          have single : first ≠ '-' := by
            rintro rfl
            exact absurd digit (by decide)
          refine ⟨_, ?_, isOperand_negative (.finite false code)⟩
          simpa [Number.literalText, text] using size.minus shape single

theorem tells_date {moment : Moment} (told : (Cell.date moment).IsTold) :
    Tells IsOperand [.words "date ", .quoted '\'' moment.dayText] (.literal (.date moment)) := by
  obtain ⟨midnight, late⟩ := told
  have read := Moment.read_isoText_midnight moment midnight
  rw [← Moment.dayText_eq_isoText moment late] at read
  have plain {character : Char} (other : character.isDigit = false) (unlike : character ≠ '-') :
      character ∉ moment.dayText.toList := by
    have year : character ∉ Nat.toDigits 10 moment.date.year := fun among =>
      Bool.false_ne_true (other.symm.trans (isDigit_of_mem_toDigits among))
    have padded (value : Nat) : character ∉ (Text.zeroPadded 2 value).toList := fun among =>
      Bool.false_ne_true (other.symm.trans (isDigit_of_mem_zeroPadded among))
    simp [Moment.dayText, year, padded, unlike]
  have keyword : "date ".toList = phrase [.DATE] := by rfl
  have quoted := spells_quoted (.inr rfl) (plain (by decide) (by decide) : '\'' ∉ _)
    (plain (by decide) (by decide))
  refine ⟨_, ?_, isOperand_date read Keyword.DATE.small⟩
  simpa [keyword] using (begins_phrase [.DATE]).before quoted

theorem tells_literal {cell : Cell} {text : NativeText}
    (grammatical : cell.Grammatical) (told : cell.IsTold)
    (translated : literal? cell = some text) : Tells IsOperand text (.literal cell) := by
  cases cell with
  | null => cases translated
  | text content => exact ⟨_, spells_of_quote? translated told, isOperand_text content⟩
  | number number =>
      obtain rfl := Option.some.inj translated
      exact tells_number grammatical told
  | boolean flag =>
      obtain rfl := Option.some.inj translated
      refine ⟨_, ?_, isOperand_boolean flag (if flag then Keyword.TRUE else .FALSE).small⟩
      have spelled : (if flag then "true" else "false") =
          (if flag then Keyword.TRUE else .FALSE).small := by
        cases flag <;> rfl
      rw [spelled]
      simpa using spells_small (if flag then .TRUE else .FALSE)
  | date moment =>
      have midnight := told.1
      simp only [Moment.isMidnight, Bool.and_eq_true] at midnight
      simp only [literal?, midnight.1, Bool.and_self, if_true, Option.some.injEq] at translated
      subst translated
      exact tells_date told

theorem tells_column {location : Location} {reference : ColumnRef} {text : NativeText}
    (told : (Expr.column reference).IsToldLeaf)
    (translated : column? location reference = some text) :
    Tells IsOperand text (.column reference) := by
  obtain ⟨unreserved, unbroken⟩ := told
  obtain ⟨unqualified, code, -, -, rfl⟩ := inside_of_column? translated
  obtain ⟨upper, nonempty⟩ | lineBreak := isUpper_of_isColumnCode code
  · have named : IsTableName reference.name := by
      obtain ⟨first, later, shape⟩ := List.exists_cons_of_ne_nil nonempty
      have start {letter : Char} (among : letter ∈ first :: later) : isNameStart letter = true := by
        rw [← shape] at among
        simp [isNameStart, Char.isAlpha, upper letter among]
      exact ⟨first, later, shape, start List.mem_cons_self, fun letter among =>
        isNameChar_of_isNameStart (start (List.mem_cons_of_mem first among))⟩
    have spells := spells_word named
    rw [wordToken, unreserved] at spells
    obtain ⟨qualifier, name⟩ := reference
    obtain rfl : qualifier = none := unqualified
    exact ⟨_, by simpa using spells, isOperand_column name⟩
  · exact absurd lineBreak unbroken

/-! ### Values -/

theorem spells_call {name : String} (named : IsTableName name)
    (unreserved : Keyword.ofWord? name = none) {letters : List Char} {tokens : List Token}
    (inner : Spells letters tokens) :
    Spells (name.toList ++ '(' :: (letters ++ [')']))
      (.identifier name :: .symbol .openParen :: (tokens ++ [.symbol .closeParen])) := by
  have word := spells_word named
  rw [wordToken, unreserved] at word
  have opening : Begins (name.toList ++ ['(']) _ :=
    word.append (breaks_cons (by decide) []) begins_openParen
  have closing := inner.before (breaks_cons (by decide) []) spells_closeParen
  simpa using opening.before closing

theorem tells_call {name : String} {argument expr : Expr} {text : NativeText}
    (named : IsTableName name) (unreserved : Keyword.ofWord? name = none)
    (called : call name (.exprs [argument]) = .ok expr) (inner : Tells IsOperand text argument) :
    Tells IsOperand (.words (name ++ "(") :: text ++ [.words ")"]) expr := by
  obtain ⟨before, spells, operand⟩ := inner
  refine ⟨_, ?_, isOperand_call called operand⟩
  simpa using spells_call named unreserved spells

theorem tells_value {location : Location} {expr : Expr} {text : NativeText}
    (grammatical : expr.Grammatical) (told : expr.IsTold)
    (translated : value? location expr = some text) : Tells IsOperand text expr := by
  rw [value?_eq_some_iff] at translated
  induction translated with
  | literal found => exact tells_literal grammatical (told _ List.mem_cons_self) found
  | column found => exact tells_column (told _ List.mem_cons_self) found
  | today => exact (told _ List.mem_cons_self).elim
  | @aggregate function argument _ _ inductionHypothesis =>
      have inner := inductionHypothesis grammatical
        fun part among => told part (List.mem_cons_of_mem _ among)
      have named : IsTableName function.name := by
        cases function <;> exact ⟨_, _, rfl, rfl, List.all_eq_true.mp rfl⟩
      have unreserved : Keyword.ofWord? function.name = none := by
        cases function <;> decide +kernel
      exact tells_call named unreserved (call_aggregate function argument) inner
  | @changeCase letterCase argument _ _ inductionHypothesis =>
      have inner := inductionHypothesis grammatical
        fun part among => told part (List.mem_cons_of_mem _ among)
      have named : IsTableName letterCase.name := by
        cases letterCase <;> exact ⟨_, _, rfl, rfl, List.all_eq_true.mp rfl⟩
      have unreserved : Keyword.ofWord? letterCase.name = none := by
        cases letterCase <;> decide +kernel
      exact tells_call named unreserved (call_changeCase letterCase argument) inner
  | arithmetic operator _ _ leftHypothesis rightHypothesis =>
      obtain ⟨before, spellsLeft, operandLeft⟩ := leftHypothesis grammatical.1
        fun part among => told part (by simp [Expr.parts, among])
      obtain ⟨others, spellsRight, operandRight⟩ := rightHypothesis grammatical.2
        fun part among => told part (by simp [Expr.parts, among])
      refine ⟨_, ?_, isOperand_arithmetic operator operandLeft operandRight⟩
      have sign : operator.sign = operator.symbol.text := by cases operator <;> rfl
      have middle := spellsLeft.append (breaks_cons (by decide) _)
        (spells_symbol operator.symbol).spaced
      have closing := spellsRight.before (breaks_cons (by decide) []) spells_closeParen
      simpa [sign] using begins_openParen.before (middle.before closing)

/-! ### Predicates -/

theorem spells_relation (relation : Relation) :
    Spells relation.text.toList (relationTokens Keyword.small relation) := by
  have completed (word : Keyword) :
      Spells (word.small.toList ++ [' '] ++ Keyword.WITH.small.toList)
        [smallToken word, smallToken .WITH] :=
    ((spells_small word).append (breaks_cons (by decide) []) begins_blank).before
      (spells_small .WITH)
  cases relation with
  | compare comparison =>
      have sign : (Relation.compare comparison).text = comparison.symbol.text := by
        cases comparison <;> rfl
      rw [sign]
      exact spells_symbol comparison.symbol
  | contains => exact spells_small .CONTAINS
  | like => exact spells_small .LIKE
  | matchesPattern => exact spells_small .MATCHES
  | startsWith => exact completed .STARTS
  | endsWith => exact completed .ENDS

theorem tells_predicate {location : Location} {expr : Expr} {text : NativeText}
    (grammatical : expr.Grammatical) (told : expr.IsTold)
    (translated : predicate? location true expr = some text) : Tells Leads text expr := by
  rw [predicate?_eq_some_iff] at translated
  induction translated with
  | compound connective _ _ leftHypothesis rightHypothesis =>
      obtain ⟨before, spellsLeft, leadsLeft⟩ := leftHypothesis grammatical.1
        fun part among => told part (by simp [Expr.parts, among])
      obtain ⟨others, spellsRight, leadsRight⟩ := rightHypothesis grammatical.2
        fun part among => told part (by simp [Expr.parts, among])
      refine ⟨_, ?_, leads_compound connective connective.keyword.small leadsLeft leadsRight⟩
      have word : connective.text = connective.keyword.small := by cases connective <;> rfl
      have middle := spellsLeft.append (breaks_cons (by decide) _)
        (spells_small connective.keyword).spaced
      have closing := spellsRight.before (breaks_cons (by decide) []) spells_closeParen
      simpa [word] using begins_openParen.before (middle.before closing)
  | not _ inductionHypothesis =>
      obtain ⟨before, spells, leads⟩ := inductionHypothesis grammatical
        fun part among => told part (List.mem_cons_of_mem _ among)
      refine ⟨_, ?_, leads_not Keyword.NOT.small leads.readsAs⟩
      have opening : "not (".toList = phrase [.NOT] ++ ['('] := by rfl
      have closing := spells.before (breaks_cons (by decide) []) spells_closeParen
      simpa [opening] using
        ((begins_phrase [.NOT]).append begins_openParen).before closing
  | @nullCheck negated operand _ inside =>
      have inGrammar : operand.Grammatical := grammatical
      obtain ⟨before, spells, reads⟩ := tells_value inGrammar
        (fun part among => told part (List.mem_cons_of_mem _ among)) inside
      refine ⟨_, ?_, leads_nullCheck negated Keyword.IS.small Keyword.NOT.small
        Keyword.NULL.small reads⟩
      have null (words : List Keyword) := spells.before (breaks_cons (by decide) _)
        ((begins_blank.append (begins_phrase words)).before (spells_small .NULL))
      cases negated with
      | true =>
          have text : " is not null".toList =
              ' ' :: (phrase [.IS, .NOT] ++ Keyword.NULL.small.toList) := by rfl
          simpa [text] using null [.IS, .NOT]
      | false =>
          have text : " is null".toList =
              ' ' :: (phrase [.IS] ++ Keyword.NULL.small.toList) := by rfl
          simpa [text] using null [.IS]
  | @condition relation _ _ _ found =>
      obtain ⟨-, -, ⟨-, -, -, folded, -⟩ | ⟨leftText, rightText, -, onLeft, onRight, rfl⟩⟩ :=
        condition?_eq_some found
      · simp at folded
      · obtain ⟨before, spellsLeft, operandLeft⟩ := tells_value grammatical.1
          (fun part among => told part (by simp [Expr.parts, among])) onLeft
        obtain ⟨others, spellsRight, operandRight⟩ := tells_value grammatical.2
          (fun part among => told part (by simp [Expr.parts, among])) onRight
        refine ⟨_, ?_, leads_condition relation Keyword.small operandLeft operandRight⟩
        have middle := spellsLeft.append (breaks_cons (by decide) _)
          (spells_relation relation).spaced
        simpa using middle.before spellsRight

end Native

end GridQuery
