import GridQuery.Proofs.Statement.ReadExpr

/-!
# Expressions with few parentheses

An operand stands in parentheses only if it binds more loosely than its place asks for, and a
name in backticks only if it is not read without them. How tightly the operators bind is said
here once more, as a table: the reader of expressions has ranks of its own.
-/

namespace GridQuery

open Statement

def Connective.binding : Connective → Nat
  | or => 1
  | and => 2

def Arithmetic.binding : Arithmetic → Nat
  | add => 5
  | sub => 5
  | mul => 6
  | div => 6

/-- How tightly the outermost operator of an expression binds. What has none binds
tightest. -/
def Expr.binding : Expr → Nat
  | compound connective _ _ => connective.binding
  | not _ => 3
  | condition _ _ _ => 4
  | nullCheck _ _ => 4
  | arithmetic operator _ _ => operator.binding
  | negate _ => 7
  | _ => 8

namespace Statement

/-- The words of an operand for a place. -/
def fitted (required binding : Nat) (words : List Word) : List Word :=
  if required ≤ binding then words else enclosed words

end Statement

/-- The words of an expression, without the parentheses that it is read without. Relations do
not take each other as operands, and the other operators between two take an equal on the
left only. -/
def Expr.sparing : Expr → List Word
  | literal value => value.words
  | column reference => reference.words
  | countRows => .name "count" :: enclosed [.symbol .star]
  | aggregate function argument => .name function.name :: enclosed argument.sparing
  | changeCase letterCase argument => .name letterCase.name :: enclosed argument.sparing
  | today => .name "today" :: enclosed []
  | arithmetic operator left right =>
      fitted operator.binding left.binding left.sparing ++
        .symbol operator.symbol :: fitted (operator.binding + 1) right.binding right.sparing
  | negate operand => .symbol .minus :: fitted 7 operand.binding operand.sparing
  | condition relation left right =>
      fitted 5 left.binding left.sparing ++
        (relation.words ++ fitted 5 right.binding right.sparing)
  | nullCheck operand negated =>
      fitted 5 operand.binding operand.sparing ++
        .keyword .IS :: ((if negated then [.keyword .NOT] else []) ++ [.keyword .NULL])
  | compound connective left right =>
      fitted connective.binding left.binding left.sparing ++
        .keyword connective.keyword ::
          fitted (connective.binding + 1) right.binding right.sparing
  | not operand => .keyword .NOT :: fitted 3 operand.binding operand.sparing

/-- The words of an expression as an operand of what binds so tightly. -/
def Expr.fittedTo (required : Nat) (expr : Expr) : List Word :=
  fitted required expr.binding expr.sparing

/-- An operator between two operands. -/
inductive Binary where
  | connective (connective : Connective)
  | relation (relation : Relation)
  | arithmetic (operator : Arithmetic)

namespace Binary

def words : Binary → List Word
  | connective sign => [.keyword sign.keyword]
  | relation sign => sign.words
  | arithmetic sign => [.symbol sign.symbol]

def binding : Binary → Nat
  | connective sign => sign.binding
  | relation _ => 4
  | arithmetic sign => sign.binding

/-- How tightly the operand on the left has to bind. -/
def leftBinding : Binary → Nat
  | relation _ => 5
  | operator => operator.binding

def build : Binary → Expr → Expr → Expr
  | connective sign => .compound sign
  | relation sign => .condition sign
  | arithmetic sign => .arithmetic sign

variable (operator : Binary) (left right : Expr)

@[simp]
theorem binding_build : (operator.build left right).binding = operator.binding := by
  cases operator <;> rfl

theorem sparing_build :
    (operator.build left right).sparing = left.fittedTo operator.leftBinding ++
      (operator.words ++ right.fittedTo (operator.binding + 1)) := by
  cases operator <;> rfl

theorem binding_le_leftBinding : operator.binding ≤ operator.leftBinding := by
  cases operator <;> simp [binding, leftBinding]

theorem binding_lt : operator.binding < 7 := by
  cases operator with
  | connective sign => cases sign <;> decide
  | relation sign => exact (show 4 < 7 by decide)
  | arithmetic sign => cases sign <;> decide

end Binary

namespace Statement

/-- Whether a name is a word that is no keyword. -/
def isPlainName (name : String) : Bool :=
  match name.toList with
  | first :: later =>
      isNameStart first && later.all isNameChar && (Keyword.ofWord? name).isNone
  | [] => false

/-- The characters of a word, a name without backticks if it can do without. -/
def Word.plainLetters : Word → List Char
  | name given => if isPlainName given then given.toList else letters (name given)
  | word => word.letters

/-- The text of words with a blank between neighbours. -/
def plainText (words : List Word) : String :=
  String.ofList (spellBy Word.plainLetters words)

example :
    plainText (Expr.sparing (.compound .and
      (.condition (.compare .eq) (.column ⟨none, "a"⟩)
        (.arithmetic .sub (.column ⟨none, "b"⟩)
          (.arithmetic .sub (.column ⟨none, "c"⟩) (.literal (.int 1)))))
      (.not (.compound .or (.nullCheck (.column ⟨none, "is"⟩) true) .countRows)))) =
      "a = b - ( c - 1 ) AND NOT ( `is` IS NOT NULL OR count ( * ) )" := by
  decide

/-! ### The words are cut into their tokens -/

theorem cuts_plainLetters {word : Word} (readable : word.Readable) (rest : List Char)
    (found : List Token) (atBreak : AtBreak rest) (cuts : Cuts rest found) :
    Cuts (word.plainLetters ++ rest) (word.tokens ++ found) := by
  unfold Word.plainLetters
  split
  · next given =>
      split
      · next plain =>
          unfold isPlainName at plain
          split at plain
          · next first later shape =>
              simp only [Bool.and_eq_true, List.all_eq_true, Option.isNone_iff_eq_none] at plain
              obtain ⟨⟨start, all⟩, unreserved⟩ := plain
              have bounds := toNat_of_isNameStart start
              have scanned := scanLexeme_word start all atBreak
              rw [← shape, String.ofList_toList, wordToken, unreserved] at scanned
              rw [shape]
              exact Cuts.append (isSpace_of_toNat (by omega)) scanned cuts
          · cases plain
      · exact cuts_word readable atBreak cuts
  · exact cuts_word readable atBreak cuts

theorem cuts_plainText {words : List Word} (readable : AllReadable words) :
    Cuts (plainText words).toList (tokens words) := by
  rw [plainText, String.toList_ofList]
  exact cuts_spellBy fun word membership => cuts_plainLetters (readable word membership)

@[simp]
theorem allReadable_fitted (required binding : Nat) (words : List Word) :
    AllReadable (fitted required binding words) ↔ AllReadable words := by
  unfold fitted
  split <;> simp

end Statement

theorem Binary.readable (operator : Binary) : AllReadable operator.words := by
  cases operator with
  | relation sign => exact sign.readable
  | _ => simp [words]

theorem Expr.readable_sparing {expr : Expr} (grammatical : expr.Grammatical)
    (ints : IntsOnly expr.literals) : AllReadable expr.sparing := by
  induction expr with
  | literal value => exact Cell.readable grammatical ints
  | column reference => exact ColumnRef.readable grammatical
  | countRows =>
      have name : IsName "count" := by decide
      simp [sparing, name]
  | aggregate function argument inductionHypothesis =>
      simp [sparing, inductionHypothesis grammatical ints]
  | changeCase letterCase argument inductionHypothesis =>
      simp [sparing, inductionHypothesis grammatical ints]
  | today =>
      have name : IsName "today" := by decide
      simp [sparing, name]
  | arithmetic operator left right leftHypothesis rightHypothesis =>
      have both := intsOnly_append.mp ints
      have onLeft := leftHypothesis grammatical.1 both.1
      have onRight := rightHypothesis grammatical.2 both.2
      simp [sparing, onLeft, onRight]
  | negate operand inductionHypothesis =>
      simp [sparing, inductionHypothesis grammatical.1 ints]
  | condition relation left right leftHypothesis rightHypothesis =>
      have both := intsOnly_append.mp ints
      have onLeft := leftHypothesis grammatical.1 both.1
      have onRight := rightHypothesis grammatical.2 both.2
      simp [sparing, onLeft, onRight, relation.readable]
  | nullCheck operand negated inductionHypothesis =>
      cases negated <;> simp [sparing, inductionHypothesis grammatical ints]
  | compound connective left right leftHypothesis rightHypothesis =>
      have both := intsOnly_append.mp ints
      have onLeft := leftHypothesis grammatical.1 both.1
      have onRight := rightHypothesis grammatical.2 both.2
      simp [sparing, onLeft, onRight]
  | not operand inductionHypothesis =>
      simp [sparing, inductionHypothesis grammatical ints]

end GridQuery
