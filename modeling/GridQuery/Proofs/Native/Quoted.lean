import GridQuery.Proofs.Native.RereadQuery

/-!
# Texts in quotes cannot be broken out of

The grid's language has no escapes: a quote that is open is closed by the next one of its
kind. Each text in a translated query stands in quotes that it does not hold, and nothing
else holds a quote. So the query is read back in the pieces of which it was made, and what
stands outside quotes is the same for all queries that differ only in what stands in them.
-/

namespace GridQuery

/-! ### Pieces of a text -/

namespace NativeText

def isQuote (character : Char) : Bool :=
  character == '"' || character == '\''

/-- A character outside quotes, or what stands between two of them. -/
inductive Piece where
  | bare (character : Char)
  | quoted (content : String)
  deriving DecidableEq

/-- The pieces of characters, read one by one: a quote opens where none is open, and stays
open to the next one of its kind. None if a quote is left open. -/
def readPieces : Option (Char × List Char) → List Char → Option (List Piece)
  | none, [] => some []
  | none, character :: rest =>
      if isQuote character then readPieces (some (character, [])) rest
      else (readPieces none rest).map (.bare character :: ·)
  | some _, [] => none
  | some (quote, content), character :: rest =>
      if character == quote then
        (readPieces none rest).map (.quoted (String.ofList content) :: ·)
      else readPieces (some (quote, content ++ [character])) rest

/-- The pieces of a whole text. -/
def pieces? (text : String) : Option (List Piece) :=
  readPieces none text.toList

/-- What stands in quotes, in order. -/
def contents (pieces : List Piece) : List String :=
  pieces.filterMap fun
    | .bare _ => none
    | .quoted content => some content

/-- What stands outside quotes, with a gap for each text in quotes. -/
def outline (pieces : List Piece) : List (Option Char) :=
  pieces.map fun
    | .bare character => some character
    | .quoted _ => none

/-- Words without quotes. -/
def Bare (characters : List Char) : Prop :=
  ∀ character ∈ characters, isQuote character = false

instance (characters : List Char) : Decidable (Bare characters) :=
  List.decidableBAll (isQuote · = false) characters

theorem readPieces_bare {characters : List Char} (bare : Bare characters) (rest : List Char) :
    readPieces none (characters ++ rest) =
      (readPieces none rest).map (characters.map .bare ++ ·) := by
  induction characters with
  | nil => simp
  | cons first later inductionHypothesis =>
      have outside := bare first List.mem_cons_self
      have read := inductionHypothesis fun character among =>
        bare character (List.mem_cons_of_mem first among)
      rw [List.cons_append, readPieces, outside, read]
      simp [Option.map_map, Function.comp_def]

theorem readPieces_quoted {quote : Char} {content : List Char} (closed : quote ∉ content)
    (before rest : List Char) :
    readPieces (some (quote, before)) (content ++ quote :: rest) =
      (readPieces none rest).map (.quoted (String.ofList (before ++ content)) :: ·) := by
  induction content generalizing before with
  | nil => simp [readPieces]
  | cons first later inductionHypothesis =>
      simp only [List.mem_cons, not_or] at closed
      have other : (first == quote) = false := by
        simpa using fun same => closed.1 same.symm
      have read := inductionHypothesis closed.2 (before ++ [first])
      rw [List.cons_append, readPieces, other, read, List.append_assoc]
      rfl

end NativeText

open NativeText

namespace NativePart

/-- A part keeps to itself: words hold no quote, and a text not the quote around it. -/
def IsSealed : NativePart → Prop
  | words content => Bare content.toList
  | quoted quote content => isQuote quote = true ∧ quote ∉ content.toList

def pieces : NativePart → List Piece
  | words content => content.toList.map .bare
  | quoted _ content => [.quoted content]

end NativePart

namespace NativeText

def IsSealed (text : NativeText) : Prop :=
  ∀ part ∈ text, part.IsSealed

def pieces (text : NativeText) : List Piece :=
  text.flatMap NativePart.pieces

/-- A sealed text is read back in the pieces of which it was made. -/
theorem readPieces_letters {text : NativeText} (isSealed : text.IsSealed) :
    readPieces none text.letters = some text.pieces := by
  induction text with
  | nil => rfl
  | cons part text inductionHypothesis =>
      have here := isSealed part List.mem_cons_self
      have later := inductionHypothesis fun other among =>
        isSealed other (List.mem_cons_of_mem part among)
      cases part with
      | words content =>
          rw [letters_words, readPieces_bare here, later]
          rfl
      | quoted quote content =>
          obtain ⟨mark, closed⟩ := here
          rw [letters_quoted, readPieces, mark, if_pos rfl, List.append_assoc,
            List.singleton_append, readPieces_quoted closed, later, List.nil_append,
            String.ofList_toList]
          rfl

theorem pieces_append (left right : NativeText) :
    pieces (left ++ right) = pieces left ++ pieces right :=
  List.flatMap_append

theorem contents_append (left right : List Piece) :
    contents (left ++ right) = contents left ++ contents right :=
  List.filterMap_append

theorem outline_append (left right : List Piece) :
    outline (left ++ right) = outline left ++ outline right :=
  List.map_append

/-- A text is sealed, has the contents in its quotes, and is like another outside them. -/
structure Holds (text hollow : NativeText) (held : List String) : Prop where
  isSealed : text.IsSealed
  contents : contents text.pieces = held
  outline : outline text.pieces = outline hollow.pieces

namespace Holds

variable {text hollow other otherHollow : NativeText} {held others : List String}

theorem nil : Holds [] [] [] :=
  ⟨fun _ among => absurd among List.not_mem_nil, rfl, rfl⟩

theorem words {content : String} (bare : Bare content.toList) :
    Holds [.words content] [.words content] [] where
  isSealed _ among := List.mem_singleton.mp among ▸ bare
  contents := by simp [pieces, NativePart.pieces, NativeText.contents]
  outline := rfl

theorem quoted {quote : Char} {content : String} (mark : isQuote quote = true)
    (closed : quote ∉ content.toList) (otherQuote : Char) (otherContent : String) :
    Holds [.quoted quote content] [.quoted otherQuote otherContent] [content] where
  isSealed _ among := List.mem_singleton.mp among ▸ ⟨mark, closed⟩
  contents := rfl
  outline := rfl

theorem append (first : Holds text hollow held) (second : Holds other otherHollow others) :
    Holds (text ++ other) (hollow ++ otherHollow) (held ++ others) where
  isSealed part among := (List.mem_append.mp among).elim (first.isSealed part)
    (second.isSealed part)
  contents := by
    rw [pieces_append, contents_append, first.contents, second.contents]
  outline := by
    rw [pieces_append, pieces_append, outline_append, outline_append, first.outline,
      second.outline]

theorem wordsAppend {content : String} (bare : Bare content.toList)
    (later : Holds text hollow held) :
    Holds (.words content :: text) (.words content :: hollow) held :=
  (words bare).append later

theorem appendWords (first : Holds text hollow held) {content : String}
    (bare : Bare content.toList) :
    Holds (text ++ [.words content]) (hollow ++ [.words content]) held := by
  simpa using first.append (words bare)

theorem of_quote? {content : String} (isQuoted : quote? content = some text) :
    Holds text [.quoted '"' ""] [content] := by
  obtain ⟨quote, mark, closed, rfl⟩ := Native.quote?_eq_some isQuoted
  exact quoted (by rcases mark with rfl | rfl <;> rfl) closed _ _

end Holds

/-- Texts of which each holds its own contents. -/
inductive HoldEach : List NativeText → List NativeText → List (List String) → Prop
  | nil : HoldEach [] [] []
  | cons {text hollow : NativeText} {held : List String} {texts hollows : List NativeText}
      {others : List (List String)} :
      Holds text hollow held → HoldEach texts hollows others →
        HoldEach (text :: texts) (hollow :: hollows) (held :: others)

namespace HoldEach

variable {texts hollows : List NativeText} {each : List (List String)}

theorem separated {words : String} (bare : Bare words.toList)
    (holds : HoldEach texts hollows each) :
    Holds (separated words texts) (separated words hollows) each.flatten := by
  induction holds with
  | nil => exact .nil
  | cons first rest inductionHypothesis =>
      cases rest with
      | nil => simpa [NativeText.separated] using first
      | cons second rest => exact first.append (.wordsAppend bare inductionHypothesis)

theorem clause {opening : String} (bare : Bare opening.toList)
    (holds : HoldEach texts hollows each) :
    Holds (Native.clause opening texts) (Native.clause opening hollows) each.flatten := by
  cases holds with
  | nil => exact .nil
  | cons first rest =>
      exact .wordsAppend bare (separated (by decide) (HoldEach.cons first rest))

/-- Texts that hold what their items do, and are like those of the hollow items. -/
theorem of_mapM {Item : Type} {step hollowStep : Item → Option NativeText} {hollow : Item → Item}
    {held : Item → List String} {items : List Item}
    (single : ∀ item ∈ items, ∀ text, step item = some text →
      ∃ other, hollowStep (hollow item) = some other ∧ Holds text other (held item))
    (done : items.mapM step = some texts) :
    ∃ hollows, (items.map hollow).mapM hollowStep = some hollows ∧
      HoldEach texts hollows (items.map held) := by
  replace done := Native.forall₂_of_mapM done
  induction done with
  | nil => exact ⟨[], rfl, .nil⟩
  | @cons item text _ _ here _ inductionHypothesis =>
      obtain ⟨first, found, holds⟩ := single item List.mem_cons_self text here
      obtain ⟨rest, foundRest, holdRest⟩ := inductionHypothesis
        fun item among => single item (List.mem_cons_of_mem _ among)
      exact ⟨first :: rest, by simp [found, foundRest], .cons holds holdRest⟩

end HoldEach

theorem Holds.appendClause {text hollow : NativeText} {held : List String}
    (first : Holds text hollow held) (opening : String) (bare : Bare opening.toList)
    {texts hollows : List NativeText} {each : List (List String)}
    (later : HoldEach texts hollows each) :
    Holds (text ++ Native.clause opening texts) (hollow ++ Native.clause opening hollows)
      (held ++ each.flatten) :=
  first.append (later.clause bare)

end NativeText

/-! ### What a query has in quotes -/

/-- A moment that is written as its day alone. -/
def Moment.isWholeDay (moment : Moment) : Bool :=
  moment.hour == 0 && moment.minute == 0 && moment.second == 0

/-- What a literal has in quotes. -/
def Cell.quoted : Cell → List String
  | text content => [content]
  | date moment =>
      if moment.isWholeDay then [moment.dayText]
      else [moment.dayText ++ " " ++ moment.clockText]
  | _ => []

/-- A literal with nothing of its own in quotes; a day is still told from a time of day. -/
def Cell.hollow : Cell → Cell
  | text _ => text ""
  | date moment =>
      date (if moment.isWholeDay then default else ⟨default, 1, 0, 0, 0, by decide⟩)
  | cell => cell

namespace Expr

/-- What an expression has in quotes, from left to right. A text that is sought without
regard to case is in small letters. -/
def quoted (caseSensitive : Bool) : Expr → List String
  | literal cell => cell.quoted
  | aggregate _ argument => argument.quoted caseSensitive
  | changeCase _ argument => argument.quoted caseSensitive
  | arithmetic _ left right => left.quoted caseSensitive ++ right.quoted caseSensitive
  | negate operand => operand.quoted caseSensitive
  | condition relation left right =>
      left.quoted caseSensitive ++
        if Native.foldsCase relation && !caseSensitive then
          (right.quoted caseSensitive).map Text.lower
        else right.quoted caseSensitive
  | nullCheck operand _ => operand.quoted caseSensitive
  | compound _ left right => left.quoted caseSensitive ++ right.quoted caseSensitive
  | not operand => operand.quoted caseSensitive
  | column _ => []
  | countRows => []
  | today => []

/-- An expression with nothing of its own in quotes. -/
def hollow : Expr → Expr
  | literal cell => literal cell.hollow
  | aggregate function argument => aggregate function argument.hollow
  | changeCase letterCase argument => changeCase letterCase argument.hollow
  | arithmetic operator left right => arithmetic operator left.hollow right.hollow
  | negate operand => negate operand.hollow
  | condition relation left right => condition relation left.hollow right.hollow
  | nullCheck operand negated => nullCheck operand.hollow negated
  | compound connective left right => compound connective left.hollow right.hollow
  | not operand => not operand.hollow
  | column reference => column reference
  | countRows => countRows
  | today => today

end Expr

/-- What an entry of LABEL or FORMAT has in quotes: its expression's texts and its own. -/
def quotedNote (caseSensitive : Bool) (entry : Expr × String) : List String :=
  entry.1.quoted caseSensitive ++ [entry.2]

/-- An item with nothing of its own in quotes and without a name. -/
def SelectItem.hollow : SelectItem → SelectItem
  | expr shown _ => expr shown.hollow none
  | star qualifier => star qualifier

namespace SelectQuery

/-- What a query has in quotes, clause by clause. The names of the SELECT list stand among
the labels. -/
def quoted (query : SelectQuery) (caseSensitive : Bool) : List String :=
  let texts := Expr.quoted caseSensitive
  (query.items.filterMap SelectItem.expr?).flatMap texts ++ query.filter.toList.flatMap texts ++
    query.groupBy.flatMap texts ++ query.pivot.flatMap texts ++
    query.orderBy.flatMap (fun key => texts key.expr) ++
    (Native.labels query).flatMap (quotedNote caseSensitive) ++
    query.formats.flatMap (quotedNote caseSensitive)

/-- A query with nothing of its own in quotes, and with a LABEL entry for each name of the
SELECT list that becomes one. -/
def hollow (query : SelectQuery) : SelectQuery where
  items := query.items.map SelectItem.hollow
  source := none
  joins := []
  filter := query.filter.map Expr.hollow
  groupBy := query.groupBy.map Expr.hollow
  having := none
  orderBy := query.orderBy.map fun key => ⟨key.expr.hollow, key.descending⟩
  limit := query.limit
  offset := query.offset
  distinct := false
  distinctOn := []
  pivot := query.pivot.map Expr.hollow
  labels := (Native.labels query).map fun entry => (entry.1.hollow, "")
  formats := query.formats.map fun entry => (entry.1.hollow, "")

end SelectQuery

/-! ### Values and predicates -/

namespace Native

/-- What no quote passes, a quote is not. -/
theorem isQuote_of_test {test : Char → Bool} (double : test '"' = false)
    (single : test '\'' = false) {character : Char} (passed : test character = true) :
    isQuote character = false := by
  have other (mark : Char) (unlike : test mark = false) : (character == mark) = false := by
    rw [beq_eq_false_iff_ne]
    rintro rfl
    exact Bool.false_ne_true (unlike.symm.trans passed)
  rw [isQuote, other '"' double, other '\'' single]
  rfl

theorem isQuote_of_isDigit {character : Char} (digit : character.isDigit = true) :
    isQuote character = false :=
  isQuote_of_test (by decide : '"'.isDigit = false) (by decide) digit

theorem bare_append {left right : List Char} : Bare (left ++ right) ↔ Bare left ∧ Bare right :=
  List.forall_mem_append

theorem bare_ofNat (value : Nat) : Bare (Text.ofNat value).toList := by
  rw [toList_ofNat]
  exact fun digit among => isQuote_of_isDigit (isDigit_of_mem_toDigits among)

theorem quote?_empty : quote? "" = some [.quoted '"' ""] := by
  simp [quote?]

theorem holds_column {location : Location} {reference : ColumnRef} {text : NativeText}
    (translated : column? location reference = some text) :
    Holds text text [] := by
  obtain ⟨-, code, -, -, rfl⟩ := inside_of_column? translated
  refine .words fun letter among => ?_
  rcases mem_of_isColumnCode code among with upper | rfl
  · exact isQuote_of_test (by decide : '"'.isUpper = false) (by decide) upper
  · decide

theorem bare_literalText (number : Number) : Bare number.literalText.toList := by
  cases number with
  | int value =>
      rw [Number.literalText, Text.ofInt]
      split
      · rw [String.toList_append, bare_append]
        exact ⟨by decide, bare_ofNat _⟩
      · exact bare_ofNat _
  | float value =>
      cases value with
      | nan => decide
      | infinite negative => cases negative <;> decide
      | finite negative code =>
          have marks : Bare Double.marks := by decide
          have size : Bare (Double.magnitudeText code) := fun _ among =>
            (Double.mem_magnitudeText among).elim isQuote_of_isDigit (marks _)
          rw [Number.literalText, Double.toList_text]
          cases negative with
          | false => exact size
          | true => exact List.forall_mem_cons.mpr ⟨by decide, size⟩

theorem holds_literal {cell : Cell} {text : NativeText} (translated : literal? cell = some text) :
    ∃ hollow, literal? cell.hollow = some hollow ∧ Holds text hollow cell.quoted := by
  cases cell with
  | null => cases translated
  | text content => exact ⟨_, quote?_empty, .of_quote? translated⟩
  | boolean flag =>
      refine ⟨text, translated, ?_⟩
      obtain rfl := Option.some.inj translated
      exact .words (by cases flag <;> decide)
  | number number =>
      refine ⟨text, translated, ?_⟩
      obtain rfl := Option.some.inj translated
      exact .words (bare_literalText number)
  | date moment =>
      have part (value : Nat) : Bare (Text.zeroPadded 2 value).toList :=
        fun digit among => isQuote_of_isDigit (isDigit_of_mem_zeroPadded among)
      have day : Bare moment.dayText.toList := by
        simp only [Moment.dayText, String.toList_append, bare_append, bare_ofNat, part]
        decide
      have clock : Bare moment.clockText.toList := by
        simp only [Moment.clockText, String.toList_append, bare_append, part]
        decide
      have closed {content : String} (bare : Bare content.toList) : '\'' ∉ content.toList :=
        fun among => Bool.false_ne_true (bare _ among).symm
      have written (moment : Moment) : literal? (.date moment) =
          if moment.isWholeDay then some [.words "date ", .quoted '\'' moment.dayText]
          else some [.words "datetime ",
            .quoted '\'' (moment.dayText ++ " " ++ moment.clockText)] := rfl
      rw [written] at translated
      simp only [Cell.hollow, written, Cell.quoted]
      cases whole : moment.isWholeDay with
      | true =>
          simp only [whole, if_true, Option.some.injEq] at translated
          subst translated
          exact ⟨_, rfl, .wordsAppend (by decide) (.quoted rfl (closed day) _ _)⟩
      | false =>
          simp only [whole, Bool.false_eq_true, if_false, Option.some.injEq] at translated
          subst translated
          have both : Bare (moment.dayText ++ " " ++ moment.clockText).toList := by
            simp only [String.toList_append, bare_append, day, clock]
            decide
          exact ⟨_, rfl, .wordsAppend (by decide) (.quoted rfl (closed both) _ _)⟩

theorem holds_value {location : Location} {expr : Expr} {text : NativeText}
    (caseSensitive : Bool) (translated : value? location expr = some text) :
    ∃ hollow, value? location expr.hollow = some hollow ∧
      Holds text hollow (expr.quoted caseSensitive) := by
  rw [value?_eq_some_iff] at translated
  simp only [value?_eq_some_iff]
  induction translated with
  | literal found =>
      obtain ⟨hollow, translated, holds⟩ := holds_literal found
      exact ⟨hollow, .literal translated, holds⟩
  | column found => exact ⟨_, .column found, holds_column found⟩
  | today => exact ⟨_, .today, .words (by decide)⟩
  | aggregate function _ inductionHypothesis =>
      obtain ⟨hollow, translated, holds⟩ := inductionHypothesis
      refine ⟨_, .aggregate function translated, ?_⟩
      exact .wordsAppend (by cases function <;> decide) (holds.appendWords (by decide))
  | changeCase letterCase _ inductionHypothesis =>
      obtain ⟨hollow, translated, holds⟩ := inductionHypothesis
      refine ⟨_, .changeCase letterCase translated, ?_⟩
      exact .wordsAppend (by cases letterCase <;> decide) (holds.appendWords (by decide))
  | arithmetic operator _ _ leftHypothesis rightHypothesis =>
      obtain ⟨leftHollow, onLeft, holdsLeft⟩ := leftHypothesis
      obtain ⟨rightHollow, onRight, holdsRight⟩ := rightHypothesis
      refine ⟨_, .arithmetic operator onLeft onRight, ?_⟩
      have sign : Bare (" " ++ operator.sign ++ " ").toList := by cases operator <;> decide
      have inner := holdsLeft.append (.wordsAppend sign holdsRight)
      simpa [Expr.quoted] using Holds.wordsAppend (by decide)
        (inner.appendWords (by decide : Bare ")".toList))

theorem isNullLiteral_hollow (expr : Expr) : isNullLiteral expr.hollow = isNullLiteral expr := by
  cases expr with
  | literal cell => cases cell <;> rfl
  | _ => rfl

theorem holds_condition {location : Location} {caseSensitive : Bool} {relation : Relation}
    {left right : Expr} {text : NativeText}
    (translated : condition? location caseSensitive relation left right = some text) :
    ∃ hollow, condition? location caseSensitive relation left.hollow right.hollow = some hollow ∧
      Holds text hollow ((Expr.condition relation left right).quoted caseSensitive) := by
  have sign : Bare (" " ++ relation.text ++ " ").toList := by
    cases relation with
    | compare comparison => cases comparison <;> decide
    | _ => decide
  obtain ⟨leftGiven, rightGiven, folded | whole⟩ := condition?_eq_some translated
  · obtain ⟨content, sought, inner, folds, rfl, isQuoted, onLeft, rfl⟩ := folded
    obtain ⟨leftHollow, found, holds⟩ := holds_value caseSensitive onLeft
    have lowered : quote? (Text.lower "") = some [.quoted '"' ""] := quote?_empty
    have given : isNullLiteral (.literal (.text "")) = false := rfl
    refine ⟨.words "lower(" :: leftHollow ++
      .words ")" :: .words (" " ++ relation.text ++ " ") :: [.quoted '"' ""], ?_, ?_⟩
    · simp [condition?, isNullLiteral_hollow, leftGiven, folds, Expr.hollow, Cell.hollow, given,
        lowered, found]
    · simpa [Expr.quoted, folds, Cell.quoted] using Holds.wordsAppend (by decide)
        (holds.append (.wordsAppend (by decide) (.wordsAppend sign (.of_quote? isQuoted))))
  · obtain ⟨leftText, rightText, plain, onLeft, onRight, rfl⟩ := whole
    obtain ⟨leftHollow, foundLeft, holdsLeft⟩ := holds_value caseSensitive onLeft
    obtain ⟨rightHollow, foundRight, holdsRight⟩ := holds_value caseSensitive onRight
    refine ⟨leftHollow ++ .words (" " ++ relation.text ++ " ") :: rightHollow, ?_, ?_⟩
    · simp [condition?, isNullLiteral_hollow, leftGiven, rightGiven, plain, foundLeft, foundRight]
    · rw [Expr.quoted, plain]
      exact holdsLeft.append (.wordsAppend sign holdsRight)

theorem holds_predicate {location : Location} {caseSensitive : Bool} {expr : Expr}
    {text : NativeText} (translated : predicate? location caseSensitive expr = some text) :
    ∃ hollow, predicate? location caseSensitive expr.hollow = some hollow ∧
      Holds text hollow (expr.quoted caseSensitive) := by
  rw [predicate?_eq_some_iff] at translated
  simp only [predicate?_eq_some_iff]
  induction translated with
  | compound connective _ _ leftHypothesis rightHypothesis =>
      obtain ⟨leftHollow, onLeft, holdsLeft⟩ := leftHypothesis
      obtain ⟨rightHollow, onRight, holdsRight⟩ := rightHypothesis
      refine ⟨_, .compound connective onLeft onRight, ?_⟩
      have word : Bare (" " ++ connective.text ++ " ").toList := by cases connective <;> decide
      have inner := holdsLeft.append (.wordsAppend word holdsRight)
      simpa [Expr.quoted] using Holds.wordsAppend (by decide)
        (inner.appendWords (by decide : Bare ")".toList))
  | not _ inductionHypothesis =>
      obtain ⟨hollow, translated, holds⟩ := inductionHypothesis
      refine ⟨_, .not translated, ?_⟩
      exact .wordsAppend (by decide) (holds.appendWords (by decide))
  | nullCheck negated inside =>
      obtain ⟨hollow, translated, holds⟩ := holds_value caseSensitive inside
      refine ⟨_, .nullCheck negated translated, ?_⟩
      exact holds.appendWords (by cases negated <;> decide)
  | condition found =>
      obtain ⟨hollow, translated, holds⟩ := holds_condition found
      exact ⟨hollow, .condition translated, holds⟩

/-! ### Clauses -/

theorem holds_key {location : Location} {names : List String} {key : OrderKey} {text : NativeText}
    (caseSensitive : Bool) (translated : orderKey? location names key = some text) :
    ∃ hollow, orderKey? location [] ⟨key.expr.hollow, key.descending⟩ = some hollow ∧
      Holds text hollow (key.expr.quoted caseSensitive) := by
  obtain ⟨-, shown, valued, rfl⟩ := orderKey?_eq_some translated
  obtain ⟨hollow, found, holds⟩ := holds_value caseSensitive valued
  refine ⟨hollow ++ [.words (if key.descending then " desc" else " asc")], ?_, ?_⟩
  · simp [orderKey?, found]
  · exact holds.appendWords (by cases key.descending <;> decide)

theorem holds_note {location : Location} {entry : Expr × String} {text : NativeText}
    (caseSensitive : Bool) (translated : note? location entry = some text) :
    ∃ hollow, note? location (entry.1.hollow, "") = some hollow ∧
      Holds text hollow (quotedNote caseSensitive entry) := by
  obtain ⟨shown, inQuotes, valued, isQuoted, rfl⟩ := note?_eq_some translated
  obtain ⟨hollow, found, holds⟩ := holds_value caseSensitive valued
  refine ⟨hollow ++ .words " " :: [.quoted '"' ""], ?_, ?_⟩
  · simp [note?, found, quote?_empty]
  · exact holds.append (.wordsAppend (by decide) (.of_quote? isQuoted))

/-- Items that are expressions are translated as values. -/
theorem items?_of_exprs {location : Location} {items : List SelectItem} {exprs : List Expr}
    (listed : items.map SelectItem.expr? = exprs.map some) :
    items? location items = values? location exprs := by
  have each {step : SelectItem → Option Expr} (same : ∀ item, step item = item.expr?) :
      items.mapM step = some exprs := by
    induction items generalizing exprs with
    | nil =>
        obtain rfl := List.map_eq_nil_iff.mp listed.symm
        rfl
    | cons item items inductionHypothesis =>
        cases exprs with
        | nil => cases listed
        | cons expr exprs =>
            obtain ⟨here, later⟩ := List.cons.inj listed
            rw [List.mapM_cons, same, here, inductionHypothesis later]
            rfl
  unfold items?
  split
  · cases exprs <;> cases listed
  · rw [each fun item => by cases item <;> rfl]
    rfl

theorem holds_items {location : Location} {items : List SelectItem} {text : NativeText}
    (caseSensitive : Bool) (translated : items? location items = some text) :
    ∃ hollow, items? location (items.map SelectItem.hollow) = some hollow ∧
      Holds text hollow ((items.filterMap SelectItem.expr?).flatMap
        (Expr.quoted caseSensitive)) := by
  rcases items?_eq_some translated with ⟨rfl, rfl⟩ | ⟨exprs, -, listed, -, -⟩
  · exact ⟨[.words "*"], rfl, .words (by decide)⟩
  · have exprsOnly : items.filterMap SelectItem.expr? = exprs := by
      have inner := congrArg (List.filterMap id) listed
      simpa [List.filterMap_map] using inner
    have hollows : (items.map SelectItem.hollow).map SelectItem.expr? =
        (exprs.map Expr.hollow).map some := by
      have inner := congrArg (List.map (Option.map Expr.hollow)) listed
      rw [List.map_map, List.map_map] at inner
      rw [List.map_map, List.map_map]
      refine Eq.trans (List.map_congr_left fun item _ => ?_) inner
      cases item <;> rfl
    rw [items?_of_exprs listed, values?, Option.map_eq_some_iff] at translated
    obtain ⟨texts, valued, rfl⟩ := translated
    obtain ⟨others, found, holds⟩ := HoldEach.of_mapM
      (fun _ _ _ => holds_value caseSensitive) valued
    rw [items?_of_exprs hollows, values?, found, exprsOnly, List.flatMap_def]
    exact ⟨_, rfl, holds.separated (by decide)⟩

theorem itemNames_hollow (query : SelectQuery) : itemNames query.hollow.items = [] := by
  rw [itemNames, List.filterMap_eq_nil_iff]
  intro item among
  obtain ⟨original, -, rfl⟩ := List.mem_map.mp among
  cases original <;> rfl

theorem labels_hollow (query : SelectQuery) : labels query.hollow = query.hollow.labels := by
  refine labels_eq fun expr name among => ?_
  obtain ⟨original, -, same⟩ := List.mem_map.mp among
  cases original <;> cases same

theorem toList_filter_hollow (query : SelectQuery) :
    query.hollow.filter.toList = query.filter.toList.map Expr.hollow := by
  rw [SelectQuery.hollow]
  cases query.filter <;> rfl

/-- The numbers of LIMIT and OFFSET hold nothing. -/
theorem holdEach_numbers (numbers : List Nat) :
    HoldEach (numbers.map fun number => [.words (Text.ofNat number)])
      (numbers.map fun number => [.words (Text.ofNat number)]) (numbers.map fun _ => []) := by
  induction numbers with
  | nil => exact .nil
  | cons number numbers inductionHypothesis =>
      exact .cons (.words (bare_ofNat number)) inductionHypothesis

/-- A query has in quotes what its translation holds, and its translation is like that of the
hollow query. -/
theorem holds_query {query : SelectQuery} {location : Location} {caseSensitive : Bool}
    {text : NativeText} (translated : queryText? query location caseSensitive = some text) :
    ∃ hollow, queryText? query.hollow location caseSensitive = some hollow ∧
      Holds text hollow (query.quoted caseSensitive) := by
  obtain ⟨-, items, filter, groups, pivot, order, labelled, formatted, onItems, onFilter,
    onGroups, onPivot, onOrder, onLabels, onFormats, rfl⟩ :=
    queryText?_eq_some_iff.mp translated
  obtain ⟨hollowItems, itemsFound, holdsItems⟩ := holds_items caseSensitive onItems
  obtain ⟨hollowFilter, filterFound, holdsFilter⟩ :=
    HoldEach.of_mapM (fun _ _ _ => holds_predicate) onFilter
  obtain ⟨hollowGroups, groupsFound, holdsGroups⟩ :=
    HoldEach.of_mapM (fun _ _ _ => holds_value caseSensitive) onGroups
  obtain ⟨hollowPivot, pivotFound, holdsPivot⟩ :=
    HoldEach.of_mapM (fun _ _ _ => holds_value caseSensitive) onPivot
  obtain ⟨hollowOrder, orderFound, holdsOrder⟩ :=
    HoldEach.of_mapM (fun _ _ _ => holds_key caseSensitive) onOrder
  obtain ⟨hollowLabels, labelsFound, holdsLabels⟩ :=
    HoldEach.of_mapM (fun _ _ _ => holds_note caseSensitive) onLabels
  obtain ⟨hollowFormats, formatsFound, holdsFormats⟩ :=
    HoldEach.of_mapM (fun _ _ _ => holds_note caseSensitive) onFormats
  have holdsLimit := holdEach_numbers query.limit.toList
  have holdsOffset : HoldEach
      (if query.offset == 0 then [] else [[.words (Text.ofNat query.offset)]])
      (if query.offset == 0 then [] else [[.words (Text.ofNat query.offset)]])
      (if query.offset == 0 then [] else [[]]) := by
    split
    · exact holdEach_numbers []
    · exact holdEach_numbers [query.offset]
  rw [← toList_filter_hollow] at filterFound
  rw [← itemNames_hollow query] at orderFound
  refine ⟨_, queryText?_eq_some_iff.mpr ⟨rfl, hollowItems, hollowFilter, hollowGroups,
    hollowPivot, hollowOrder, hollowLabels, hollowFormats, itemsFound, filterFound, groupsFound,
    pivotFound, orderFound, (labels_hollow query).symm ▸ labelsFound, formatsFound, rfl⟩, ?_⟩
  -- The contents clause by clause; those of LIMIT and OFFSET are empty.
  have limitHolds : (query.limit.toList.map fun _ => ([] : List String)).flatten = [] := by
    cases query.limit <;> rfl
  have offsetHolds : (if query.offset == 0 then [] else [([] : List String)]).flatten = [] := by
    split <;> rfl
  have shown : Holds (.words "select " :: items) (.words "select " :: hollowItems) _ :=
    .wordsAppend (by decide) holdsItems
  have filtered := shown.appendClause " where " (by decide) holdsFilter
  have grouped := filtered.appendClause " group by " (by decide) holdsGroups
  have pivoted := grouped.appendClause " pivot " (by decide) holdsPivot
  have ordered := pivoted.appendClause " order by " (by decide) holdsOrder
  have limited := ordered.appendClause " limit " (by decide) holdsLimit
  have skipped := limited.appendClause " offset " (by decide) holdsOffset
  have noted := skipped.appendClause " label " (by decide) holdsLabels
  have whole := noted.appendClause " format " (by decide) holdsFormats
  simp only [limitHolds, offsetHolds, List.append_nil, ← List.flatMap_def] at whole
  exact whole

/-- A translated query leaves no quote open and has in quotes the texts of the query, in the
order in which they are written. Outside quotes it is like all queries that are the same but
for what stands in quotes and have the same names for labels. -/
theorem pieces?_translated {query : SelectQuery} {location : Location} {caseSensitive : Bool}
    {text : NativeText} (translated : queryText? query location caseSensitive = some text) :
    ∃ pieces, pieces? text.text = some pieces ∧ contents pieces = query.quoted caseSensitive ∧
      ∀ other otherText, other.hollow = query.hollow →
        queryText? other location caseSensitive = some otherText →
        (pieces? otherText.text).map outline = some (outline pieces) := by
  have read {query : SelectQuery} {text : NativeText}
      (translated : queryText? query location caseSensitive = some text) :
      pieces? text.text = some text.pieces := by
    obtain ⟨_, -, holds⟩ := holds_query translated
    rw [pieces?, toList_text, readPieces_letters holds.isSealed]
  obtain ⟨hollow, found, holds⟩ := holds_query translated
  refine ⟨text.pieces, read translated, holds.contents, ?_⟩
  intro other otherText alike otherTranslated
  obtain ⟨otherHollow, otherFound, otherHolds⟩ := holds_query otherTranslated
  rw [alike, found] at otherFound
  obtain rfl := Option.some.inj otherFound
  rw [read otherTranslated, Option.map_some, holds.outline, otherHolds.outline]

/-! ### Texts with quotes of both kinds, and a text that decides what is a label -/

/-- The rows in which a text is said, under a name of their own. -/
def saying (name said : String) : SelectQuery :=
  { itemQuery (columnNamed "A") with
    items := [.expr (columnNamed "A") (some name)]
    filter := some (.condition .contains (columnNamed "B") (.literal (.text said))) }

theorem saying_pieces :
    ∃ text pieces, queryText? (saying "it's" "Say \"hi\"") wideSheet false = some text ∧
      pieces? text.text = some pieces ∧ contents pieces = ["say \"hi\"", "it's"] ∧
      ∃ otherText, queryText? (saying "B" "x' or A contains '") wideSheet false = some otherText ∧
        (pieces? otherText.text).map outline = some (outline pieces) := by
  have columnA : column? wideSheet ⟨none, "A"⟩ = some [.words "A"] := by rfl
  have columnB : column? wideSheet ⟨none, "B"⟩ = some [.words "B"] := by rfl
  have isTranslated (name said : String) (given : name ≠ "") {inQuotes sought : NativeText}
      (label : quote? name = some inQuotes) (test : quote? (Text.lower said) = some sought) :
      (queryText? (saying name said) wideSheet false).isSome = true := by
    simp [queryText?, saying, itemQuery, columnNamed, hasShape, items?, values?, predicate?,
      condition?, value?, columnA, columnB, labels, note?, isNullLiteral, Cell.isNull, foldsCase,
      given, label, test]
  have lowered : Text.lower "Say \"hi\"" = "say \"hi\"" ∧
      Text.lower "x' or A contains '" = "x' or a contains '" := by
    decide +kernel
  have first := isTranslated "it's" "Say \"hi\"" (by decide)
    (by simp [quote?] : quote? "it's" = some [.quoted '"' "it's"])
    (by simp [quote?, lowered] : quote? _ = some [.quoted '\'' "say \"hi\""])
  have second := isTranslated "B" "x' or A contains '" (by decide)
    (by simp [quote?] : quote? "B" = some [.quoted '"' "B"])
    (by simp [quote?, lowered] : quote? _ = some [.quoted '"' "x' or a contains '"])
  obtain ⟨text, translated⟩ := Option.isSome_iff_exists.mp first
  obtain ⟨otherText, otherTranslated⟩ := Option.isSome_iff_exists.mp second
  obtain ⟨pieces, read, held, alike⟩ := pieces?_translated translated
  have texts : (saying "it's" "Say \"hi\"").quoted false = ["say \"hi\"", "it's"] := by
    decide +kernel
  have shape : (saying "B" "x' or A contains '").hollow = (saying "it's" "Say \"hi\"").hollow := by
    decide +kernel
  exact ⟨text, pieces, translated, read, held.trans texts, otherText, otherTranslated,
    alike _ _ shape otherTranslated⟩

/-- A text under a name of its own, beside a label for the text a. -/
def labelled (content : String) : SelectQuery :=
  { itemQuery (.literal (.text content)) with
    items := [.expr (.literal (.text content)) (some "x")]
    labels := [(.literal (.text "a"), "L")] }

/-- A text decides whether its name becomes a label. -/
theorem labelled_not_outline :
    Statement.parse "SELECT 'b' AS x LABEL 'a' 'L'" = .ok (.select (labelled "b")) ∧
      ¬ ∀ content other text otherText,
        queryText? (labelled content) wideSheet false = some text →
        queryText? (labelled other) wideSheet false = some otherText →
        (pieces? text.text).map outline = (pieces? otherText.text).map outline := by
  refine ⟨by rfl, fun alike => ?_⟩
  have a : quote? "a" = some [.quoted '"' "a"] := by simp [quote?]
  have b : quote? "b" = some [.quoted '"' "b"] := by simp [quote?]
  have label : quote? "L" = some [.quoted '"' "L"] := by simp [quote?]
  have name : quote? "x" = some [.quoted '"' "x"] := by simp [quote?]
  have known : queryText? (labelled "a") wideSheet false = some [.words "select ", .quoted '"' "a",
      .words " label ", .quoted '"' "a", .words " ", .quoted '"' "L"] := by
    simp [queryText?, labelled, itemQuery, hasShape, items?, values?, value?, literal?, labels,
      note?, itemNames, Expr.sameAs, Cell.sameValue, separated, clause, a, label]
  have unknown : queryText? (labelled "b") wideSheet false = some [.words "select ",
      .quoted '"' "b", .words " label ", .quoted '"' "a", .words " ", .quoted '"' "L",
      .words ", ", .quoted '"' "b", .words " ", .quoted '"' "x"] := by
    simp [queryText?, labelled, itemQuery, hasShape, items?, values?, value?, literal?, labels,
      note?, itemNames, Expr.sameAs, Cell.sameValue, separated, clause, a, b, label, name]
  have same := alike "a" "b" _ _ known unknown
  revert same
  decide +kernel

end Native

end GridQuery
