import GridQuery.Native.Query
import GridQuery.Proofs.Failures
import GridQuery.Proofs.Location.ColumnCode
import GridQuery.Proofs.Table.Place

/-!
# The columns of a translated query

The text of a value or of a predicate is put together from the texts of its parts. A query is
translated if its columns are column codes inside the range. Each of them is a column of the
table of the range, but for a code with a line break after it, which passes for one in the
translation and is none in the table.
-/

namespace GridQuery

/-- A range with a last column, which does not come before the first. -/
def Location.IsClosed (location : Location) : Prop :=
  ∃ last, location.lastColumn = some last ∧
    columnIndex location.firstColumn ≤ columnIndex last

/-- Every location of a range with a last column is closed. -/
theorem Location.isClosed_of_ofRange {spreadsheet range : String} {location : Location}
    (made : ofRange spreadsheet range = .ok location) (last : location.lastColumn.isSome) :
    location.IsClosed := by
  simp only [ofRange] at made
  split at made
  · simp at made
  · split at made
    · simp at made
    · next sheet firstColumn row corner _ =>
        cases corner with
        | none =>
            simp only [Option.map_none, Bool.false_eq_true, if_false, bind_eq_ok_iff, pure_eq_ok,
              Except.ok.injEq] at made
            obtain ⟨_, -, _, -, rfl⟩ := made
            cases last
        | some corner =>
            simp only [Option.map_some, decide_eq_true_eq] at made
            split at made
            · simp at made
            · next ordered =>
                simp only [bind_eq_ok_iff, pure_eq_ok, Except.ok.injEq] at made
                obtain ⟨_, -, _, -, rfl⟩ := made
                exact ⟨corner.1, rfl, Int.not_lt.mp ordered⟩

namespace Native

/-! ### Texts of expressions -/

/-- How the text of a value is put together from those of its parts. -/
inductive IsValueText (location : Location) : Expr → NativeText → Prop where
  | column {reference : ColumnRef} {text : NativeText}
      (found : column? location reference = some text) :
      IsValueText location (.column reference) text
  | literal {cell : Cell} {text : NativeText} (found : literal? cell = some text) :
      IsValueText location (.literal cell) text
  | aggregate (function : Aggregate) {argument : Expr} {inner : NativeText}
      (inside : IsValueText location argument inner) :
      IsValueText location (.aggregate function argument)
        (.words (function.name ++ "(") :: inner ++ [.words ")"])
  | changeCase (letterCase : LetterCase) {argument : Expr} {inner : NativeText}
      (inside : IsValueText location argument inner) :
      IsValueText location (.changeCase letterCase argument)
        (.words (letterCase.name ++ "(") :: inner ++ [.words ")"])
  | today : IsValueText location .today [.words "toDate(now())"]
  | arithmetic (operator : Arithmetic) {left right : Expr} {leftText rightText : NativeText}
      (onLeft : IsValueText location left leftText)
      (onRight : IsValueText location right rightText) :
      IsValueText location (.arithmetic operator left right)
        (.words "(" :: leftText ++ .words (" " ++ operator.sign ++ " ") :: rightText ++
          [.words ")"])

theorem value?_eq_some_iff {location : Location} {expr : Expr} {text : NativeText} :
    value? location expr = some text ↔ IsValueText location expr text := by
  constructor
  · intro translated
    induction expr generalizing text with
    | column reference => exact .column translated
    | literal cell => exact .literal translated
    | aggregate function argument inductionHypothesis =>
        simp only [value?, Option.bind_eq_bind, Option.bind_eq_some_iff, Option.pure_def,
          Option.some.injEq] at translated
        obtain ⟨inner, inside, rfl⟩ := translated
        exact .aggregate function (inductionHypothesis inside)
    | changeCase letterCase argument inductionHypothesis =>
        simp only [value?, Option.bind_eq_bind, Option.bind_eq_some_iff, Option.pure_def,
          Option.some.injEq] at translated
        obtain ⟨inner, inside, rfl⟩ := translated
        exact .changeCase letterCase (inductionHypothesis inside)
    | today =>
        obtain rfl := Option.some.inj translated
        exact .today
    | arithmetic operator left right leftHypothesis rightHypothesis =>
        simp only [value?, Option.bind_eq_bind, Option.bind_eq_some_iff, Option.pure_def,
          Option.some.injEq] at translated
        obtain ⟨leftText, onLeft, rightText, onRight, rfl⟩ := translated
        exact .arithmetic operator (leftHypothesis onLeft) (rightHypothesis onRight)
    | countRows => cases translated
    | negate operand _ => cases translated
    | condition relation left right _ _ => cases translated
    | nullCheck operand negated _ => cases translated
    | compound connective left right _ _ => cases translated
    | not operand _ => cases translated
  · intro shape
    induction shape with
    | column found => exact found
    | literal found => exact found
    | today => rfl
    | aggregate function _ inductionHypothesis
    | changeCase letterCase _ inductionHypothesis =>
        rw [value?, inductionHypothesis]
        rfl
    | arithmetic operator _ _ leftHypothesis rightHypothesis =>
        rw [value?, leftHypothesis, rightHypothesis]
        rfl

/-- How the text of a predicate is put together from those of its parts. -/
inductive IsPredicateText (location : Location) (caseSensitive : Bool) :
    Expr → NativeText → Prop where
  | compound (connective : Connective) {left right : Expr} {leftText rightText : NativeText}
      (onLeft : IsPredicateText location caseSensitive left leftText)
      (onRight : IsPredicateText location caseSensitive right rightText) :
      IsPredicateText location caseSensitive (.compound connective left right)
        (.words "(" :: leftText ++ .words (" " ++ connective.text ++ " ") :: rightText ++
          [.words ")"])
  | not {operand : Expr} {inner : NativeText}
      (inside : IsPredicateText location caseSensitive operand inner) :
      IsPredicateText location caseSensitive (.not operand)
        (.words "not (" :: inner ++ [.words ")"])
  | nullCheck (negated : Bool) {operand : Expr} {inner : NativeText}
      (inside : value? location operand = some inner) :
      IsPredicateText location caseSensitive (.nullCheck operand negated)
        (inner ++ [.words (if negated then " is not null" else " is null")])
  | condition {relation : Relation} {left right : Expr} {text : NativeText}
      (found : condition? location caseSensitive relation left right = some text) :
      IsPredicateText location caseSensitive (.condition relation left right) text

theorem predicate?_eq_some_iff {location : Location} {caseSensitive : Bool} {expr : Expr}
    {text : NativeText} :
    predicate? location caseSensitive expr = some text ↔
      IsPredicateText location caseSensitive expr text := by
  constructor
  · intro translated
    induction expr generalizing text with
    | compound connective left right leftHypothesis rightHypothesis =>
        simp only [predicate?, Option.bind_eq_bind, Option.bind_eq_some_iff, Option.pure_def,
          Option.some.injEq] at translated
        obtain ⟨leftText, onLeft, rightText, onRight, rfl⟩ := translated
        exact .compound connective (leftHypothesis onLeft) (rightHypothesis onRight)
    | not operand inductionHypothesis =>
        simp only [predicate?, Option.bind_eq_bind, Option.bind_eq_some_iff, Option.pure_def,
          Option.some.injEq] at translated
        obtain ⟨inner, inside, rfl⟩ := translated
        exact .not (inductionHypothesis inside)
    | nullCheck operand negated _ =>
        simp only [predicate?, Option.bind_eq_bind, Option.bind_eq_some_iff, Option.pure_def,
          Option.some.injEq] at translated
        obtain ⟨inner, inside, rfl⟩ := translated
        exact .nullCheck negated inside
    | condition relation left right _ _ => exact .condition translated
    | _ => cases translated
  · intro shape
    induction shape with
    | compound connective _ _ leftHypothesis rightHypothesis =>
        rw [predicate?, leftHypothesis, rightHypothesis]
        rfl
    | not _ inductionHypothesis =>
        rw [predicate?, inductionHypothesis]
        rfl
    | nullCheck negated inside =>
        rw [predicate?, inside]
        rfl
    | condition found => exact found

/-- How a condition is translated: by its sides, or as a text that is sought in its left
side in small letters. -/
theorem condition?_eq_some {location : Location} {caseSensitive : Bool} {relation : Relation}
    {left right : Expr} {text : NativeText}
    (translated : condition? location caseSensitive relation left right = some text) :
    isNullLiteral left = false ∧ isNullLiteral right = false ∧
      ((∃ content sought inner, (foldsCase relation && !caseSensitive) = true ∧
          right = .literal (.text content) ∧
          NativeText.quote? (Text.lower content) = some sought ∧
          value? location left = some inner ∧
          text = .words "lower(" :: inner ++
            .words ")" :: .words (" " ++ relation.text ++ " ") :: sought) ∨
        ∃ leftText rightText, (foldsCase relation && !caseSensitive) = false ∧
          value? location left = some leftText ∧ value? location right = some rightText ∧
          text = leftText ++ .words (" " ++ relation.text ++ " ") :: rightText) := by
  simp only [condition?, Option.bind_eq_bind] at translated
  split at translated
  · cases translated
  · next given =>
      simp only [Bool.or_eq_true, not_or, Bool.not_eq_true] at given
      refine ⟨given.1, given.2, ?_⟩
      split at translated
      · next folds =>
          split at translated
          · next content =>
              simp only [Option.bind_eq_some_iff, Option.pure_def, Option.some.injEq] at translated
              obtain ⟨sought, quoted, inner, onLeft, rfl⟩ := translated
              exact .inl ⟨content, sought, inner, folds, rfl, quoted, onLeft, rfl⟩
          · cases translated
      · next plain =>
          simp only [Option.bind_eq_some_iff, Option.pure_def, Option.some.injEq] at translated
          obtain ⟨leftText, onLeft, rightText, onRight, rfl⟩ := translated
          exact .inr ⟨leftText, rightText, Bool.eq_false_iff.mpr plain, onLeft, onRight, rfl⟩

theorem sides_of_condition? {location : Location} {caseSensitive : Bool} {relation : Relation}
    {left right : Expr} {text : NativeText}
    (translated : condition? location caseSensitive relation left right = some text) :
    (∃ leftText, value? location left = some leftText) ∧
      ((∃ rightText, value? location right = some rightText) ∨
        ∃ content, right = .literal (.text content)) := by
  obtain ⟨-, -, folded | plain⟩ := condition?_eq_some translated
  · obtain ⟨content, sought, inner, -, rfl, -, onLeft, -⟩ := folded
    exact ⟨⟨inner, onLeft⟩, .inr ⟨content, rfl⟩⟩
  · obtain ⟨leftText, rightText, -, onLeft, onRight, -⟩ := plain
    exact ⟨⟨leftText, onLeft⟩, .inl ⟨rightText, onRight⟩⟩

/-! ### Columns of expressions -/

/-- The columns of a value that is translated are translated themselves. -/
theorem column?_of_value? {location : Location} {expr : Expr} {text : NativeText}
    (translated : value? location expr = some text) :
    ∀ reference ∈ expr.columns, ∃ text, column? location reference = some text := by
  rw [value?_eq_some_iff] at translated
  induction translated with
  | @column reference text found =>
      intro other among
      obtain rfl := List.mem_singleton.mp among
      exact ⟨text, found⟩
  | literal | today => exact fun _ among => absurd among List.not_mem_nil
  | aggregate _ _ inductionHypothesis | changeCase _ _ inductionHypothesis =>
      exact inductionHypothesis
  | arithmetic operator _ _ leftHypothesis rightHypothesis =>
      intro reference among
      rcases List.mem_append.mp among with inLeft | inRight
      · exact leftHypothesis reference inLeft
      · exact rightHypothesis reference inRight

theorem column?_of_predicate? {location : Location} {caseSensitive : Bool} {expr : Expr}
    {text : NativeText} (translated : predicate? location caseSensitive expr = some text) :
    ∀ reference ∈ expr.columns, ∃ text, column? location reference = some text := by
  rw [predicate?_eq_some_iff] at translated
  induction translated with
  | compound connective _ _ leftHypothesis rightHypothesis =>
      intro reference among
      rcases List.mem_append.mp among with inLeft | inRight
      · exact leftHypothesis reference inLeft
      · exact rightHypothesis reference inRight
  | not _ inductionHypothesis => exact inductionHypothesis
  | nullCheck negated inside =>
      exact fun reference among => column?_of_value? inside reference among
  | condition found =>
      obtain ⟨⟨leftText, onLeft⟩, onRight⟩ := sides_of_condition? found
      intro reference among
      rcases List.mem_append.mp among with inLeft | inRight
      · exact column?_of_value? onLeft reference inLeft
      · rcases onRight with ⟨rightText, onRight⟩ | ⟨content, rfl⟩
        · exact column?_of_value? onRight reference inRight
        · exact absurd inRight List.not_mem_nil

/-! ### Columns of the table -/

/-- A column code, or one with a line break after it. -/
theorem isUpper_of_isColumnCode {name : String} (code : isColumnCode name = true) :
    (∀ letter ∈ name.toList, letter.isUpper = true) ∧ name.toList ≠ [] ∨
      name.toList.getLast? = some '\n' := by
  simp only [isColumnCode, Bool.and_eq_true, Bool.not_eq_true', Bool.or_eq_true, beq_iff_eq,
    List.isEmpty_eq_false_iff] at code
  obtain ⟨some, all | lineBreak⟩ := code
  · have whole : name.toList.takeWhile Char.isUpper = name.toList :=
      (List.takeWhile_prefix Char.isUpper).eq_of_length all
    refine .inl ⟨fun letter among => ?_, whole ▸ some⟩
    rw [← whole] at among
    exact List.all_eq_true.mp List.all_takeWhile letter among
  · refine .inr ?_
    have split := List.take_append_drop (name.toList.takeWhile Char.isUpper).length name.toList
    rw [lineBreak] at split
    rw [← split]
    exact List.getLast?_concat

/-- A column code holds nothing but capital letters and a line break. -/
theorem mem_of_isColumnCode {name : String} (code : isColumnCode name = true) {letter : Char}
    (among : letter ∈ name.toList) : letter.isUpper = true ∨ letter = '\n' := by
  simp only [isColumnCode, Bool.and_eq_true, Bool.or_eq_true, beq_iff_eq] at code
  have split := List.take_append_drop (name.toList.takeWhile Char.isUpper).length name.toList
  have front : name.toList.take (name.toList.takeWhile Char.isUpper).length =
      name.toList.takeWhile Char.isUpper :=
    List.prefix_iff_eq_take.mp (List.takeWhile_prefix Char.isUpper) |>.symm
  rw [front] at split
  rw [← split, List.mem_append] at among
  rcases among with inFront | behind
  · exact .inl (List.all_eq_true.mp List.all_takeWhile letter inFront)
  · rcases code.2 with all | lineBreak
    · rw [all, List.drop_length] at behind
      cases behind
    · rw [lineBreak] at behind
      exact .inr (List.mem_singleton.mp behind)

/-- A column that is translated is inside the range. -/
theorem inside_of_column? {location : Location} {reference : ColumnRef} {text : NativeText}
    (translated : column? location reference = some text) :
    reference.qualifier = none ∧ isColumnCode reference.name = true ∧
      columnIndex location.firstColumn ≤ columnIndex reference.name ∧
      (∀ last ∈ location.lastColumn, columnIndex reference.name ≤ columnIndex last) ∧
      text = [.words reference.name] := by
  simp only [column?, Option.ite_none_right_eq_some, Bool.and_eq_true, decide_eq_true_eq,
    Option.isNone_iff_eq_none, Bool.not_eq_true', Option.some.injEq] at translated
  obtain ⟨⟨⟨⟨unqualified, code⟩, first⟩, within⟩, rfl⟩ := translated
  refine ⟨unqualified, code, first, fun last isLast => ?_, rfl⟩
  rw [Option.mem_def.mp isLast] at within
  simpa using within

variable {location : Location} {data : List Datum} {headerRows : Nat} {aliasName : Option String}
  {table : Table}

/-- The columns of the table of a closed range: all have the name of the table, and each
column of the range is one of them. -/
theorem columns_ofGrid (closed : location.IsClosed)
    (made : Table.ofGrid location data headerRows aliasName = .ok table) :
    table.joined = false ∧ (∀ column ∈ table.columns, column.aliasName = aliasName) ∧
      location.columnCount ≤ table.columns.length ∧
      ∀ (place : Nat) column, table.columns[place]? = some column →
        column.id = columnLetters (location.start + place) := by
  simp only [Table.ofGrid, bind_eq_ok_iff, lift_data_eq_ok_iff, pure_eq_ok, Except.ok.injEq]
    at made
  obtain ⟨raw, -, rfl⟩ := made
  obtain ⟨last, isLast, -⟩ := closed
  refine ⟨rfl, fun column among => ?_, ?_, fun place column found => ?_⟩
  · obtain ⟨_, -, rfl⟩ := List.mem_map.mp among
    rfl
  · simp only [List.length_map, List.length_zipIdx, Table.length_labelsOf, isLast,
      Option.isSome_some, if_true]
    exact Nat.le_max_right _ _
  · simp only [List.getElem?_map, List.getElem?_zipIdx, Option.map_eq_some_iff] at found
    obtain ⟨_, ⟨label, _, rfl⟩, rfl⟩ := found
    simp

/-- A column of the range has its place in the table. -/
theorem exists_column (closed : location.IsClosed)
    (made : Table.ofGrid location data headerRows aliasName = .ok table) {name : String}
    (upper : ∀ letter ∈ name.toList, letter.isUpper = true) (given : name.toList ≠ [])
    (first : columnIndex location.firstColumn ≤ columnIndex name)
    (within : ∀ last ∈ location.lastColumn, columnIndex name ≤ columnIndex last) :
    ∃ (place : Nat) (column : Column),
      table.columns[place]? = some column ∧ column.id = name := by
  obtain ⟨-, -, count, ids⟩ := columns_ofGrid closed made
  obtain ⟨last, isLast, -⟩ := closed
  obtain ⟨natural, letters⟩ := columnLetters_columnIndex upper given
  have before := within last isLast
  simp only [Location.columnCount, isLast] at count
  have bound : (columnIndex name).toNat - location.start < table.columns.length := by
    rw [Location.start]
    omega
  have place : location.start + ((columnIndex name).toNat - location.start) =
      (columnIndex name).toNat := by
    rw [Location.start]
    omega
  refine ⟨_, _, List.getElem?_eq_getElem bound, ?_⟩
  rw [ids _ _ (List.getElem?_eq_getElem bound), place, letters]

/-- A name without a table finds a column of that id, if all columns come from one table. -/
theorem exists_resolve {name : String}
    (one : ∀ column ∈ table.columns, column.aliasName = aliasName)
    {place : Nat} {column : Column} (found : table.columns[place]? = some column)
    (called : column.id = name) : ∃ place, table.resolve ⟨none, name⟩ = .ok place := by
  have hit : (column, place) ∈ Table.firstHits (Table.nameTests name) table.places :=
    Table.mem_firstHits (List.mem_zipIdx_iff_getElem?.mpr found) called
  obtain ⟨first, rest, hits⟩ := List.exists_cons_of_ne_nil (List.ne_nil_of_mem hit)
  have known (pair : Column × Nat) (among : pair ∈ first :: rest) :
      pair.1.aliasName = aliasName := by
    rw [← hits] at among
    have inTable := List.mem_zipIdx_iff_getElem?.mp (Table.firstHits_subset _ _ among)
    exact one pair.1 (List.mem_of_getElem? inTable)
  refine ⟨first.2, ?_⟩
  have alike (pair : Column × Nat) (among : pair ∈ rest) :
      pair.1.aliasName = first.1.aliasName :=
    (known pair (List.mem_cons_of_mem first among)).trans (known first List.mem_cons_self).symm
  simp only [Table.resolve, Table.candidates, bind, Except.bind, hits, Table.all_aliasName alike,
    if_true]
  rfl

end Native

end GridQuery
