import GridQuery.Proofs.Fallible
import Mathlib.Tactic.MkIffOfInductiveProp

/-!
# Cells on which operators stop

An operand that is of an unsuitable type has no number, date or text, and no operator stops
on it. Where one does stop, an operand has the look of what is asked for and cannot be read
as it, or a number is too large.
-/

namespace GridQuery

/-! ### Numbers -/

/-- A numeral with a separator, U+001C to U+001F, among the blanks around it: it has the form
of a number, and no number is read from it. -/
def Number.IsSeparated (content : String) : Prop :=
  ∃ numeral rest,
    Numeral.scan (Numeral.scanSign (content.toList.dropWhile Text.isBlank)).2 =
        some (numeral, rest) ∧
      (∀ character ∈ rest, Text.isBlank character = true) ∧
      ∃ mark ∈ content.toList.takeWhile Text.isBlank ++ rest,
        0x1c ≤ mark.toNat ∧ mark.toNat ≤ 0x1f

theorem isNumeralMargin_eq_false {character : Char} (blank : Text.isBlank character = true) :
    isNumeralMargin character = false ↔ 0x1c ≤ character.toNat ∧ character.toNat ≤ 0x1f := by
  simp [isNumeralMargin, blank]

theorem Number.read_eq_error {content : String} {fault : DataFault} :
    Number.read content = .error fault ↔ fault = .notNumeral ∧ IsSeparated content := by
  unfold Number.read IsSeparated
  dsimp only
  cases scanned : Numeral.scan (Numeral.scanSign (content.toList.dropWhile Text.isBlank)).2 with
  | none => simp
  | some found =>
      obtain ⟨numeral, rest⟩ := found
      simp only [Option.some.injEq, Prod.mk.injEq, and_assoc, exists_and_left, exists_eq_left']
      by_cases blank : rest.all Text.isBlank = true
      · have each := List.all_eq_true.mp blank
        have margin := List.forall_mem_append.mpr
          ⟨List.all_eq_true.mp (List.all_takeWhile (l := content.toList)), each⟩
        have marked : (content.toList.takeWhile Text.isBlank ++ rest).all isNumeralMargin = false ↔
            ∃ mark ∈ content.toList.takeWhile Text.isBlank ++ rest,
              0x1c ≤ mark.toNat ∧ mark.toNat ≤ 0x1f := by
          rw [List.all_eq_false]
          refine exists_congr fun mark => and_congr_right fun among => ?_
          rw [Bool.not_eq_true, isNumeralMargin_eq_false (margin mark among)]
        rw [← marked]
        generalize (content.toList.takeWhile Text.isBlank ++ rest).all isNumeralMargin = plain
        rw [if_neg (by simp [blank])]
        cases plain
        · simp only [Bool.false_eq_true, if_false, Except.error.injEq, and_true]
          exact ⟨fun same => ⟨same.symm, each⟩, fun same => same.1.symm⟩
        · simp
      · have other : ¬ ∀ character ∈ rest, Text.isBlank character = true := by
          simpa using blank
        simp [blank, other]

/-- An integer past all floating-point numbers. -/
def Number.IsHuge (value : Int) : Prop :=
  (int value).toDouble? = none

theorem Number.text_eq_error {number : Number} {fault : DataFault} :
    Number.text number = .error fault ↔
      fault = .outOfRange ∧ ∃ value, number = .int value ∧ IsHuge value := by
  cases number with
  | float value => simp [Number.text]
  | int value =>
      simp only [Number.text, IsHuge, Number.int.injEq, exists_eq_left']
      cases nearest : (int value).toDouble? <;> simp [eq_comm]

/-! ### Dates -/

namespace Moment

/-- The numbers of `Date(…)` that are counted with: the year, the month counted from one,
the day, and hour, minute and second if they are there. -/
def dialectFields (arguments : List (List Nat)) : List Nat :=
  match arguments.map ofDigits with
  | year :: month :: day :: clock => [year, month + 1, day] ++ clock.take 3
  | _ => []

/-- A text in the form of `Date(…)` with a number that has too many digits to be read, or
with one that is past what the calendar counts with. -/
inductive IsUncounted (content : String) : DataFault → Prop where
  | digits {arguments : List (List Nat)} :
      dialectArguments? (Text.trimList content.toList) = some arguments →
      (∃ digits ∈ arguments.take 6, Numeral.digitLimit < digits.length) →
      IsUncounted content .notNumeral
  | field {arguments : List (List Nat)} :
      dialectArguments? (Text.trimList content.toList) = some arguments →
      (∀ digits ∈ arguments.take 6, digits.length ≤ Numeral.digitLimit) →
      (∃ field ∈ dialectFields arguments, fieldLimit < field) →
      IsUncounted content .outOfRange

theorem ofDialect_eq_error {arguments : List (List Nat)} {fault : DataFault} :
    ofDialect arguments = .error fault ↔
      (fault = .notNumeral ∧ ∃ digits ∈ arguments.take 6, Numeral.digitLimit < digits.length) ∨
      (fault = .outOfRange ∧ (∀ digits ∈ arguments.take 6, digits.length ≤ Numeral.digitLimit) ∧
        ∃ field ∈ dialectFields arguments, fieldLimit < field) := by
  unfold ofDialect
  by_cases long : ∃ digits ∈ arguments.take 6, Numeral.digitLimit < digits.length
  · have short : ¬ ∀ digits ∈ arguments.take 6, digits.length ≤ Numeral.digitLimit := by
      simpa using long
    rw [if_pos (by simpa using long)]
    simp [long, short, eq_comm]
  · have short : ∀ digits ∈ arguments.take 6, digits.length ≤ Numeral.digitLimit := by
      simpa using long
    rw [if_neg (by simpa using long)]
    simp only [long, and_false, false_or, eq_true short, true_and, dialectFields]
    rcases arguments.map ofDigits with _ | ⟨year, _ | ⟨month, _ | ⟨day, clock⟩⟩⟩
    · simp
    · simp
    · simp
    · simp only [List.any_eq_true, decide_eq_true_eq]
      generalize [year, month + 1, day] ++ clock.take 3 = fields
      by_cases large : ∃ field ∈ fields, fieldLimit < field
      · simp [large, eq_comm]
      · simp [large]

theorem read_eq_error {content : String} {fault : DataFault} :
    Moment.read content = .error fault ↔ IsUncounted content fault := by
  unfold Moment.read
  dsimp only
  split
  · next arguments found =>
      rw [ofDialect_eq_error]
      constructor
      · rintro (⟨rfl, long⟩ | ⟨rfl, short, large⟩)
        · exact .digits found long
        · exact .field found short large
      · intro uncounted
        cases uncounted with
        | digits same long =>
            obtain rfl := Option.some.inj (found.symm.trans same)
            exact .inl ⟨rfl, long⟩
        | field same short large =>
            obtain rfl := Option.some.inj (found.symm.trans same)
            exact .inr ⟨rfl, short, large⟩
  · next none =>
      refine ⟨by simp, fun uncounted => ?_⟩
      cases uncounted with
      | digits same _ => simp [none] at same
      | field same _ _ => simp [none] at same

end Moment

/-! ### Cells -/

namespace Cell

/-- A text in the form of a number, with a separator among the blanks around it. -/
def IsSeparated (cell : Cell) : Prop :=
  ∃ content, cell = text content ∧ Number.IsSeparated content

def IsHuge (cell : Cell) : Prop :=
  ∃ value, cell = int value ∧ Number.IsHuge value

variable {cell left right : Cell} {fault : DataFault}

theorem asNumber?_eq_error :
    cell.asNumber? = .error fault ↔ fault = .notNumeral ∧ cell.IsSeparated := by
  cases cell <;> simp [asNumber?, IsSeparated, Number.read_eq_error]

theorem asDate?_eq_error :
    cell.asDate? = .error fault ↔
      ∃ content, cell = text content ∧ Moment.IsUncounted content fault := by
  cases cell <;> simp [asDate?, Moment.read_eq_error]

theorem asText?_eq_error : cell.asText? = .error fault ↔ fault = .outOfRange ∧ cell.IsHuge := by
  cases cell with
  | number value =>
      have failed : (Number.text value).map some = .error fault ↔
          Number.text value = .error fault := by
        cases Number.text value <;> simp [Except.map]
      simp [asText?, failed, Number.text_eq_error, IsHuge, int]
  | _ => simp [asText?, IsHuge, int]

/-- Two cells that have no order because one is a date or a number, and the other a text
that has the look of one. -/
@[mk_iff]
inductive IsUnordered : Cell → Cell → DataFault → Prop where
  | dateText {moment : Moment} {content : String} {fault : DataFault} :
      Moment.IsUncounted content fault → IsUnordered (date moment) (text content) fault
  | textDate {moment : Moment} {content : String} {fault : DataFault} :
      Moment.IsUncounted content fault → IsUnordered (text content) (date moment) fault
  | numberText {value : Number} {content : String} :
      Number.IsSeparated content → IsUnordered (number value) (text content) .notNumeral
  | textNumber {value : Number} {content : String} :
      Number.IsSeparated content → IsUnordered (text content) (number value) .notNumeral

/-- What is done with a reading does not fail. -/
theorem read_bind_eq_error {View Result : Type} {reading : Except DataFault View}
    {use : View → Result} :
    (reading >>= fun view => .ok (use view)) = .error fault ↔ reading = .error fault := by
  cases reading <;> simp [bind, Except.bind]

theorem order_eq_error : left.order right = .error fault ↔ IsUnordered left right fault := by
  rw [isUnordered_iff]
  -- Only a text beside a date or a number is read at all.
  cases left <;> cases right
  case text.number content value =>
    have ordered : order (text content) (number value) = Number.read content >>= fun read =>
        .ok (orderViews Number.order read (some value)) := rfl
    rw [ordered, read_bind_eq_error, Number.read_eq_error]
    grind
  case number.text value content =>
    have ordered : order (number value) (text content) = Number.read content >>= fun read =>
        .ok (orderViews Number.order (some value) read) := rfl
    rw [ordered, read_bind_eq_error, Number.read_eq_error]
    grind
  case text.date content moment =>
    have ordered : order (text content) (date moment) = Moment.read content >>= fun read =>
        .ok (orderViews Moment.order read (some moment)) := rfl
    rw [ordered, read_bind_eq_error, Moment.read_eq_error]
    grind
  case date.text moment content =>
    have ordered : order (date moment) (text content) = Moment.read content >>= fun read =>
        .ok (orderViews Moment.order (some moment) read) := rfl
    rw [ordered, read_bind_eq_error, Moment.read_eq_error]
    grind
  all_goals simp [order, type, asDate?, asNumber?, bind, Except.bind]

end Cell

theorem Comparison.holds_eq_error {comparison : Comparison} {left right : Cell}
    {fault : DataFault} :
    comparison.holds left right = .error fault ↔ Cell.IsUnordered left right fault := by
  unfold holds
  split
  · next null =>
      refine ⟨by simp, fun unordered => ?_⟩
      cases unordered <;> simp [Cell.isNull] at null
  · rw [← Cell.order_eq_error]
    cases left.order right <;> simp [Except.map]

end GridQuery
