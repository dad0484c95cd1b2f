import GridQuery.Proofs.Cell.MatchKey
import GridQuery.Proofs.Moment
import GridQuery.Proofs.Table.Join

/-!
# Cells that a condition finds equal

A condition compares two cells in the type of one of them, and a join looks each up by a key
of its own. Whatever a condition finds equal has keys that meet, but for a truth value and a
text that names it.
-/

namespace GridQuery

/-! ### Numbers -/

theorem Double.ofCode_ne_nan (negative : Bool) (code : Nat) : ofCode negative code ≠ .nan := by
  unfold ofCode
  split <;> simp

theorem Double.ofDecimal_ne_nan (negative : Bool) (coefficient : Nat) (exponent : Int) :
    ofDecimal negative coefficient exponent ≠ .nan := by
  unfold ofDecimal
  dsimp only
  split
  · exact ofCode_ne_nan _ _
  · split
    · simp
    · split <;> exact ofCode_ne_nan _ _

namespace Number

theorem exists_place {number : Number} (given : number ≠ .float .nan) :
    ∃ place, number.place? = some place := by
  rcases number with value | _ | ⟨_ | _⟩ | ⟨_ | _, code⟩
  · exact ⟨_, rfl⟩
  · exact absurd rfl given
  all_goals exact ⟨_, rfl⟩

theorem Place.eq_of_compare {left right : Place} (equal : left.compare right = .eq) :
    left = right := by
  cases left <;> cases right <;> simp_all [Place.compare]

/-- Numbers that are on a par have one value, if both are numbers. -/
theorem sameValue_of_order {left right : Number} (leftGiven : left ≠ .float .nan)
    (rightGiven : right ≠ .float .nan) (equal : left.order right = .eq) :
    left.sameValue right = true := by
  obtain ⟨leftPlace, here⟩ := exists_place leftGiven
  obtain ⟨rightPlace, there⟩ := exists_place rightGiven
  rw [Number.order, here, there] at equal
  have same := Place.eq_of_compare equal
  exact (sameValue_iff left right).mpr ⟨leftPlace, here, same ▸ there⟩

theorem sameValue_self {number : Number} (given : number ≠ .float .nan) :
    number.sameValue number = true := by
  obtain ⟨place, here⟩ := exists_place given
  exact (sameValue_iff number number).mpr ⟨place, here, here⟩

/-- What a text is read as is a number. -/
theorem ne_nan_of_read {content : String} {number : Number}
    (found : Number.read content = .ok (some number)) : number ≠ .float .nan := by
  unfold Number.read at found
  dsimp only at found
  split at found
  · simp at found
  · split at found
    · simp at found
    · split at found
      · simp only [Except.ok.injEq, Option.some.injEq] at found
        rw [← found]
        intro same
        exact Double.ofDecimal_ne_nan _ _ _ (Number.float.inj same)
      · simp at found

end Number

/-! ### Dates -/

namespace Moment

theorem rank_injective {left right : Moment} (same : left.rank = right.rank) : left = right := by
  have leftMonth := daysInMonth_le left.date.year left.date.month
  have rightMonth := daysInMonth_le right.date.year right.date.month
  obtain ⟨⟨year, month, day, leftDate⟩, hour, minute, second, micro, leftClock⟩ := left
  obtain ⟨⟨year', month', day', rightDate⟩, hour', minute', second', micro', rightClock⟩ := right
  simp only [rank] at same leftMonth rightMonth
  obtain ⟨rfl, rfl⟩ : micro = micro' ∧ second = second' := by omega
  obtain ⟨rfl, rfl⟩ : minute = minute' ∧ hour = hour' := by omega
  obtain ⟨rfl, rfl, rfl⟩ : day = day' ∧ month = month' ∧ year = year' := by omega
  rfl

theorem eq_of_order {left right : Moment} (equal : left.order right = .eq) : left = right :=
  rank_injective (Nat.compare_eq_eq.mp equal)

end Moment

/-! A text that looks like a date does not begin like a number that goes on to its end. -/

theorem not_isBlank_of_mark {mark : Char} (among : mark ∈ ['-', '/']) :
    Text.isBlank mark = false := by
  simp only [List.mem_cons, List.not_mem_nil, or_false] at among
  rcases among with rfl | rfl <;> decide

theorem read_eq_none_of_scan_eq_none {content : String} {rest : List Char} {first : Char}
    (begins : content.toList.dropWhile Text.isBlank = first :: rest)
    (digit : Text.digitValue? first = none) (plain : first ∉ ['-', '+', '.']) :
    Number.read content = .ok none := by
  simp only [List.mem_cons, List.not_mem_nil, or_false, not_or] at plain
  obtain ⟨minus, plus, point⟩ := plain
  have unsigned : Numeral.scanSign (first :: rest) = (false, first :: rest) := by
    unfold Numeral.scanSign
    split <;> simp_all
  simp [Number.read, begins, unsigned, scan_eq_none digit point]

/-- Digits with a mark of a date after them are no number. -/
theorem read_eq_none_of_mark {content : String} {characters rest : List Char}
    {values : List Nat} {mark : Char}
    (begins : content.toList.dropWhile Text.isBlank = characters)
    (scanned : Numeral.scanDigits characters = (values, mark :: rest)) (some : values ≠ [])
    (among : mark ∈ ['-', '/']) : Number.read content = .ok none := by
  have unsigned : Numeral.scanSign characters = (false, characters) := by
    unfold Numeral.scanSign
    split
    · exact absurd (congrArg Prod.fst scanned).symm some
    · exact absurd (congrArg Prod.fst scanned).symm some
    · rfl
  have blank := not_isBlank_of_mark among
  have numeral : Numeral.scan characters = .some (⟨values, none, none⟩, mark :: rest) := by
    simp only [List.mem_cons, List.not_mem_nil, or_false] at among
    unfold Numeral.scan
    rw [scanned]
    cases values with
    | nil => exact absurd rfl some
    | cons value values => rcases among with rfl | rfl <;> rfl
  simp [Number.read, begins, unsigned, numeral, blank]

theorem scanField_eq_some {least most value : Nat} {characters after : List Char}
    (found : Moment.scanField least most characters = some (value, after)) :
    ∃ values, Numeral.scanDigits characters = (values, after) ∧ least ≤ values.length := by
  unfold Moment.scanField at found
  simp only [Option.ite_none_right_eq_some, Bool.and_eq_true, decide_eq_true_eq,
    Option.some.injEq, Prod.mk.injEq] at found
  obtain ⟨⟨atLeast, -⟩, -, rfl⟩ := found
  exact ⟨_, rfl, atLeast⟩

theorem scanAfter_eq_some {marks characters after : List Char} {least most value : Nat}
    (found : Moment.scanAfter marks least most characters = some (value, after)) :
    ∃ mark rest, characters = mark :: rest ∧ mark ∈ marks := by
  cases characters with
  | nil => simp [Moment.scanAfter] at found
  | cons mark rest =>
      simp only [Moment.scanAfter, Option.ite_none_right_eq_some] at found
      exact ⟨mark, rest, rfl, by simpa using found.1⟩

/-- A text that is read as a date is not read as a number. -/
theorem number_read_of_date {content : String} {moment : Moment}
    (found : Moment.read content = .ok (some moment)) : Number.read content = .ok none := by
  obtain ⟨back, trimmed⟩ := dropWhile_isBlank_eq content.toList
  simp only [Moment.read] at found
  split at found
  · next arguments dialect =>
      unfold Moment.dialectArguments? at dialect
      split at dialect
      · next isDialect =>
          obtain ⟨rest, whole⟩ := List.isPrefixOf_iff_prefix.mp isDialect
          rw [← whole] at trimmed
          exact read_eq_none_of_scan_eq_none trimmed (by decide) (by decide)
      · simp at dialect
  · simp only [Except.ok.injEq, Option.map_eq_some_iff] at found
    obtain ⟨day, iso, -⟩ := found
    unfold Moment.ofIso? at iso
    simp only [Option.bind_eq_bind, Option.bind_eq_some_iff] at iso
    obtain ⟨⟨year, afterYear⟩, inYear, ⟨month, afterMonth⟩, inMonth, -⟩ := iso
    obtain ⟨values, digits, four⟩ := scanField_eq_some inYear
    obtain ⟨mark, rest, rfl, among⟩ := scanAfter_eq_some inMonth
    have more := scanDigits_append_of_stopped digits back
    refine read_eq_none_of_mark trimmed more ?_ among
    rintro rfl
    simp at four

/-! ### Keys of cells that compare as equal -/

namespace Cell

theorem matchKey?_boolean (flag : Bool) :
    (boolean flag).matchKey? = .ok (some (.boolean flag)) := rfl

theorem matchKey?_number (value : Number) :
    (number value).matchKey? = .ok (some (.number value)) := rfl

theorem matchKey?_date (moment : Moment) :
    (date moment).matchKey? = .ok (some (.date moment)) := rfl

variable {content : String}

theorem matchKey?_of_number {value : Number} (given : (text content).isBlank = false)
    (found : Number.read content = .ok (some value)) :
    (text content).matchKey? = .ok (some (.number value)) := by
  simp [matchKey?, given, asNumber?, found]

theorem matchKey?_of_date {moment : Moment} (given : (text content).isBlank = false)
    (found : Moment.read content = .ok (some moment)) :
    (text content).matchKey? = .ok (some (.date moment)) := by
  simp [matchKey?, given, asNumber?, asDate?, number_read_of_date found, found]

/-- The key of a text meets itself, if the text has one. -/
theorem meets_self_of_text (given : (text content).isBlank = false) :
    (∃ key, (text content).matchKey? = .ok (some key) ∧ key.meets key = true) ∨
      ∃ fault, (text content).matchKey? = .error fault := by
  cases number : Number.read content with
  | error fault => exact .inr ⟨fault, by simp [matchKey?, given, asNumber?, number]; rfl⟩
  | ok value? =>
      cases value? with
      | some value =>
          exact .inl ⟨_, matchKey?_of_number given number,
            Number.sameValue_self (Number.ne_nan_of_read number)⟩
      | none =>
          cases date : Moment.read content with
          | error fault =>
              exact .inr ⟨fault, by simp [matchKey?, given, asNumber?, asDate?, number, date]; rfl⟩
          | ok moment? =>
              refine .inl ?_
              cases moment? with
              | some moment =>
                  exact ⟨_, matchKey?_of_date given date, by simp [MatchKey.meets]⟩
              | none =>
                  refine ⟨.text content, ?_, by simp [MatchKey.meets]⟩
                  simp [matchKey?, given, asNumber?, asDate?, number, date]

theorem orderViews_eq_some {View : Type} {compareViews : View → View → Ordering}
    {left right : Option View} {ordering : Ordering}
    (found : orderViews compareViews left right = some ordering) :
    ∃ leftView rightView, left = some leftView ∧ right = some rightView ∧
      compareViews leftView rightView = ordering := by
  cases left <;> cases right <;> simp_all [orderViews]

variable {left right : Cell}

theorem order_of_equal (leftGiven : left.isBlank = false) (rightGiven : right.isBlank = false)
    (equal : Comparison.eq.holds left right = .ok true) : left.order right = .ok (some .eq) := by
  have leftThere : left.isNull = false := by cases left <;> simp_all [isNull, isBlank]
  have rightThere : right.isNull = false := by cases right <;> simp_all [isNull, isBlank]
  simp only [Comparison.holds, leftThere, rightThere, Bool.or_self, Bool.false_eq_true,
    if_false, map_eq_ok_iff] at equal
  obtain ⟨ordering?, ordered, accepted⟩ := equal
  cases ordering? with
  | none => simp at accepted
  | some ordering => cases ordering <;> simp_all [Comparison.accepts]

/-- Both cells give keys, and these meet. -/
def KeysMeet (left right : Cell) : Prop :=
  ∃ leftKey rightKey, left.matchKey? = .ok (some leftKey) ∧
    right.matchKey? = .ok (some rightKey) ∧ leftKey.meets rightKey = true

theorem joins_of_keysMeet (met : KeysMeet left right) : left.joins right = true := by
  obtain ⟨leftKey, rightKey, here, there, same⟩ := met
  simp [joins, key?, here, there, same, Except.toOption]

theorem keysMeet_of_numbers {leftValue rightValue : Number}
    (here : left.matchKey? = .ok (some (.number leftValue)))
    (there : right.matchKey? = .ok (some (.number rightValue)))
    (leftGiven : leftValue ≠ .float .nan) (rightGiven : rightValue ≠ .float .nan)
    (onPar : leftValue.order rightValue = .eq) : KeysMeet left right :=
  ⟨_, _, here, there, Number.sameValue_of_order leftGiven rightGiven onPar⟩

theorem keysMeet_of_dates {leftMoment rightMoment : Moment}
    (here : left.matchKey? = .ok (some (.date leftMoment)))
    (there : right.matchKey? = .ok (some (.date rightMoment)))
    (onPar : leftMoment.order rightMoment = .eq) : KeysMeet left right := by
  have same := Moment.eq_of_order onPar
  exact ⟨_, _, here, there, by simp [MatchKey.meets, same]⟩

/-- Two cells that a condition finds equal, neither of them blank, and all numbers in them
numbers. -/
structure Equated (left right : Cell) : Prop where
  leftGiven : left.isBlank = false
  rightGiven : right.isBlank = false
  leftNumber : left ≠ .number (.float .nan)
  rightNumber : right ≠ .number (.float .nan)
  equal : Comparison.eq.holds left right = .ok true

/-- Cells that a condition finds equal have keys that meet, if both or none are truth values.
Two texts that are the same may give no key, and then for the same fault. -/
theorem keysMeet_of_equated (equated : Equated left right)
    (truths : left.type = .boolean ↔ right.type = .boolean) :
    KeysMeet left right ∨ left = right ∧ ∃ fault, left.matchKey? = .error fault := by
  obtain ⟨leftGiven, rightGiven, leftNumber, rightNumber, equal⟩ := equated
  have ordered := order_of_equal leftGiven rightGiven equal
  -- Any other two types are in no order, or are those of a truth value and a text.
  cases left <;> cases right <;>
    simp [order, type, asDate?, asNumber?, asBoolean?] at ordered truths
  case number.number leftValue rightValue =>
    left
    apply keysMeet_of_numbers (matchKey?_number _) (matchKey?_number _)
    · simpa using leftNumber
    · simpa using rightNumber
    · simpa [orderViews] using ordered
  case number.text value content =>
    obtain ⟨found, read, paired⟩ := ordered
    obtain ⟨_, other, ⟨rfl⟩, rfl, onPar⟩ := orderViews_eq_some paired
    left
    apply keysMeet_of_numbers (matchKey?_number _) (matchKey?_of_number rightGiven read)
    · simpa using leftNumber
    · exact Number.ne_nan_of_read read
    · exact onPar
  case text.number content value =>
    obtain ⟨found, read, paired⟩ := ordered
    obtain ⟨other, _, rfl, ⟨rfl⟩, onPar⟩ := orderViews_eq_some paired
    left
    apply keysMeet_of_numbers (matchKey?_of_number leftGiven read) (matchKey?_number _)
    · exact Number.ne_nan_of_read read
    · simpa using rightNumber
    · exact onPar
  case date.date leftMoment rightMoment =>
    left
    apply keysMeet_of_dates (matchKey?_date _) (matchKey?_date _)
    simpa [orderViews] using ordered
  case date.text moment content =>
    obtain ⟨found, read, paired⟩ := ordered
    obtain ⟨_, other, ⟨rfl⟩, rfl, onPar⟩ := orderViews_eq_some paired
    left
    exact keysMeet_of_dates (matchKey?_date _) (matchKey?_of_date rightGiven read) onPar
  case text.date content moment =>
    obtain ⟨found, read, paired⟩ := ordered
    obtain ⟨other, _, rfl, ⟨rfl⟩, onPar⟩ := orderViews_eq_some paired
    left
    exact keysMeet_of_dates (matchKey?_of_date leftGiven read) (matchKey?_date _) onPar
  case boolean.boolean leftFlag rightFlag =>
    have same : leftFlag = rightFlag := by simpa [orderViews] using ordered
    exact .inl ⟨_, _, matchKey?_boolean _, matchKey?_boolean _, by simp [MatchKey.meets, same]⟩
  case text.text leftContent rightContent =>
    subst ordered
    rcases meets_self_of_text leftGiven with ⟨key, found, same⟩ | faulty
    · exact .inl ⟨key, key, found, found, same⟩
    · exact .inr ⟨rfl, faulty⟩
  all_goals simp [orderViews] at ordered

/-- The key of a truth value is one that nothing else gives, a text that names it included. -/
theorem boolean_key_iff {cell : Cell} {key : MatchKey} (found : cell.matchKey? = .ok (some key)) :
    (∃ flag, key = .boolean flag) ↔ cell.type = .boolean := by
  cases cell with
  | boolean flag =>
      cases found
      simp [type]
  | null => cases found
  | number value =>
      cases found
      simp [type]
  | date moment =>
      cases found
      simp [type]
  | text content =>
      have other : ¬ ∃ flag, key = .boolean flag := by
        rintro ⟨flag, rfl⟩
        rw [matchKey?] at found
        split at found
        · simp at found
        · simp only [bind_eq_ok_iff] at found
          obtain ⟨value?, -, found⟩ := found
          cases value? with
          | some value => simp at found
          | none =>
              simp only [bind_eq_ok_iff] at found
              obtain ⟨moment?, -, found⟩ := found
              cases moment? <;> simp at found
      simp [other, type]

theorem types_of_keysMeet (met : KeysMeet left right) :
    left.type = .boolean ↔ right.type = .boolean := by
  obtain ⟨leftKey, rightKey, here, there, same⟩ := met
  rw [← boolean_key_iff here, ← boolean_key_iff there]
  cases leftKey <;> cases rightKey <;> simp_all [MatchKey.meets]

/-- When cells that a condition finds equal have keys that meet: both or none are truth
values, and the left one gives a key without a fault. -/
theorem keysMeet_iff (equated : Equated left right) :
    KeysMeet left right ↔
      (left.type = .boolean ↔ right.type = .boolean) ∧
        ∃ key, left.matchKey? = .ok (some key) := by
  constructor
  · intro met
    obtain ⟨key, -, found, -⟩ := id met
    exact ⟨types_of_keysMeet met, key, found⟩
  · rintro ⟨truths, key, found⟩
    rcases keysMeet_of_equated equated truths with met | ⟨-, fault, faulty⟩
    · exact met
    · cases found.symm.trans faulty

/-- A truth value and its name are equal by a condition, and a join does not find either by
the other. -/
theorem not_keysMeet_truth_name :
    (boolean true).isBlank = false ∧ (text "TRUE").isBlank = false ∧
      Comparison.eq.holds (.boolean true) (.text "TRUE") = .ok true ∧
      ¬ KeysMeet (.boolean true) (.text "TRUE") := by
  refine ⟨rfl, rfl, by rfl, ?_⟩
  have name : (text "TRUE").matchKey? = .ok (some (.text "TRUE")) := by rfl
  rintro ⟨leftKey, rightKey, here, there, same⟩
  cases here
  rw [name] at there
  cases there
  cases same

end Cell

namespace Table

/-- Cells that a condition finds equal have keys that meet if both or none are truth values,
but for texts that give no key. So a join of two tables has all rows with such cells side by
side. -/
theorem joined_of_equated {left right : Cell} (equated : left.Equated right) :
    (left.KeysMeet right ↔
      (left.type = .boolean ↔ right.type = .boolean) ∧
        ∃ key, left.matchKey? = .ok (some key)) ∧
    ((left.type = .boolean ↔ right.type = .boolean) →
      ∀ (leftTable rightTable result : Table) (clause : JoinClause) (leftPlace rightPlace : Nat),
        leftTable.joinPlaces rightTable clause = .ok (leftPlace, rightPlace) →
        leftTable.join rightTable clause = .ok result →
        ∀ leftCells ∈ leftTable.cellRows, ∀ rightCells ∈ rightTable.cellRows,
          leftCells.getD leftPlace .null = left → rightCells.getD rightPlace .null = right →
          leftCells ++ rightCells ∈ result.cellRows) := by
  refine ⟨Cell.keysMeet_iff equated, ?_⟩
  intro truths leftTable rightTable result clause leftPlace rightPlace resolved done leftCells
    inLeft rightCells inRight leftCell rightCell
  obtain ⟨places, leftRows, rightRows, resolved', onLeft, onRight, rfl⟩ :=
    (join_eq_ok_iff result).mp done
  cases resolved.symm.trans resolved'
  have leftKeyed := keyed_of_keyedRows onLeft
  cases onLeft.symm.trans (keyedRows_eq leftKeyed)
  cases onRight.symm.trans (keyedRows_eq (keyed_of_keyedRows onRight))
  rw [cellRows_sideBySide]
  refine mem_nestedRows_of_joins _ inLeft inRight ?_
  rw [joinsAt, leftCell, rightCell]
  rcases Cell.keysMeet_of_equated equated truths with met | ⟨-, fault, faulty⟩
  · exact Cell.joins_of_keysMeet met
  · obtain ⟨row, among, rfl⟩ := List.mem_map.mp inLeft
    obtain ⟨key, given⟩ := leftKeyed row among
    rw [leftCell, faulty] at given
    cases given

theorem orders_joined_of_equated :
    (Cell.int 10).KeysMeet (.text "10") ∧
      ∃ result, orders.join customers (orderedBy .inner) = .ok result ∧
        [.text "ink", .int 10, .text "10"] ∈ result.cellRows := by
  have equated : (Cell.int 10).Equated (.text "10") := by
    refine ⟨rfl, rfl, by simp [Cell.int], by simp, by decide +kernel⟩
  have truths : (Cell.int 10).type = .boolean ↔ (Cell.text "10").type = .boolean := by decide
  have resolved : orders.joinPlaces customers (orderedBy .inner) = .ok (1, 0) := by rfl
  have joins : ∃ result, orders.join customers (orderedBy .inner) = .ok result := ⟨_, by rfl⟩
  obtain ⟨result, done⟩ := joins
  obtain ⟨meets, joined⟩ := joined_of_equated equated
  refine ⟨meets.mpr ⟨truths, _, rfl⟩, result, done, ?_⟩
  exact joined truths _ _ _ _ _ _ resolved done [.text "ink", .int 10] (by decide +kernel)
    [.text "10"] (by decide +kernel) rfl rfl

end Table

end GridQuery
