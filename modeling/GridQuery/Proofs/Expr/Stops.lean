import GridQuery.Proofs.Cell.Reading
import GridQuery.Proofs.Failures
import GridQuery.Proofs.Number.Double

/-!
# Where an evaluation stops

An expression without aggregates whose columns have cells has a value, unless the operator
of one of its parts stops on the values of its operands. An operand that does not convert
stops nothing: the part is null, or does not match.
-/

namespace GridQuery

/-! ### Arithmetic -/

/-- A result that no number is large enough for: of an integer past all floating-point
numbers and a floating-point number, or the quotient of two integers. -/
def Arithmetic.IsTooLarge (operator : Arithmetic) : Number → Number → Prop
  | .int left, .int right =>
      operator = .div ∧ right ≠ 0 ∧ Number.div? (.int left) (.int right) = none
  | .int left, .float right =>
      Number.IsHuge left ∧ ¬ (operator = .div ∧ Number.isZero (.float right) = true)
  | .float _, .int right => Number.IsHuge right
  | .float _, .float _ => False

/-- The cells on which an operator stops, and with what. -/
inductive Arithmetic.StopsOn (operator : Arithmetic) (left right : Cell) : DataFault → Prop where
  | left : left.IsSeparated → StopsOn operator left right .notNumeral
  | right : right.IsSeparated → StopsOn operator left right .notNumeral
  | result {a b : Number} : left.asNumber? = .ok (some a) → right.asNumber? = .ok (some b) →
      operator.IsTooLarge a b → StopsOn operator left right .outOfRange

namespace Number

theorem isZero_int {value : Int} : isZero (int value) = true ↔ value = 0 := by
  have units : (Double.unitsPerOne : Int) ≠ 0 :=
    Int.natCast_ne_zero.mpr (Nat.ne_of_gt Double.unitsPerOne_pos)
  have scaled : value * (Double.unitsPerOne : Int) = 0 ↔ value = 0 := by
    rw [Int.mul_eq_zero, or_iff_left units]
  simp only [isZero, sameValue, place?, Int.zero_mul, beq_iff_eq, Place.units.injEq]
  exact scaled

theorem not_isHuge_zero : ¬ IsHuge 0 := by
  unfold IsHuge
  decide +kernel

@[simp]
theorem toDouble?_float (value : Double) : (float value).toDouble? = some value := rfl

theorem combine?_eq_none {onInts : Int → Int → Int} {onFloats : Double → Double → Double}
    {left right : Number} (operator : Arithmetic) (other : operator ≠ .div) :
    combine? onInts onFloats left right = none ↔ operator.IsTooLarge left right := by
  cases left with
  | int left =>
      cases right with
      | int right => simp [combine?, Arithmetic.IsTooLarge, other]
      | float right =>
          simp only [combine?, Arithmetic.IsTooLarge, IsHuge, other]
          cases (int left).toDouble? <;> simp
  | float left =>
      cases right with
      | int right =>
          simp only [combine?, Arithmetic.IsTooLarge, IsHuge]
          cases (int right).toDouble? <;> simp
      | float right => simp [combine?, Arithmetic.IsTooLarge]

theorem div?_eq_none {left right : Number} (other : right.isZero = false) :
    div? left right = none ↔ Arithmetic.div.IsTooLarge left right := by
  cases left with
  | int left =>
      cases right with
      | int right =>
          have nonzero : right ≠ 0 := fun zero => by simp [isZero_int.mpr zero] at other
          simp [Arithmetic.IsTooLarge, nonzero]
      | float right =>
          simp only [div?, Arithmetic.IsTooLarge, IsHuge, other]
          cases (int left).toDouble? <;> simp
  | float left =>
      cases right with
      | int right =>
          simp only [div?, Arithmetic.IsTooLarge, IsHuge]
          cases (int right).toDouble? <;> simp
      | float right => simp [div?, Arithmetic.IsTooLarge]

end Number

namespace Arithmetic

variable {operator : Arithmetic} {left right : Cell} {fault : DataFault}

/-- Nothing is divided by zero, whatever is too large. -/
theorem not_isTooLarge_of_isZero {a b : Number} (zero : b.isZero = true) :
    ¬ Arithmetic.div.IsTooLarge a b := by
  cases b with
  | int value =>
      obtain rfl := Number.isZero_int.mp zero
      cases a <;> simp [IsTooLarge, Number.not_isHuge_zero]
  | float value => cases a <;> simp [IsTooLarge, zero]

/-- A number that is found is kept, and one that is too large stops the operator. -/
theorem within_eq_error {result : Option Number} :
    (Number.within result >>= fun number => .ok (.number number) : Except DataFault Cell) =
      .error fault ↔ fault = .outOfRange ∧ result = none := by
  cases result <;> simp [Number.within, bind, Except.bind, eq_comm]

theorem apply_eq_within {a b : Number} (onLeft : left.asNumber? = .ok (some a))
    (onRight : right.asNumber? = .ok (some b)) :
    operator.apply left right =
      match operator with
      | .add => Number.within (a.add? b) >>= fun number => .ok (.number number)
      | .sub => Number.within (a.sub? b) >>= fun number => .ok (.number number)
      | .mul => Number.within (a.mul? b) >>= fun number => .ok (.number number)
      | .div =>
          if b.isZero then .ok .null
          else Number.within (a.div? b) >>= fun number => .ok (.number number) := by
  rw [apply, onLeft, onRight]
  cases operator <;> rfl

theorem apply_of_numbers {a b : Number} (onLeft : left.asNumber? = .ok (some a))
    (onRight : right.asNumber? = .ok (some b)) :
    operator.apply left right = .error fault ↔ fault = .outOfRange ∧ operator.IsTooLarge a b := by
  rw [apply_eq_within onLeft onRight]
  cases operator with
  | add => rw [within_eq_error, Number.add?, Number.combine?_eq_none .add (by simp)]
  | sub => rw [within_eq_error, Number.sub?, Number.combine?_eq_none .sub (by simp)]
  | mul => rw [within_eq_error, Number.mul?, Number.combine?_eq_none .mul (by simp)]
  | div =>
      by_cases zero : b.isZero = true
      · simp [zero, not_isTooLarge_of_isZero zero]
      · rw [Bool.not_eq_true] at zero
        simp only [zero, Bool.false_eq_true, if_false]
        rw [within_eq_error, Number.div?_eq_none zero]

/-- Where an operand that is looked at has no number, the operator does not stop unless the
other one is no number that can be read. -/
theorem apply_of_none {first second : Option Number} (onLeft : left.asNumber? = .ok first)
    (onRight : right.asNumber? = .ok second) (none : first = none ∨ second = none) :
    operator.apply left right = .ok .null := by
  rw [apply, onLeft, onRight]
  rcases none with rfl | rfl
  · rfl
  · cases first <;> rfl

/-- An operator stops on a text in the form of a number that is none, and on numbers whose
result is too large. -/
theorem apply_eq_error :
    operator.apply left right = .error fault ↔ operator.StopsOn left right fault := by
  have separated {cell : Cell} (look : cell.IsSeparated) : cell.asNumber? = .error .notNumeral :=
    Cell.asNumber?_eq_error.mpr ⟨rfl, look⟩
  constructor
  · intro failed
    cases onLeft : left.asNumber? with
    | error cause =>
        obtain ⟨rfl, look⟩ := Cell.asNumber?_eq_error.mp onLeft
        rw [apply, onLeft] at failed
        obtain rfl := Except.error.inj failed
        exact .left look
    | ok first =>
        cases onRight : right.asNumber? with
        | error cause =>
            obtain ⟨rfl, look⟩ := Cell.asNumber?_eq_error.mp onRight
            rw [apply, onLeft, onRight] at failed
            obtain rfl := Except.error.inj failed
            exact .right look
        | ok second =>
            match first, second with
            | some a, some b =>
                obtain ⟨rfl, large⟩ := (apply_of_numbers onLeft onRight).mp failed
                exact .result onLeft onRight large
            | none, _ => simp [apply_of_none onLeft onRight] at failed
            | _, none => simp [apply_of_none onLeft onRight] at failed
  · intro stops
    cases stops with
    | left look =>
        rw [apply, separated look]
        rfl
    | right look =>
        cases onLeft : left.asNumber? with
        | error cause =>
            obtain ⟨rfl, -⟩ := Cell.asNumber?_eq_error.mp onLeft
            rw [apply, onLeft]
            rfl
        | ok first =>
            rw [apply, onLeft, separated look]
            rfl
    | result onLeft onRight large => exact (apply_of_numbers onLeft onRight).mpr ⟨rfl, large⟩

end Arithmetic

theorem Cell.negated_eq_error {cell : Cell} {fault : DataFault} :
    cell.negated = .error fault ↔ fault = .notNumeral ∧ cell.IsSeparated := by
  rw [← Cell.asNumber?_eq_error, negated]
  cases cell.asNumber? with
  | error cause => simp [bind, Except.bind]
  | ok number => cases number <;> simp [bind, Except.bind, pure, Except.pure]

/-! ### Relations -/

/-- The cells on which a relation stops, and with what. -/
def Relation.StopsOn : Relation → Cell → Cell → DataFault → Prop
  | .compare _, left, right, fault => Cell.IsUnordered left right fault
  | _, left, right, fault => fault = .outOfRange ∧ (left.IsHuge ∨ right.IsHuge)

theorem lift_data_eq_error_iff {Item : Type} {step : Except DataFault Item} {error : Error} :
    (liftM step : Except Error Item) = .error error ↔
      ∃ fault, error = .data fault ∧ step = .error fault := by
  cases step <;> simp [liftM, monadLift, MonadLift.monadLift, eq_comm]

namespace Evaluator

variable {evaluator : Evaluator} {context : Context} {left right : Cell} {error : Error}

/-- A relation of texts stops on an operand that has no text because it is too large. -/
theorem relatesTexts_of_readings {relation : Relation}
    (related : ∀ text other, ∃ answer, evaluator.relatesTexts relation text other = .ok answer) :
    (do
      let leftText ← left.asText?
      let rightText ← right.asText?
      match leftText, rightText with
      | some text, some other => evaluator.relatesTexts relation text other
      | _, _ => return false : Except Error Bool) = .error error ↔
      ∃ fault, error = .data fault ∧ fault = .outOfRange ∧ (left.IsHuge ∨ right.IsHuge) := by
  have textless {cell : Cell} (huge : cell.IsHuge) : cell.asText? = .error .outOfRange :=
    Cell.asText?_eq_error.mpr ⟨rfl, huge⟩
  cases onLeft : left.asText? with
  | error cause =>
      obtain ⟨rfl, huge⟩ := Cell.asText?_eq_error.mp onLeft
      simp [huge, liftM, monadLift, MonadLift.monadLift, bind, Except.bind, eq_comm]
  | ok first =>
      have fits : ¬ left.IsHuge := fun huge => by simp [textless huge] at onLeft
      cases onRight : right.asText? with
      | error cause =>
          obtain ⟨rfl, huge⟩ := Cell.asText?_eq_error.mp onRight
          simp [huge, liftM, monadLift, MonadLift.monadLift, bind, Except.bind, eq_comm]
      | ok second =>
          have fitsRight : ¬ right.IsHuge := fun huge => by simp [textless huge] at onRight
          simp only [fits, fitsRight, or_self, and_false, exists_false, iff_false]
          match first, second with
          | some text, some other =>
              obtain ⟨answer, done⟩ := related text other
              simp [liftM, monadLift, MonadLift.monadLift, bind, Except.bind, done]
          | none, _ =>
              simp [liftM, monadLift, MonadLift.monadLift, bind, Except.bind, pure, Except.pure]
          | some text, none =>
              simp [liftM, monadLift, MonadLift.monadLift, bind, Except.bind, pure, Except.pure]

theorem relates_eq_error {relation : Relation} (known : relation ≠ .matchesPattern) :
    evaluator.relates relation left right = .error error ↔
      ∃ fault, error = .data fault ∧ relation.StopsOn left right fault := by
  cases relation with
  | compare comparison =>
      rw [relates, lift_data_eq_error_iff]
      simp only [Comparison.holds_eq_error, Relation.StopsOn]
  | matchesPattern => exact absurd rfl known
  | _ => exact relatesTexts_of_readings fun text other => ⟨_, rfl⟩

end Evaluator

/-! ### Expressions -/

/-- An expression and all that it is put together from. -/
def Expr.parts : Expr → List Expr
  | literal cell => [literal cell]
  | column reference => [column reference]
  | countRows => [countRows]
  | aggregate function argument => aggregate function argument :: argument.parts
  | changeCase letterCase argument => changeCase letterCase argument :: argument.parts
  | today => [today]
  | arithmetic operator left right =>
      arithmetic operator left right :: (left.parts ++ right.parts)
  | negate operand => negate operand :: operand.parts
  | condition relation left right => condition relation left right :: (left.parts ++ right.parts)
  | nullCheck operand negated => nullCheck operand negated :: operand.parts
  | compound connective left right =>
      compound connective left right :: (left.parts ++ right.parts)
  | not operand => not operand :: operand.parts

/-- Neither an aggregate nor a search for a pattern is part of the expression. -/
structure Expr.IsPlain (expr : Expr) : Prop where
  single : expr.hasAggregate = false
  patternless : ∀ left right, condition .matchesPattern left right ∉ expr.parts

theorem Expr.IsPlain.of_subset {part expr : Expr} (plain : expr.IsPlain)
    (single : part.hasAggregate = false) (within : part.parts ⊆ expr.parts) : part.IsPlain :=
  ⟨single, fun left right among => plain.patternless left right (within among)⟩

namespace Evaluator

variable (evaluator : Evaluator) (context : Context)

/-- The operator of a part stops on the values of its operands. -/
inductive StopsAt : Expr → DataFault → Prop where
  | changeCase {letterCase : LetterCase} {argument : Expr} {cell : Cell} :
      evaluator.value context argument = .ok cell → cell.IsHuge →
      StopsAt (.changeCase letterCase argument) .outOfRange
  | arithmetic {operator : Arithmetic} {left right : Expr} {leftCell rightCell : Cell}
      {fault : DataFault} :
      evaluator.value context left = .ok leftCell →
      evaluator.value context right = .ok rightCell →
      operator.StopsOn leftCell rightCell fault → StopsAt (.arithmetic operator left right) fault
  | negate {operand : Expr} {cell : Cell} :
      evaluator.value context operand = .ok cell → cell.IsSeparated →
      StopsAt (.negate operand) .notNumeral
  | condition {relation : Relation} {left right : Expr} {leftCell rightCell : Cell}
      {fault : DataFault} :
      evaluator.value context left = .ok leftCell →
      evaluator.value context right = .ok rightCell →
      relation.StopsOn leftCell rightCell fault → StopsAt (.condition relation left right) fault

/-- An operand of a part does not convert to what its operator asks for. -/
inductive MismatchedAt : Expr → Prop where
  | changeCase {letterCase : LetterCase} {argument : Expr} :
      evaluator.value context argument = .ok .null → MismatchedAt (.changeCase letterCase argument)
  | arithmetic {operator : Arithmetic} {left right : Expr} {leftCell rightCell : Cell}
      {first second : Option Number} :
      evaluator.value context left = .ok leftCell →
      evaluator.value context right = .ok rightCell →
      leftCell.asNumber? = .ok first → rightCell.asNumber? = .ok second →
      first = none ∨ second = none → MismatchedAt (.arithmetic operator left right)
  | negate {operand : Expr} {cell : Cell} :
      evaluator.value context operand = .ok cell → cell.asNumber? = .ok none →
      MismatchedAt (.negate operand)
  | comparison {comparison : Comparison} {left right : Expr} {leftCell rightCell : Cell} :
      evaluator.value context left = .ok leftCell →
      evaluator.value context right = .ok rightCell →
      leftCell ≠ .null → rightCell ≠ .null → leftCell.order rightCell = .ok none →
      MismatchedAt (.condition (.compare comparison) left right)
  | search {relation : Relation} {left right : Expr} {leftCell rightCell : Cell}
      {first second : Option String} :
      (∀ comparison, relation ≠ .compare comparison) →
      evaluator.value context left = .ok leftCell →
      evaluator.value context right = .ok rightCell →
      leftCell.asText? = .ok first → rightCell.asText? = .ok second →
      first = none ∨ second = none → MismatchedAt (.condition relation left right)

/-- The value of a part with an operand that does not convert. -/
def unmatched : Expr → Cell
  | .condition _ _ _ => .boolean false
  | _ => .null

variable {evaluator context}

/-- An operand that does not convert makes a part null, or makes it not match. -/
theorem value_of_mismatchedAt {part : Expr} (mismatched : evaluator.MismatchedAt context part) :
    evaluator.value context part = .ok (unmatched part) := by
  cases mismatched with
  | changeCase valued =>
      simp only [value, valued]
      rfl
  | arithmetic onLeft onRight first second none =>
      simp only [value, onLeft, onRight, bind, Except.bind]
      rw [Arithmetic.apply_of_none first second none]
      rfl
  | negate valued number =>
      simp only [value, valued, bind, Except.bind, Cell.negated, number]
      rfl
  | @comparison comparison left right leftCell rightCell onLeft onRight given other unordered =>
      have leftGiven : leftCell.isNull = false := by cases leftCell <;> simp_all [Cell.isNull]
      have rightGiven : rightCell.isNull = false := by cases rightCell <;> simp_all [Cell.isNull]
      have compared : comparison.holds leftCell rightCell = .ok false := by
        simp [Comparison.holds, leftGiven, rightGiven, unordered, Except.map]
      simp only [value, onLeft, onRight, bind, Except.bind, relates, compared]
      rfl
  | @search relation left right leftCell rightCell _ _ text onLeft onRight first second none =>
      have found : evaluator.relates relation leftCell rightCell = .ok false := by
        rw [relates, first, second]
        · rcases none with rfl | rfl
          · rfl
          · cases ‹Option String› <;> rfl
        · exact text
      simp only [value, onLeft, onRight, bind, Except.bind, found]
      rfl

/-- A failure is a fault of data, and the operator of one of the parts stops with it. -/
def StopsWithin (evaluator : Evaluator) (context : Context) (parts : List Expr)
    (error : Error) : Prop :=
  ∃ fault, error = .data fault ∧ ∃ part ∈ parts, evaluator.StopsAt context part fault

theorem StopsWithin.mono {parts more : List Expr} (within : parts ⊆ more) (error : Error)
    (stops : evaluator.StopsWithin context parts error) :
    evaluator.StopsWithin context more error := by
  obtain ⟨fault, same, part, among, stopsAt⟩ := stops
  exact ⟨fault, same, part, within among, stopsAt⟩

/-- What an operator stops with, its own part stops with. -/
theorem stopsWithin_self {expr : Expr} {parts : List Expr} {fault : DataFault}
    (stops : evaluator.StopsAt context expr fault) :
    evaluator.StopsWithin context (expr :: parts) (.data fault) :=
  ⟨fault, rfl, expr, List.mem_cons_self, stops⟩

theorem fails_lift {Item : Type} {allowed : Error → Prop} {step : Except DataFault Item}
    (each : ∀ fault, step = .error fault → allowed (.data fault)) :
    FailsOnly allowed (liftM step : Except Error Item) := by
  intro error failed
  obtain ⟨fault, rfl, stopped⟩ := lift_data_eq_error_iff.mp failed
  exact each fault stopped

/-- What an operand stops with, the expressions that it is a part of stop with. -/
theorem fails_operand {operand expr : Expr} (plain : expr.IsPlain)
    (single : operand.hasAggregate = false) (within : operand.parts ⊆ expr.parts)
    (fails : operand.IsPlain →
      FailsOnly (evaluator.StopsWithin context operand.parts) (evaluator.value context operand)) :
    FailsOnly (evaluator.StopsWithin context expr.parts) (evaluator.value context operand) :=
  (fails (plain.of_subset single within)).mono (StopsWithin.mono within)

/-- Both operands of an expression stop with what it stops with. -/
theorem fails_operands {left right expr : Expr} (plain : expr.IsPlain)
    (single : expr.hasAggregate = (left.hasAggregate || right.hasAggregate))
    (parts : expr.parts = expr :: (left.parts ++ right.parts))
    (onLeft : left.IsPlain →
      FailsOnly (evaluator.StopsWithin context left.parts) (evaluator.value context left))
    (onRight : right.IsPlain →
      FailsOnly (evaluator.StopsWithin context right.parts) (evaluator.value context right)) :
    FailsOnly (evaluator.StopsWithin context expr.parts) (evaluator.value context left) ∧
      FailsOnly (evaluator.StopsWithin context expr.parts) (evaluator.value context right) := by
  obtain ⟨leftSingle, rightSingle⟩ := Bool.or_eq_false_iff.mp (single.symm.trans plain.single)
  have within : left.parts ++ right.parts ⊆ expr.parts := parts ▸ List.subset_cons_self _ _
  exact ⟨fails_operand plain leftSingle (List.Subset.trans (List.subset_append_left _ _) within)
      onLeft,
    fails_operand plain rightSingle (List.Subset.trans (List.subset_append_right _ _) within)
      onRight⟩

/-- Without an aggregate and without a pattern, all that stops the evaluation of an expression
is an operator on the values of its operands. -/
theorem fails_value {expr : Expr} (plain : expr.IsPlain)
    (given : ∀ reference ∈ expr.columns, ∃ cell, context.column reference = .ok cell) :
    FailsOnly (evaluator.StopsWithin context expr.parts) (evaluator.value context expr) := by
  induction expr with
  | literal cell => exact .ok cell
  | column reference =>
      obtain ⟨cell, valued⟩ := given reference List.mem_cons_self
      exact .of_eq_ok valued
  | countRows => exact absurd plain.single (by simp [Expr.hasAggregate])
  | aggregate function argument => exact absurd plain.single (by simp [Expr.hasAggregate])
  | today => exact .ok _
  | changeCase letterCase argument inductionHypothesis =>
      have single : argument.hasAggregate = false := plain.single
      have inner := fails_operand plain single (List.subset_cons_self _ _)
        fun plain => inductionHypothesis plain given
      rw [value]
      refine .bind inner fun cell valued =>
        .bind (fails_lift fun fault failed => ?_) fun text _ => ?_
      · obtain ⟨rfl, huge⟩ := Cell.asText?_eq_error.mp failed
        exact stopsWithin_self (.changeCase valued huge)
      · cases text <;> exact .pure _
  | negate operand inductionHypothesis =>
      have single : operand.hasAggregate = false := plain.single
      have inner := fails_operand plain single (List.subset_cons_self _ _)
        fun plain => inductionHypothesis plain given
      rw [value]
      refine .bind inner fun cell valued => fails_lift fun fault failed => ?_
      obtain ⟨rfl, look⟩ := Cell.negated_eq_error.mp failed
      exact stopsWithin_self (.negate valued look)
  | nullCheck operand negated inductionHypothesis =>
      have single : operand.hasAggregate = false := plain.single
      have inner := fails_operand plain single (List.subset_cons_self _ _)
        fun plain => inductionHypothesis plain given
      exact .bind inner fun cell _ => .pure _
  | not operand inductionHypothesis =>
      have single : operand.hasAggregate = false := plain.single
      have inner := fails_operand plain single (List.subset_cons_self _ _)
        fun plain => inductionHypothesis plain given
      exact .bind inner fun cell _ => .pure _
  | arithmetic operator left right leftHypothesis rightHypothesis =>
      obtain ⟨leftGiven, rightGiven⟩ := List.forall_mem_append.mp given
      obtain ⟨onLeft, onRight⟩ := fails_operands plain rfl rfl
        (leftHypothesis · leftGiven) (rightHypothesis · rightGiven)
      rw [value]
      refine .bind onLeft fun a valued => .bind onRight fun b other =>
        fails_lift fun fault failed => ?_
      exact stopsWithin_self (.arithmetic valued other (Arithmetic.apply_eq_error.mp failed))
  | condition relation left right leftHypothesis rightHypothesis =>
      obtain ⟨leftGiven, rightGiven⟩ := List.forall_mem_append.mp given
      obtain ⟨onLeft, onRight⟩ := fails_operands plain rfl rfl
        (leftHypothesis · leftGiven) (rightHypothesis · rightGiven)
      have known : relation ≠ .matchesPattern := by
        rintro rfl
        exact plain.patternless left right List.mem_cons_self
      rw [value]
      refine .bind onLeft fun a valued => .bind onRight fun b other => .bind ?_ fun _ _ => .pure _
      intro error failed
      obtain ⟨fault, rfl, stops⟩ := (relates_eq_error known).mp failed
      exact stopsWithin_self (.condition valued other stops)
  | compound connective left right leftHypothesis rightHypothesis =>
      obtain ⟨leftGiven, rightGiven⟩ := List.forall_mem_append.mp given
      obtain ⟨onLeft, onRight⟩ := fails_operands plain rfl rfl
        (leftHypothesis · leftGiven) (rightHypothesis · rightGiven)
      rw [value]
      refine .bind onLeft fun a _ => ?_
      have both : FailsOnly
          (evaluator.StopsWithin context (Expr.compound connective left right).parts)
          (evaluator.value context right >>= fun b => pure (Cell.boolean b.isTruthy)) :=
        .bind onRight fun b _ => .pure _
      -- The left side alone decides, or the right one does.
      cases connective with
      | and =>
          by_cases truthy : a.isTruthy = true
          · simpa [truthy] using both
          · simpa [truthy] using FailsOnly.pure _
      | or =>
          by_cases truthy : a.isTruthy = true
          · simpa [truthy] using FailsOnly.pure _
          · simpa [truthy] using both

/-- Each column of an expression that has been checked has a cell in every row. -/
theorem given_of_check {table : Table} {expr : Expr} (resolved : table.check expr = .ok ())
    (cells : List Cell) :
    ∀ reference ∈ expr.columns,
      ∃ cell, (Context.ofRow table cells).column reference = .ok cell := by
  intro reference among
  have checked := forM_eq_ok_iff.mp resolved reference among
  simp only [bind_eq_ok_iff] at checked
  obtain ⟨place, meant, -⟩ := checked
  exact ⟨cells.getD place .null, by simp only [Context.ofRow, meant]; rfl⟩

/-- Over a row, an expression without an aggregate and without a pattern has a value, and as a
condition it holds or not, unless the operator of one of its parts stops on the values of its
operands. An operand that does not convert makes its part null, or makes it not match. -/
theorem value_ofRow {table : Table} {expr : Expr} (resolved : table.check expr = .ok ())
    (plain : expr.IsPlain) (evaluator : Evaluator) (cells : List Cell) :
    ((∃ cell, evaluator.value (.ofRow table cells) expr = .ok cell ∧
          evaluator.holds (.ofRow table cells) expr = .ok cell.isTruthy) ∨
        ∃ fault, evaluator.value (.ofRow table cells) expr = .error (.data fault) ∧
          evaluator.holds (.ofRow table cells) expr = .error (.data fault) ∧
          ∃ part ∈ expr.parts, evaluator.StopsAt (.ofRow table cells) part fault) ∧
      ∀ part ∈ expr.parts, evaluator.MismatchedAt (.ofRow table cells) part →
        evaluator.value (.ofRow table cells) part = .ok (unmatched part) := by
  refine ⟨?_, fun part _ => value_of_mismatchedAt⟩
  have fails : FailsOnly (evaluator.StopsWithin (.ofRow table cells) expr.parts)
      (evaluator.value (.ofRow table cells) expr) :=
    fails_value plain (given_of_check resolved cells)
  cases valued : evaluator.value (.ofRow table cells) expr with
  | ok cell => exact .inl ⟨cell, rfl, by rw [holds, valued]; rfl⟩
  | error error =>
      obtain ⟨fault, rfl, stops⟩ := fails error valued
      exact .inr ⟨fault, rfl, by rw [holds, valued]; rfl, stops⟩

/-- A reminder for the far future. -/
def reminders : Table :=
  Table.ofHeader "reminders" none [.text "due"] [[.text "Date(99999999999,0,1)"]]

/-- What is due after the first day of a year. -/
def later : Expr :=
  .condition (.compare .gt) (.column ⟨none, "due"⟩)
    (.literal (.date (.midnight ⟨2024, 1, 1, by decide⟩)))

theorem later_isPlain : later.IsPlain :=
  ⟨rfl, by simp [later, Expr.parts]⟩

theorem reminders_check : reminders.check later = .ok () := by
  decide +kernel

def farDue : List Cell := [.text "Date(99999999999,0,1)"]

def atNoon : Evaluator := ⟨false, ⟨⟨2024, 5, 1, by decide⟩, 12, 0, 0, 0, by decide⟩⟩

theorem value_later :
    ((∃ cell, atNoon.value (.ofRow reminders farDue) later = .ok cell ∧
          atNoon.holds (.ofRow reminders farDue) later = .ok cell.isTruthy) ∨
        ∃ fault, atNoon.value (.ofRow reminders farDue) later = .error (.data fault) ∧
          atNoon.holds (.ofRow reminders farDue) later = .error (.data fault) ∧
          ∃ part ∈ later.parts, atNoon.StopsAt (.ofRow reminders farDue) part fault) ∧
      ∀ part ∈ later.parts, atNoon.MismatchedAt (.ofRow reminders farDue) part →
        atNoon.value (.ofRow reminders farDue) part = .ok (unmatched part) :=
  value_ofRow reminders_check later_isPlain atNoon farDue

/-- The reminder for the far future neither is due later nor is not. -/
theorem later_not_holds :
    reminders.check later = .ok () ∧ later.IsPlain ∧
      ¬ ∃ flag, atNoon.holds (.ofRow reminders farDue) later = .ok flag := by
  have stopped : atNoon.holds (.ofRow reminders farDue) later = .error (.data .outOfRange) := by
    decide +kernel
  exact ⟨reminders_check, later_isPlain, by simp [stopped]⟩

end Evaluator

end GridQuery
