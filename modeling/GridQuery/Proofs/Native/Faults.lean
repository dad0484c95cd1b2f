import GridQuery.Group
import GridQuery.Proofs.Expr.Value
import GridQuery.Proofs.Native.Translated
import GridQuery.Select.Column

/-!
# What the evaluation of a translated expression fails with

A value fails as its columns and its aggregates do, and a condition also at a pattern that
cannot be read. A row has nothing to aggregate, and a group nothing to aggregate inside an
aggregate.
-/

namespace GridQuery

/-! ### Aggregates and patterns -/

namespace Expr

/-- The calls of aggregates in an expression that are in no other such call. -/
def calls : Expr → List (Aggregate × Expr)
  | literal _ => []
  | column _ => []
  | countRows => []
  | aggregate function argument => [(function, argument)]
  | changeCase _ argument => argument.calls
  | today => []
  | arithmetic _ left right => left.calls ++ right.calls
  | negate operand => operand.calls
  | condition _ left right => left.calls ++ right.calls
  | nullCheck operand _ => operand.calls
  | compound _ left right => left.calls ++ right.calls
  | not operand => operand.calls

/-- What the patterns of an expression's conditions are given by. -/
def patterns : Expr → List Expr
  | literal _ => []
  | column _ => []
  | countRows => []
  | aggregate _ argument => argument.patterns
  | changeCase _ argument => argument.patterns
  | today => []
  | arithmetic _ left right => left.patterns ++ right.patterns
  | negate operand => operand.patterns
  | condition .matchesPattern left right => right :: (left.patterns ++ right.patterns)
  | condition _ left right => left.patterns ++ right.patterns
  | nullCheck operand _ => operand.patterns
  | compound _ left right => left.patterns ++ right.patterns
  | not operand => operand.patterns

end Expr

/-! ### Columns -/

namespace Table

variable {table : Table} {aliasName : Option String} {allowed : ValidationError → Prop}

/-- In a table whose columns come from one table, a name means a column or is unknown. -/
theorem fails_resolve (one : ∀ column ∈ table.columns, column.aliasName = aliasName)
    {reference : ColumnRef} (unqualified : reference.qualifier = none)
    (unknown : allowed (.unknownColumnOf reference.name table.describe)) :
    FailsOnly allowed (table.resolve reference) := by
  obtain ⟨_, name⟩ := reference
  obtain rfl := unqualified
  unfold resolve
  refine FailsOnly.bind (FailsOnly.ok table.places) fun columns given => ?_
  cases given
  split
  · exact .throw unknown
  · next first place rest hits =>
      have known (pair : Column × Nat) (among : pair ∈ (first, place) :: rest) :
          pair.1.aliasName = aliasName := by
        rw [← hits] at among
        have inTable := List.mem_zipIdx_iff_getElem?.mp (firstHits_subset _ _ among)
        exact one pair.1 (List.mem_of_getElem? inTable)
      have alike (pair : Column × Nat) (among : pair ∈ rest) :
          pair.1.aliasName = first.aliasName :=
        (known pair (List.mem_cons_of_mem _ among)).trans
          (known (first, place) List.mem_cons_self).symm
      rw [if_pos (all_aliasName alike)]
      exact .pure place

end Table

/-! ### Values -/

variable {table : Table} {allowed : ValidationError → Prop}

/-- Whether the columns of an expression are found in a table, or fail in an allowed way. -/
def Expr.Known (table : Table) (allowed : ValidationError → Prop) (expr : Expr) : Prop :=
  ∀ reference ∈ expr.columns, FailsOnly allowed (table.resolve reference)

theorem fails_columnText {reference : ColumnRef}
    (known : FailsOnly allowed (table.resolve reference)) (naming : Naming) :
    FailsOnly allowed (naming.columnText table reference) := by
  refine known.bind fun place _ => ?_
  split
  · cases naming <;> exact .pure _
  · exact .pure ""

theorem fails_text {expr : Expr} (known : expr.Known table allowed) (naming : Naming) :
    FailsOnly (WhenInvalid allowed) (naming.text table expr) := by
  induction expr with
  | column reference =>
      exact .lift_validation (fails_columnText (known reference List.mem_cons_self) naming)
  | literal cell => exact FailsOnly.bind (.lift_data allowed _) fun _ _ => .pure _
  | countRows => exact .pure _
  | today => exact .pure _
  | aggregate _ _ inductionHypothesis
  | changeCase _ _ inductionHypothesis
  | negate _ inductionHypothesis
  | nullCheck _ _ inductionHypothesis
  | not _ inductionHypothesis =>
      exact FailsOnly.bind (inductionHypothesis known) fun _ _ => .pure _
  | arithmetic _ _ _ leftHypothesis rightHypothesis
  | condition _ _ _ leftHypothesis rightHypothesis
  | compound _ _ _ leftHypothesis rightHypothesis =>
      have onLeft := leftHypothesis fun reference among =>
        known reference (List.mem_append_left _ among)
      have onRight := rightHypothesis fun reference among =>
        known reference (List.mem_append_right _ among)
      exact FailsOnly.bind onLeft fun _ _ => FailsOnly.bind onRight fun _ _ => .pure _

variable {evaluator : Evaluator} {context : Context}

/-- A value fails as its columns and its calls of aggregates do. -/
theorem fails_value {expr : Expr} (isValue : expr.IsValue)
    (columns : ∀ reference ∈ expr.bareColumns,
      FailsOnly (WhenInvalid allowed) (context.column reference))
    (calls : ∀ call ∈ expr.calls,
      FailsOnly (WhenInvalid allowed) (context.aggregate call.1 call.2)) :
    FailsOnly (WhenInvalid allowed) (evaluator.value context expr) := by
  induction expr with
  | literal cell => exact .pure cell
  | column reference => exact columns reference List.mem_cons_self
  | today => exact .pure _
  | aggregate function argument _ => exact calls (function, argument) List.mem_cons_self
  | changeCase letterCase argument inductionHypothesis =>
      refine FailsOnly.bind (inductionHypothesis isValue columns calls) fun cell _ => ?_
      refine FailsOnly.bind (.lift_data allowed _) fun text _ => ?_
      cases text <;> exact .pure _
  | arithmetic operator left right leftHypothesis rightHypothesis =>
      have onLeft := leftHypothesis isValue.1
        (fun reference among => columns reference (List.mem_append_left _ among))
        fun call among => calls call (List.mem_append_left _ among)
      have onRight := rightHypothesis isValue.2
        (fun reference among => columns reference (List.mem_append_right _ among))
        fun call among => calls call (List.mem_append_right _ among)
      refine FailsOnly.bind onLeft fun _ _ => FailsOnly.bind onRight fun _ _ => ?_
      exact .lift_data allowed _
  | countRows => exact isValue.elim
  | negate _ _ => exact isValue.elim
  | condition _ _ _ _ _ => exact isValue.elim
  | nullCheck _ _ _ => exact isValue.elim
  | compound _ _ _ _ _ => exact isValue.elim
  | not _ _ => exact isValue.elim

/-! ### Rows and groups -/

variable {cells : List Cell} {rows : List Row}

theorem fails_column_ofRow {reference : ColumnRef}
    (known : FailsOnly allowed (table.resolve reference)) :
    FailsOnly (WhenInvalid allowed) ((Context.ofRow table cells).column reference) :=
  FailsOnly.bind (.lift_validation known) fun _ _ => .pure _

theorem fails_value_ofRow {expr : Expr} (isValue : expr.IsValue)
    (known : expr.Known table allowed)
    (misplaced : ∀ call ∈ expr.calls, allowed (.aggregateHere (Text.upper call.1.name))) :
    FailsOnly (WhenInvalid allowed) (evaluator.value (.ofRow table cells) expr) := by
  apply fails_value isValue
  · intro reference bare
    exact fails_column_ofRow (known reference (expr.bareColumns_subset bare))
  · intro call among
    exact .throw (misplaced call among)

/-- What is aggregated in a value is a value of the same columns. -/
theorem argument_of_mem_calls {expr : Expr} (isValue : expr.IsValue) {call : Aggregate × Expr}
    (among : call ∈ expr.calls) : call.2.IsValue ∧ call.2.columns ⊆ expr.columns := by
  induction expr with
  | literal _ | column _ | today => cases among
  | aggregate function argument _ =>
      obtain rfl := List.mem_singleton.mp among
      exact ⟨isValue, List.Subset.refl _⟩
  | changeCase _ _ inductionHypothesis => exact inductionHypothesis isValue among
  | arithmetic _ _ _ leftHypothesis rightHypothesis =>
      rcases List.mem_append.mp among with inLeft | inRight
      · obtain ⟨inner, within⟩ := leftHypothesis isValue.1 inLeft
        exact ⟨inner, List.subset_append_of_subset_left _ within⟩
      · obtain ⟨inner, within⟩ := rightHypothesis isValue.2 inRight
        exact ⟨inner, List.subset_append_of_subset_right _ within⟩
  | countRows | negate _ _ | condition _ _ _ _ _ | nullCheck _ _ _ | compound _ _ _ _ _ | not _ _ =>
      exact isValue.elim

theorem fails_column_ofGroup {reference : ColumnRef}
    (known : FailsOnly allowed (table.resolve reference)) :
    FailsOnly (WhenInvalid allowed) ((Context.ofGroup evaluator table rows).column reference) := by
  cases rows with
  | nil => exact .ok _
  | cons first rest => exact fails_column_ofRow known

/-- A group aggregates values of its rows, in which nothing else is aggregated. -/
theorem fails_aggregate_ofGroup {call : Aggregate × Expr} (isValue : call.2.IsValue)
    (known : call.2.Known table allowed)
    (nested : ∀ inner ∈ call.2.calls, allowed (.aggregateHere (Text.upper inner.1.name))) :
    FailsOnly (WhenInvalid allowed)
      ((Context.ofGroup evaluator table rows).aggregate call.1 call.2) := by
  refine FailsOnly.bind (.mapM fun row _ => ?_) fun _ _ => .lift_data allowed _
  exact fails_value_ofRow isValue known nested

/-- An expression whose aggregates have none inside them. -/
def Expr.Flat (allowed : ValidationError → Prop) (expr : Expr) : Prop :=
  ∀ call ∈ expr.calls, ∀ inner ∈ call.2.calls,
    allowed (.aggregateHere (Text.upper inner.1.name))

theorem fails_value_ofGroup {expr : Expr} (isValue : expr.IsValue)
    (known : expr.Known table allowed) (flat : expr.Flat allowed) :
    FailsOnly (WhenInvalid allowed) (evaluator.value (.ofGroup evaluator table rows) expr) := by
  apply fails_value isValue
  · intro reference bare
    exact fails_column_ofGroup (known reference (expr.bareColumns_subset bare))
  · intro call among
    obtain ⟨inner, within⟩ := argument_of_mem_calls isValue among
    exact fails_aggregate_ofGroup inner (fun reference used => known reference (within used))
      (flat call among)

theorem fails_column_withNames {names : List (String × Cell)} {reference : ColumnRef}
    (fails : FailsOnly (WhenInvalid allowed) (context.column reference)) :
    FailsOnly (WhenInvalid allowed) ((context.withNames names).column reference) := by
  unfold Context.withNames
  dsimp only
  split
  · exact .ok _
  · exact fails

/-! ### Conditions -/

/-- Every pattern that is given by one of some expressions can be read, or fails in an
allowed way. -/
def PatternsAllowed (allowed : ValidationError → Prop) (patterns : List Expr) : Prop :=
  ∀ right ∈ patterns, ∀ pattern,
    (∀ cell, right = .literal cell → cell.asText? = .ok (some pattern)) →
      Pattern.read pattern = .error .malformed → allowed (.badPattern pattern)

theorem fails_relates {relation : Relation} {left right : Cell}
    (pattern : ∀ text, relation = .matchesPattern → right.asText? = .ok (some text) →
      Pattern.read text = .error .malformed → allowed (.badPattern text)) :
    FailsOnly (WhenInvalid allowed) (evaluator.relates relation left right) := by
  unfold Evaluator.relates
  split
  · exact .lift_data allowed _
  · refine FailsOnly.bind (.lift_data allowed _) fun leftText leftGiven => ?_
    refine FailsOnly.bind (.lift_data allowed _) fun rightText given => ?_
    split
    · next text other =>
        cases relation with
        | compare _ | contains | startsWith | endsWith | like => exact .ok _
        | matchesPattern =>
            rw [lift_data_eq_ok_iff] at given
            change FailsOnly (WhenInvalid allowed) (Evaluator.matchesPattern text other)
            unfold Evaluator.matchesPattern
            split
            · exact .ok _
            · next malformed => exact .error (pattern other rfl given malformed)
            · apply FailsOnly.error
              trivial
    · exact .pure false

theorem calls_eq_nil {expr : Expr} (plain : expr.hasAggregate = false) : expr.calls = [] := by
  induction expr with
  | literal _ | column _ | today => rfl
  | countRows | aggregate _ _ _ => cases plain
  | changeCase _ _ inductionHypothesis
  | negate _ inductionHypothesis
  | nullCheck _ _ inductionHypothesis
  | not _ inductionHypothesis => exact inductionHypothesis plain
  | arithmetic _ _ _ leftHypothesis rightHypothesis
  | condition _ _ _ leftHypothesis rightHypothesis
  | compound _ _ _ leftHypothesis rightHypothesis =>
      obtain ⟨onLeft, onRight⟩ := Bool.or_eq_false_iff.mp plain
      rw [Expr.calls, leftHypothesis onLeft, rightHypothesis onRight, List.append_nil]

theorem fails_plainValue {expr : Expr} (isValue : expr.IsValue)
    (known : expr.Known table allowed) (plain : expr.hasAggregate = false) :
    FailsOnly (WhenInvalid allowed) (evaluator.value (.ofRow table cells) expr) := by
  apply fails_value_ofRow isValue known
  intro call among
  rw [calls_eq_nil plain] at among
  cases among

variable {location : Location} {caseSensitive : Bool}

theorem fails_condition {relation : Relation} {left right : Expr} {text : NativeText}
    (translated : Native.condition? location caseSensitive relation left right = some text)
    (known : (Expr.condition relation left right).Known table allowed)
    (plain : (Expr.condition relation left right).hasAggregate = false)
    (patterns : PatternsAllowed allowed (Expr.condition relation left right).patterns) :
    FailsOnly (WhenInvalid allowed)
      (evaluator.value (.ofRow table cells) (.condition relation left right)) := by
  obtain ⟨plainLeft, plainRight⟩ := Bool.or_eq_false_iff.mp plain
  obtain ⟨⟨leftText, onLeft⟩, onRight⟩ := Native.sides_of_condition? translated
  have rightValue : right.IsValue := by
    rcases onRight with ⟨rightText, onRight⟩ | ⟨content, rfl⟩
    · exact Native.isValue_of_value? onRight
    · trivial
  have ofLeft : FailsOnly (WhenInvalid allowed) (evaluator.value (.ofRow table cells) left) :=
    fails_plainValue (Native.isValue_of_value? onLeft)
      (fun reference among => known reference (List.mem_append_left _ among)) plainLeft
  have ofRight : FailsOnly (WhenInvalid allowed) (evaluator.value (.ofRow table cells) right) :=
    fails_plainValue rightValue
      (fun reference among => known reference (List.mem_append_right _ among)) plainRight
  refine FailsOnly.bind ofLeft fun leftCell _ => FailsOnly.bind ofRight fun rightCell found => ?_
  refine FailsOnly.bind (fails_relates fun pattern isPattern shown malformed => ?_) fun _ _ =>
    .pure _
  subst isPattern
  apply patterns right List.mem_cons_self pattern ?_ malformed
  rintro cell rfl
  cases found
  exact shown

/-- A translated condition fails in a row as its columns do, or at a pattern. -/
theorem fails_predicate {expr : Expr} {text : NativeText}
    (translated : Native.predicate? location caseSensitive expr = some text)
    (known : expr.Known table allowed) (plain : expr.hasAggregate = false)
    (patterns : PatternsAllowed allowed expr.patterns) :
    FailsOnly (WhenInvalid allowed) (evaluator.value (.ofRow table cells) expr) := by
  rw [Native.predicate?_eq_some_iff] at translated
  induction translated with
  | condition found => exact fails_condition found known plain patterns
  | compound connective _ _ leftHypothesis rightHypothesis =>
      obtain ⟨plainLeft, plainRight⟩ := Bool.or_eq_false_iff.mp plain
      have ofLeft := leftHypothesis
        (fun reference among => known reference (List.mem_append_left _ among)) plainLeft
        fun right among => patterns right (List.mem_append_left _ among)
      have ofRight := rightHypothesis
        (fun reference among => known reference (List.mem_append_right _ among)) plainRight
        fun right among => patterns right (List.mem_append_right _ among)
      refine FailsOnly.bind ofLeft fun leftCell _ => ?_
      cases connective <;> dsimp only <;> split
      · exact .pure _
      · exact FailsOnly.bind ofRight fun _ _ => .pure _
      · exact .pure _
      · exact FailsOnly.bind ofRight fun _ _ => .pure _
  | not _ inductionHypothesis =>
      exact FailsOnly.bind (inductionHypothesis known plain patterns) fun _ _ => .pure _
  | nullCheck negated inside =>
      exact FailsOnly.bind (fails_plainValue (Native.isValue_of_value? inside) known plain)
        fun _ _ => .pure _

end GridQuery
