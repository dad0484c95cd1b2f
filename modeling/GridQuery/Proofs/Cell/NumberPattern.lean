import GridQuery.Cell.Format
import GridQuery.Proofs.Numeral

/-!
# Number patterns

A number pattern is what comes before its digit positions, the positions, and what comes
after them. Digits are shown in groups of three from the right where the positions have a
comma among them.
-/

namespace GridQuery

namespace NumberPattern

variable {pattern : NumberPattern}

/-! ### The parts of a pattern -/

/-- The characters of the digit positions: those before the point, with or without a point
and those after it. -/
def IsCore (pattern : NumberPattern) (core : List Char) : Prop :=
  core = pattern.whole ∧ pattern.fraction = [] ∨ core = pattern.whole ++ '.' :: pattern.fraction

theorem atStart?_split {characters : List Char} (found : atStart? characters = some pattern) :
    ∃ core, pattern.IsCore core ∧ characters = core ++ pattern.after ∧ pattern.before = [] := by
  unfold atStart? at found
  dsimp only at found
  split at found
  · cases found
  · next first rest =>
      split at found
      · split at found
        · next more shape =>
            cases found
            refine ⟨_, .inr rfl, ?_, rfl⟩
            have split := List.takeWhile_append_dropWhile
              (p := fun character => isPosition character || character == ',') (l := rest)
            rw [shape] at split
            simp [split]
        · cases found
          exact ⟨_, .inl ⟨rfl, rfl⟩, by simp, rfl⟩
      · split at found
        · next point =>
            split at found
            · cases found
            · cases found
              refine ⟨_, .inr rfl, ?_, rfl⟩
              simp [beq_iff_eq.mp point]
        · cases found

/-- A pattern is its parts, one after another. -/
theorem find?_split {characters : List Char} (found : find? characters = some pattern) :
    ∃ core, pattern.IsCore core ∧ characters = pattern.before ++ core ++ pattern.after := by
  induction characters generalizing pattern with
  | nil => cases found
  | cons first rest inductionHypothesis =>
      unfold find? at found
      split at found
      · next started =>
          cases found
          obtain ⟨core, shape, whole, empty⟩ := atStart?_split started
          exact ⟨core, shape, by rw [whole, empty, List.nil_append]⟩
      · obtain ⟨later, there, rfl⟩ := Option.map_eq_some_iff.mp found
        obtain ⟨core, shape, rfl⟩ := inductionHypothesis there
        exact ⟨core, shape, by simp⟩

/-! ### What is shown of a number -/

/-- The number to show, a hundredfold next to a percent sign. -/
def scaled? (pattern : NumberPattern) (number : Number) : Option Number :=
  if pattern.before.contains '%' || pattern.after.contains '%' then number.mul? (.int 100)
  else some number

/-- A point with digits after it, or nothing. -/
def pointed (fraction : List Char) : List Char :=
  if fraction.isEmpty then [] else '.' :: fraction

/-! ### Groups of digits -/

/-- Digits in groups of three with a comma before each, but for one to three digits in
front. -/
def IsGrouped (digits shown : List Char) : Prop :=
  ∃ (lead : List Char) (groups : List (List Char)),
    lead ≠ [] ∧ lead.length ≤ 3 ∧ (∀ group ∈ groups, group.length = 3) ∧
      digits = lead ++ groups.flatten ∧ shown = lead ++ groups.flatMap (',' :: ·)

/-- A further group comes after those before it. -/
theorem IsGrouped.append {digits shown group : List Char} (grouped : IsGrouped digits shown)
    (three : group.length = 3) : IsGrouped (digits ++ group) (shown ++ ',' :: group) := by
  obtain ⟨lead, groups, nonempty, short, each, rfl, rfl⟩ := grouped
  refine ⟨lead, groups ++ [group], nonempty, short, ?_, by simp, by simp⟩
  intro other among
  rcases List.mem_append.mp among with before | last
  · exact each other before
  · rw [List.mem_singleton.mp last, three]

theorem isGrouped_go {backwards : List Char} (nonempty : backwards ≠ []) :
    IsGrouped backwards.reverse (grouped.go backwards).reverse := by
  induction backwards using grouped.go.induct with
  | case1 first second third next rest inductionHypothesis =>
      have three : [third, second, first].length = 3 := rfl
      have more := (inductionHypothesis (by simp)).append three
      simpa [grouped.go] using more
  | case2 rest short =>
      rw [grouped.go.eq_2 rest short]
      refine ⟨rest.reverse, [], by simpa using nonempty, ?_, by simp, by simp, by simp⟩
      rcases rest with _ | ⟨first, _ | ⟨second, _ | ⟨third, _ | ⟨next, rest⟩⟩⟩⟩
      case cons.cons.cons.cons => exact (short first second third next rest rfl).elim
      all_goals simp

theorem isGrouped_grouped {digits : List Char} (nonempty : digits ≠ []) :
    IsGrouped digits (grouped digits) := by
  have more := isGrouped_go (List.reverse_ne_nil_iff.mpr nonempty)
  rwa [List.reverse_reverse] at more

theorem comma_notMem {digits : List Char} (all : ∀ digit ∈ digits, digit.isDigit = true) :
    ',' ∉ digits :=
  fun among => absurd (all ',' among) (by decide)

theorem filter_of_notMem {part : List Char} (none : ',' ∉ part) :
    part.filter (· != ',') = part := by
  apply List.filter_eq_self.mpr
  intro digit among
  have other : digit ≠ ',' := by
    rintro rfl
    exact none among
  simpa using other

/-- The digits are what is shown without the commas. -/
theorem IsGrouped.filter_eq {digits shown : List Char} (grouped : IsGrouped digits shown)
    (none : ',' ∉ digits) : shown.filter (· != ',') = digits := by
  obtain ⟨lead, groups, -, -, -, rfl, rfl⟩ := grouped
  rw [List.mem_append, not_or] at none
  rw [List.filter_append, filter_of_notMem none.1]
  congr 1
  induction groups with
  | nil => rfl
  | cons group groups inductionHypothesis =>
      rw [List.flatten_cons, List.mem_append, not_or] at none
      have later := inductionHypothesis ⟨none.1, none.2.2⟩
      simp [filter_of_notMem none.2.1, later]

end NumberPattern

/-- A pattern for numbers renders the number that a cell is read as. -/
theorem Cell.format?_of_asNumber? {cell : Cell} {value : Number} {pattern : String}
    {found : NumberPattern} (reads : cell.asNumber? = .ok (some value))
    (finds : NumberPattern.find? pattern.toList = some found) :
    cell.format? pattern = (found.render value).map some := by
  have read : cell.format? pattern =
      (found.render value).bind fun text => .ok (some text) := by
    unfold Cell.format?
    cases cell with
    | number _ | text _ =>
        dsimp only
        rw [reads, finds]
        rfl
    | null | boolean _ | date _ => cases reads
  rw [read]
  cases found.render value <;> rfl

end GridQuery
