import GridQuery.Proofs.Table.Join

/-!
# The order of a join's references

A join's condition names a column of each side in either order. The order matters just if
both tables have a column for both references, and not the same ones: the side that a
reference is of is then told by where it is written.
-/

namespace GridQuery

/-- The clause with the references of its condition in the other order. -/
def JoinClause.reversed (clause : JoinClause) : JoinClause :=
  { clause with left := clause.right, right := clause.left }

namespace Table

/-- The places that one reference means on the left and another on the right. -/
def sides (left right : Table) (ofLeft ofRight : ColumnRef) :
    Except ValidationError (Nat × Nat) := do
  let leftPlace ← left.resolve ofLeft
  return (leftPlace, ← right.resolve ofRight)

/-- The join at the places of the joining columns. -/
def joinAt (left right : Table) (kind : JoinKind) (places : Nat × Nat) : Except Error Table := do
  let (leftRows, rightRows) ←
    match kind with
    | .right => do
        let leftRows ← left.keyedRows places.1
        pure (leftRows, ← right.keyedRows places.2)
    | _ => do
        let rightRows ← right.keyedRows places.2
        pure (← left.keyedRows places.1, rightRows)
  return left.sideBySide right kind leftRows rightRows

/-- Both references mean a column on either side, and it matters which is of which side. -/
def CrossedBy (left right : Table) (clause : JoinClause) : Prop :=
  ∃ straight crossed, left.sides right clause.left clause.right = .ok straight ∧
    left.sides right clause.right clause.left = .ok crossed ∧ straight ≠ crossed

variable {left right : Table} {clause : JoinClause} {places : Nat × Nat}

/-! ### Finding the columns -/

theorem sides_eq_ok_iff {ofLeft ofRight : ColumnRef} :
    left.sides right ofLeft ofRight = .ok places ↔
      left.resolve ofLeft = .ok places.1 ∧ right.resolve ofRight = .ok places.2 := by
  simp only [sides, bind_eq_ok_iff, pure_eq_ok, Except.ok.injEq]
  constructor
  · rintro ⟨leftPlace, onLeft, rightPlace, onRight, rfl⟩
    exact ⟨onLeft, onRight⟩
  · rintro ⟨onLeft, onRight⟩
    exact ⟨_, onLeft, _, onRight, rfl⟩

/-- The written order is tried first. -/
theorem joinPlaces_of_sides (written : left.sides right clause.left clause.right = .ok places) :
    left.joinPlaces right clause = .ok places := by
  rw [sides] at written
  simp only [joinPlaces, written]

/-- The other order is tried where the written one does not do. -/
theorem joinPlaces_of_reversed {failure : ValidationError}
    (written : left.sides right clause.left clause.right = .error failure)
    (turned : left.sides right clause.right clause.left = .ok places) :
    left.joinPlaces right clause = .ok places := by
  rw [sides] at written turned
  simp only [joinPlaces, written, turned]

theorem joinPlaces_of_neither {failure other : ValidationError}
    (written : left.sides right clause.left clause.right = .error failure)
    (turned : left.sides right clause.right clause.left = .error other) :
    left.joinPlaces right clause =
      .error (.joinSides clause.left.text clause.right.text) := by
  rw [sides] at written turned
  simp only [joinPlaces, written, turned]

/-! ### Joining at them -/

/-- A join depends on its condition by the places only. -/
theorem join_of_joinPlaces (resolved : left.joinPlaces right clause = .ok places) :
    left.join right clause = left.joinAt right clause.kind places := by
  rw [join, resolved]
  rfl

theorem join_of_joinPlaces_error {failure : ValidationError}
    (refused : left.joinPlaces right clause = .error failure) :
    left.join right clause = .error (.invalid failure) := by
  rw [join, refused]
  rfl

/-- Unless the references are crossed, a join and the one with its condition the other way
round are both refused, each in its own words, or have the same outcome. If both ways to
read the condition find columns, each join goes by its own. -/
theorem join_reversed (left right : Table) (clause : JoinClause) :
    (¬ left.CrossedBy right clause →
      (left.join right clause =
          .error (.invalid (.joinSides clause.left.text clause.right.text)) ∧
        left.join right clause.reversed =
          .error (.invalid (.joinSides clause.right.text clause.left.text))) ∨
      left.join right clause.reversed = left.join right clause) ∧
    ∀ straight crossed, left.sides right clause.left clause.right = .ok straight →
      left.sides right clause.right clause.left = .ok crossed →
        left.join right clause = left.joinAt right clause.kind straight ∧
        left.join right clause.reversed = left.joinAt right clause.kind crossed := by
  have byPlaces (straight crossed : Nat × Nat)
      (written : left.sides right clause.left clause.right = .ok straight)
      (turned : left.sides right clause.right clause.left = .ok crossed) :
      left.join right clause = left.joinAt right clause.kind straight ∧
        left.join right clause.reversed = left.joinAt right clause.kind crossed :=
    ⟨join_of_joinPlaces (joinPlaces_of_sides written),
      join_of_joinPlaces (joinPlaces_of_sides turned)⟩
  refine ⟨fun uncrossed => ?_, byPlaces⟩
  cases written : left.sides right clause.left clause.right with
  | ok straight =>
      right
      cases turned : left.sides right clause.right clause.left with
      | ok crossed =>
          have same : straight = crossed := by
            by_contra apart
            exact uncrossed ⟨straight, crossed, written, turned, apart⟩
          obtain ⟨here, there⟩ := byPlaces straight crossed written turned
          rw [here, there, same]
      | error failure =>
          rw [join_of_joinPlaces (joinPlaces_of_sides written)]
          exact join_of_joinPlaces
            (joinPlaces_of_reversed turned written)
  | error failure =>
      cases turned : left.sides right clause.right clause.left with
      | ok crossed =>
          right
          rw [join_of_joinPlaces (joinPlaces_of_reversed written turned)]
          exact join_of_joinPlaces (joinPlaces_of_sides turned)
      | error other =>
          left
          exact ⟨join_of_joinPlaces_error (joinPlaces_of_neither written turned),
            join_of_joinPlaces_error
              (joinPlaces_of_neither turned written)⟩

/-- Orders are joined with their customers by the same columns in either order. -/
theorem orders_join_reversed :
    orders.join customers (orderedBy .left).reversed = orders.join customers (orderedBy .left) ∧
      (orders.join customers (orderedBy .left)).map cellRows =
        .ok [[.text "ink", .int 10, .text "10"], [.text "ink", .int 10, .int 10],
          [.text "pen", .text "20", .int 20], [.text "nib", .null, .null],
          [.text "cap", .int 40, .null]] := by
  have joined : (orders.join customers (orderedBy .left)).map cellRows =
      .ok [[.text "ink", .int 10, .text "10"], [.text "ink", .int 10, .int 10],
        [.text "pen", .text "20", .int 20], [.text "nib", .null, .null],
        [.text "cap", .int 40, .null]] := by
    decide +kernel
  have uncrossed : ¬ orders.CrossedBy customers (orderedBy .left) := by
    rintro ⟨_, crossed, -, turned, -⟩
    have missing : (orders.resolve (orderedBy .left).right).toOption = none := by decide +kernel
    rw [(sides_eq_ok_iff.mp turned).1] at missing
    cases missing
  rcases (join_reversed orders customers (orderedBy .left)).1 uncrossed with ⟨refused, -⟩ | same
  · rw [refused] at joined
    cases joined
  · exact ⟨same, joined⟩

/-! ### Journeys out and back, both with a start and an end -/

def outward : Table :=
  ofHeader "outward" none [.text "start", .text "end"] [[.text "Bern", .text "Rome"]]

def homeward : Table :=
  ofHeader "homeward" none [.text "start", .text "end"] [[.text "Oslo", .text "Bern"]]

/-- Journeys that end where the others have started. -/
def thereAndBack : JoinClause :=
  ⟨.inner, ⟨"homeward", true, none⟩, ⟨none, "start"⟩, ⟨none, "end"⟩⟩

/-- With both names on both sides the condition has two meanings. -/
theorem journeys_join_reversed :
    ¬ ((∃ failure other, outward.join homeward thereAndBack = .error (.invalid failure) ∧
        outward.join homeward thereAndBack.reversed = .error (.invalid other)) ∨
      outward.join homeward thereAndBack.reversed = outward.join homeward thereAndBack) := by
  have written : (outward.join homeward thereAndBack).map cellRows =
      .ok [[.text "Bern", .text "Rome", .text "Oslo", .text "Bern"]] := by
    decide +kernel
  have turned : (outward.join homeward thereAndBack.reversed).map cellRows = .ok [] := by
    decide +kernel
  rintro (⟨failure, _, refused, -⟩ | same)
  · rw [refused] at written
    cases written
  · rw [same, written] at turned
    cases turned

end Table

end GridQuery
