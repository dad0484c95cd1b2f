import GridQuery.Proofs.Statement.Reads

/-!
# Readers on their way

`Continues` says that a reader has taken certain tokens and goes on from the others as another
reader does. So what both are put together with goes on alike, and the first reads what the
second reads and stops where it stops. `Refuses` says that a reader stops at a token with which
none of its phrases goes on.
-/

namespace GridQuery.Statement

open GridQuery.Statement.Parser

variable {Value Next : Type} {parser later final : Parser Value}
  {before middle after : List Token} {value : Value}

/-- From the tokens before, a reader does what another one does from those after. -/
def Continues (parser : Parser Value) (before : List Token) (later : Parser Value)
    (after : List Token) : Prop :=
  ∀ placed : List PlacedToken, placed.map (·.token) = before →
    ∃ rest, parser placed = later rest ∧ rest.map (·.token) = after

/-- A reader stops at one of the tokens, with which it cannot go on. -/
def Refuses (parser : Parser Value) (before : List Token) : Prop :=
  ∀ placed : List PlacedToken, placed.map (·.token) = before →
    ∃ next rest, parser placed = .error (.unexpected (next :: rest))

namespace Continues

theorem trans (first : Continues parser before later middle)
    (second : Continues later middle final after) : Continues parser before final after := by
  intro placed shape
  obtain ⟨between, ran, shapeBetween⟩ := first placed shape
  obtain ⟨rest, ranLater, shapeRest⟩ := second between shapeBetween
  exact ⟨rest, ran.trans ranLater, shapeRest⟩

theorem position_bind {parser : Nat → Parser Value}
    (second : ∀ position, Continues (parser position) before later after) :
    Continues (position >>= parser) before later after :=
  fun placed shape => second _ placed shape

theorem reads (continues : Continues parser before later middle)
    (reads : Reads later middle value after) : Reads parser before value after := by
  intro placed shape
  obtain ⟨between, ran, shapeBetween⟩ := continues placed shape
  obtain ⟨rest, ranLater, shapeRest⟩ := reads between shapeBetween
  exact ⟨rest, ran.trans ranLater, shapeRest⟩

theorem refuses (continues : Continues parser before later after)
    (refuses : Refuses later after) : Refuses parser before := by
  intro placed shape
  obtain ⟨between, ran, shapeBetween⟩ := continues placed shape
  obtain ⟨next, rest, stopped⟩ := refuses between shapeBetween
  exact ⟨next, rest, ran.trans stopped⟩

end Continues

namespace Reads

/-- What comes after a reader goes on from what this one has left. -/
theorem continues {parser : Parser Value} (first : Reads parser before value after)
    (next : Value → Parser Next) : Continues (parser >>= next) before (next value) after := by
  intro placed shape
  obtain ⟨rest, ran, shapeRest⟩ := first placed shape
  refine ⟨rest, ?_, shapeRest⟩
  simp only [Bind.bind, StateT.bind, ran]
  rfl

theorem refuses {parser : Parser Value} {next : Value → Parser Next}
    (first : Reads parser before value after) (refuses : Refuses (next value) after) :
    Refuses (parser >>= next) before :=
  (first.continues next).refuses refuses

end Reads

namespace Refuses

theorem bind {parser : Parser Value} (refuses : Refuses parser before)
    (next : Value → Parser Next) : Refuses (parser >>= next) before := by
  intro placed shape
  obtain ⟨token, rest, stopped⟩ := refuses placed shape
  refine ⟨token, rest, ?_⟩
  simp only [Bind.bind, StateT.bind, stopped]
  rfl

theorem fail (token : Token) (tokens : List Token) :
    Refuses (Parser.fail : Parser Value) (token :: tokens) := by
  intro placed shape
  obtain ⟨next, rest, rfl, -, -⟩ := List.map_eq_cons_iff.mp shape
  exact ⟨next, rest, rfl⟩

theorem get_bind {later : List PlacedToken → Parser Next}
    (second : ∀ placed : List PlacedToken, placed.map (·.token) = before →
      Refuses (later placed) before) : Refuses (get >>= later) before :=
  fun placed shape => second placed shape placed shape

theorem position_bind {later : Nat → Parser Next}
    (second : ∀ position, Refuses (later position) before) :
    Refuses (position >>= later) before :=
  fun placed shape => second _ placed shape

end Refuses

end GridQuery.Statement
