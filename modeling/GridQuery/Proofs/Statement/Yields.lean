import GridQuery.Proofs.Statement.Tokens
import GridQuery.Statement.Parser

/-!
# What readers return

`Yields` says what holds of each value that a reader returns from the tokens of a text. As
for `Reads`, there is one rule for each way to put readers together.
-/

namespace GridQuery.Statement

open GridQuery.Statement.Parser

variable {Value Next : Type}

/-- What two readers one after the other have gone through once they have read. -/
theorem run_bind_eq_ok {first : Parser Value} {later : Value → Parser Next} {next : Next}
    {placed rest : List PlacedToken} (ran : (first >>= later) placed = .ok (next, rest)) :
    ∃ value between, first placed = .ok (value, between) ∧
      later value between = .ok (next, rest) := by
  simp only [Bind.bind, StateT.bind] at ran
  cases step : first placed with
  | error failure =>
      rw [step] at ran
      cases ran
  | ok result =>
      rw [step] at ran
      exact ⟨result.1, result.2, rfl, ran⟩

/-- From sound tokens, a reader returns values with a property and leaves sound tokens. -/
def Yields (parser : Parser Value) (holds : Value → Prop) : Prop :=
  ∀ placed value rest, AllSound placed → parser placed = .ok (value, rest) →
    holds value ∧ AllSound rest

/-- Nothing in particular. -/
def Anything (_ : Value) : Prop := True

namespace Yields

variable {parser : Parser Value} {holds : Value → Prop} {after : Next → Prop}

theorem pure {value : Value} (inValue : holds value) : Yields (Pure.pure value) holds := by
  rintro placed found rest sound ⟨rfl⟩
  exact ⟨inValue, sound⟩

theorem bind {later : Value → Parser Next} (first : Yields parser holds)
    (second : ∀ value, holds value → Yields (later value) after) :
    Yields (parser >>= later) after := by
  intro placed next rest sound ran
  obtain ⟨value, between, step, ended⟩ := run_bind_eq_ok ran
  obtain ⟨inValue, soundBetween⟩ := first placed value between sound step
  exact second value inValue between next rest soundBetween ended

theorem mono {others : Value → Prop} (yields : Yields parser holds)
    (weaker : ∀ value, holds value → others value) : Yields parser others := by
  intro placed value rest sound ran
  obtain ⟨inValue, soundRest⟩ := yields placed value rest sound ran
  exact ⟨weaker value inValue, soundRest⟩

theorem map {convert : Value → Next} (yields : Yields parser holds)
    (converted : ∀ value, holds value → after (convert value)) :
    Yields (convert <$> parser) after := by
  rw [map_eq_pure_bind]
  exact yields.bind fun value inValue => pure (converted value inValue)

theorem throw (failure : ParseFailure) (holds : Value → Prop) :
    Yields (MonadExcept.throw failure : Parser Value) holds := by
  rintro placed value rest - ⟨⟩

theorem get_bind {later : List PlacedToken → Parser Next}
    (second : ∀ placed, AllSound placed → Yields (later placed) after) :
    Yields (get >>= later) after :=
  fun placed next rest sound ran => second placed sound placed next rest sound ran

theorem fail (holds : Value → Prop) : Yields Parser.fail holds :=
  get_bind fun placed _ => throw (.unexpected placed) holds

theorem peek : Yields Parser.peek (fun found => ∀ token ∈ found, Token.Sound token) := by
  refine get_bind fun placed sound => pure ?_
  intro token membership
  obtain ⟨first, head, rfl⟩ := Option.map_eq_some_iff.mp membership
  exact sound first (List.mem_of_mem_head? head)

theorem reject (cause : Rejection) (position : Nat) (follows : Token → Bool)
    (holds : Value → Prop) : Yields (Parser.reject cause position follows) holds := by
  refine peek.bind fun found _ => ?_
  cases found with
  | none => exact throw _ holds
  | some token =>
      dsimp only
      split
      · exact throw _ holds
      · exact fail holds

theorem skip : Yields Parser.skip Anything := by
  rintro placed value rest sound ⟨rfl⟩
  exact ⟨trivial, fun found membership => sound found (List.mem_of_mem_drop membership)⟩

theorem position : Yields Parser.position Anything :=
  get_bind fun _ _ => pure trivial

theorem fuel : Yields Parser.fuel Anything :=
  get_bind fun _ _ => pure trivial

variable {test : Token → Option Value}

theorem takeIf (passes : ∀ token value, token.Sound → test token = some value → holds value) :
    Yields (Parser.takeIf test) (fun found => ∀ value ∈ found, holds value) := by
  refine peek.bind fun found sound => ?_
  split
  · next value passed =>
      obtain ⟨token, rfl, tested⟩ := Option.bind_eq_some_iff.mp passed
      have inValue := passes token value (sound token rfl) tested
      exact skip.bind fun _ _ => pure (by simpa using inValue)
  · exact pure (by simp)

theorem expect (passes : ∀ token value, token.Sound → test token = some value → holds value) :
    Yields (Parser.expect test) holds := by
  refine (takeIf passes).bind fun found each => ?_
  cases found with
  | none => exact fail holds
  | some value => exact pure (each value rfl)

theorem keyword? (word : Keyword) : Yields (Parser.keyword? word) Anything :=
  (takeIf fun _ _ _ _ => (trivial : Anything ())).bind fun _ _ => pure trivial

theorem symbol? (sign : Symbol) : Yields (Parser.symbol? sign) Anything :=
  (takeIf fun _ _ _ _ => (trivial : Anything ())).bind fun _ _ => pure trivial

theorem keyword (word : Keyword) : Yields (Parser.keyword word) Anything :=
  expect fun _ _ _ _ => trivial

theorem symbol (sign : Symbol) : Yields (Parser.symbol sign) Anything :=
  expect fun _ _ _ _ => trivial

theorem identifier : Yields (Parser.expect isIdentifier) IsName := by
  refine expect fun token name sound taken => ?_
  cases token <;> simp_all [isIdentifier, Token.Sound]

theorem integer : Yields (Parser.expect isInteger) IsNumeral := by
  refine expect fun token value sound taken => ?_
  cases token <;> simp_all [isInteger, Token.Sound]

theorem text : Yields (Parser.expect isText) Anything :=
  expect fun _ _ _ _ => trivial

end Yields

/-! Lists and clauses. -/

/-- There are items, and each has a property. -/
def SomeEach (holds : Value → Prop) (items : List Value) : Prop :=
  items ≠ [] ∧ ∀ item ∈ items, holds item

theorem someEach_cons {holds : Value → Prop} {first : Value} {later : List Value}
    (inFirst : holds first) (inLater : ∀ item ∈ later, holds item) :
    SomeEach holds (first :: later) :=
  ⟨by simp, by simpa using ⟨inFirst, inLater⟩⟩

namespace Yields

variable {parser : Parser Value} {holds : Value → Prop}

theorem separatedOf (yields : Yields parser holds) (fuel : Nat) :
    Yields (Parser.separatedOf parser fuel) (SomeEach holds) := by
  induction fuel with
  | zero => exact fail _
  | succ fuel inductionHypothesis =>
      rw [Parser.separatedOf]
      refine yields.bind fun first inFirst => (symbol? .comma).bind fun comma _ => ?_
      cases comma with
      | true =>
          exact inductionHypothesis.bind fun later inLater =>
            pure (someEach_cons inFirst inLater.2)
      | false => exact pure (someEach_cons inFirst (by simp))

theorem separated (yields : Yields parser holds) :
    Yields (Parser.separated parser) (SomeEach holds) :=
  fuel.bind fun size _ => separatedOf yields size

theorem enclosed (yields : Yields parser holds) : Yields (Parser.enclosed parser) holds :=
  (symbol .openParen).bind fun _ _ => yields.bind fun _ inItems =>
    (symbol .closeParen).bind fun _ _ => pure inItems

theorem clause? (word : Keyword) (yields : Yields parser holds) :
    Yields (Parser.clause? word parser) (fun found => ∀ body ∈ found, holds body) := by
  refine (keyword? word).bind fun present _ => ?_
  cases present with
  | true => exact yields.bind fun body inBody => pure (by simpa using inBody)
  | false => exact pure (by simp)

variable {items : Parser (List Value)}

theorem getD_each {found : Option (List Value)}
    (each : ∀ list ∈ found, SomeEach holds list) : ∀ item ∈ found.getD [], holds item := by
  cases found with
  | none => simp
  | some list => exact (each list rfl).2

theorem listBy (word : Keyword) (yields : Yields items (SomeEach holds)) :
    Yields (Parser.listBy word items) (fun found => ∀ item ∈ found, holds item) :=
  (clause? word ((keyword .BY).bind fun _ _ => yields)).bind fun _ each => pure (getD_each each)

theorem listAfter (word : Keyword) (yields : Yields items (SomeEach holds)) :
    Yields (Parser.listAfter word items) (fun found => ∀ item ∈ found, holds item) :=
  (clause? word yields).bind fun _ each => pure (getD_each each)

end Yields

end GridQuery.Statement
