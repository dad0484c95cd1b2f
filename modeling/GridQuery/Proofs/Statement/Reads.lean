import GridQuery.Statement.Parser
import Mathlib

/-!
# What readers take

`Reads` says that a reader takes certain tokens, wherever they stand, leaves certain others
and returns a value. There is one rule for each way to put readers together, so that what a
reader takes follows from its text.
-/

namespace GridQuery.Statement

open GridQuery.Statement.Parser

variable {Value Next : Type}

theorem isKeyword_eq_none {word : Keyword} {token : Token}
    (other : ∀ written, token ≠ .keyword word written) : isKeyword word token = none := by
  unfold isKeyword
  split
  · next found written =>
      have unequal : found ≠ word := by
        rintro rfl
        exact other written rfl
      simp [unequal]
  · rfl

theorem isSymbol_eq_none {sign : Symbol} {token : Token} (other : token ≠ .symbol sign) :
    isSymbol sign token = none := by
  unfold isSymbol
  split
  · next found =>
      have unequal : found ≠ sign := by
        rintro rfl
        exact other rfl
      simp [unequal]
  · rfl

/-- From the tokens before to those after, with a value. -/
def Reads (parser : Parser Value) (before : List Token) (value : Value)
    (after : List Token) : Prop :=
  ∀ placed : List PlacedToken, placed.map (·.token) = before →
    ∃ rest, parser placed = .ok (value, rest) ∧ rest.map (·.token) = after

namespace Reads

variable {before middle after : List Token} {value : Value} {next : Next}

theorem pure (value : Value) (tokens : List Token) :
    Reads (Pure.pure value) tokens value tokens :=
  fun placed shape => ⟨placed, rfl, shape⟩

theorem bind {parser : Parser Value} {later : Value → Parser Next}
    (first : Reads parser before value middle) (second : Reads (later value) middle next after) :
    Reads (parser >>= later) before next after := by
  intro placed shape
  obtain ⟨between, ran, shapeBetween⟩ := first placed shape
  obtain ⟨rest, ranLater, shapeRest⟩ := second between shapeBetween
  refine ⟨rest, ?_, shapeRest⟩
  simp only [Bind.bind, StateT.bind, ran]
  exact ranLater

theorem map {parser : Parser Value} (convert : Value → Next)
    (first : Reads parser before value after) :
    Reads (convert <$> parser) before (convert value) after := by
  rw [map_eq_pure_bind]
  exact first.bind (pure (convert value) after)

/-- Where the tokens stand does not matter. -/
theorem get_bind {later : List PlacedToken → Parser Next}
    (second : ∀ placed : List PlacedToken, placed.map (·.token) = before →
      Reads (later placed) before next after) :
    Reads (get >>= later) before next after :=
  fun placed shape => second placed shape placed shape

theorem position_bind {later : Nat → Parser Next}
    (second : ∀ position, Reads (later position) before next after) :
    Reads (position >>= later) before next after :=
  fun placed shape => second _ placed shape

theorem peek (tokens : List Token) : Reads Parser.peek tokens tokens.head? tokens := by
  rintro placed rfl
  exact ⟨placed, by simp [Parser.peek, get, getThe, MonadStateOf.get, StateT.get, Bind.bind,
    StateT.bind, Except.bind, Pure.pure, StateT.pure, Except.pure], rfl⟩

theorem skip (token : Token) (tokens : List Token) :
    Reads Parser.skip (token :: tokens) () tokens := by
  rintro placed shape
  exact ⟨placed.drop 1, rfl, by rw [List.map_drop, shape]; rfl⟩

theorem fuel (tokens : List Token) :
    Reads Parser.fuel tokens (4 * tokens.length + 4) tokens := by
  rintro placed rfl
  exact ⟨placed, by simp [Parser.fuel, get, getThe, MonadStateOf.get, StateT.get, Bind.bind,
    StateT.bind, Except.bind, Pure.pure, StateT.pure, Except.pure], rfl⟩

/-! The next token, taken or left. -/

variable {test : Token → Option Value} {token : Token} {tokens : List Token}

theorem takeIf_some (passed : test token = some value) :
    Reads (takeIf test) (token :: tokens) (some value) tokens := by
  refine (peek _).bind ?_
  simp only [List.head?_cons, Option.bind_some, passed]
  exact (skip token tokens).bind (pure (some value) tokens)

theorem takeIf_none (failed : tokens.head?.bind test = none) :
    Reads (takeIf test) tokens none tokens := by
  refine (peek _).bind ?_
  simp only [failed]
  exact pure none tokens

theorem expect (passed : test token = some value) :
    Reads (Parser.expect test) (token :: tokens) value tokens :=
  (takeIf_some passed).bind (pure value tokens)

theorem identifier (name : String) (tokens : List Token) :
    Reads (Parser.expect isIdentifier) (.identifier name :: tokens) name tokens :=
  expect rfl

theorem text (content : String) (tokens : List Token) :
    Reads (Parser.expect isText) (.text content :: tokens) content tokens :=
  expect rfl

theorem integer (value : Nat) (tokens : List Token) :
    Reads (Parser.expect isInteger) (.integer value :: tokens) value tokens :=
  expect rfl

theorem keyword?_true (word : Keyword) (written : String) (tokens : List Token) :
    Reads (keyword? word) (.keyword word written :: tokens) true tokens := by
  have passed : isKeyword word (.keyword word written) = some () := by simp [isKeyword]
  exact (takeIf_some passed).bind (pure true tokens)

theorem keyword?_false {word : Keyword} (other : tokens.head?.bind (isKeyword word) = none) :
    Reads (keyword? word) tokens false tokens :=
  (takeIf_none other).bind (pure false tokens)

theorem symbol?_true (sign : Symbol) (tokens : List Token) :
    Reads (symbol? sign) (.symbol sign :: tokens) true tokens := by
  have passed : isSymbol sign (.symbol sign) = some () := by simp [isSymbol]
  exact (takeIf_some passed).bind (pure true tokens)

theorem symbol?_false {sign : Symbol} (other : tokens.head?.bind (isSymbol sign) = none) :
    Reads (symbol? sign) tokens false tokens :=
  (takeIf_none other).bind (pure false tokens)

theorem keyword (word : Keyword) (written : String) (tokens : List Token) :
    Reads (Parser.keyword word) (.keyword word written :: tokens) () tokens :=
  expect (by simp [isKeyword])

theorem symbol (sign : Symbol) (tokens : List Token) :
    Reads (Parser.symbol sign) (.symbol sign :: tokens) () tokens :=
  expect (by simp [isSymbol])

end Reads

end GridQuery.Statement
