import GridQuery.Statement.Lexer

/-!
# The inside of a literal

A literal is as long as it can be. What stands between its quotes has a shape of its own,
and wherever characters of that shape stand between two quotes, and no third one follows,
they are the literal that is found. What they stand for is read off them pair by pair.
-/

namespace GridQuery.Statement

/-- What stands between two quotes: pairs that begin with a backslash, doubled quotes, and
any other characters. -/
inductive LiteralBody (quote : Char) : List Char → Prop where
  | nil : LiteralBody quote []
  | pair {second : Char} {body : List Char} : second ≠ '\n' → LiteralBody quote body →
      LiteralBody quote ('\\' :: second :: body)
  | doubled {body : List Char} : LiteralBody quote body → LiteralBody quote (quote :: quote :: body)
  | plain {first : Char} {body : List Char} : first ≠ quote → first ≠ '\\' →
      LiteralBody quote body → LiteralBody quote (first :: body)

variable {quote : Char} {body content rest : List Char}

theorem literalBody_of_plain
    (plain : ∀ character ∈ body, character ≠ quote ∧ character ≠ '\\') :
    LiteralBody quote body := by
  induction body with
  | nil => exact .nil
  | cons first body inductionHypothesis =>
      obtain ⟨⟨other, slash⟩, later⟩ := List.forall_mem_cons.mp plain
      exact .plain other slash (inductionHypothesis later)

/-- A literal ends at a quote. If another quote follows, then no literal begins with that
one: the literal would have gone on. -/
theorem literalBody?_split {characters : List Char}
    (found : literalBody? quote characters = some body) :
    ∃ rest, characters = body ++ quote :: rest ∧ LiteralBody quote body ∧
      (rest.head? = some quote → literalBody? quote rest.tail = none) := by
  fun_induction literalBody? quote characters generalizing body with
  | case1 => simp at found
  | case2 last equal =>
      obtain rfl := Option.some.inj found
      obtain rfl : last = quote := by simpa using equal
      exact ⟨[], rfl, .nil, by simp⟩
  | case3 last other => simp at found
  | case4 first second rest firstQuote secondQuote inside longer inductionHypothesis =>
      obtain rfl := Option.some.inj found
      obtain ⟨after, rfl, shape, next⟩ := inductionHypothesis longer
      obtain rfl : first = quote := by simpa using firstQuote
      obtain rfl : second = first := by simpa using secondQuote
      exact ⟨after, rfl, .doubled shape, next⟩
  | case5 first second rest firstQuote secondQuote none inductionHypothesis =>
      obtain rfl := Option.some.inj found
      obtain rfl : first = quote := by simpa using firstQuote
      exact ⟨second :: rest, rfl, .nil, fun _ => none⟩
  | case6 first second rest firstQuote single =>
      obtain rfl := Option.some.inj found
      obtain rfl : first = quote := by simpa using firstQuote
      refine ⟨second :: rest, rfl, .nil, ?_⟩
      intro next
      exact absurd (by simpa using next) single
  | case7 => simp at found
  | case8 first second rest other slash line inductionHypothesis =>
      obtain ⟨inside, later, rfl⟩ := Option.map_eq_some_iff.mp found
      obtain ⟨after, rfl, shape, next⟩ := inductionHypothesis later
      obtain rfl : first = '\\' := by simpa using slash
      exact ⟨after, rfl, .pair (by simpa using line) shape, next⟩
  | case9 first second rest other slash inductionHypothesis =>
      obtain ⟨inside, later, rfl⟩ := Option.map_eq_some_iff.mp found
      obtain ⟨after, split, shape, next⟩ := inductionHypothesis later
      refine ⟨after, by rw [split]; rfl, ?_, next⟩
      exact .plain (by simpa using other) (by simpa using slash) shape

/-- A body between two quotes is found if no third quote follows. -/
theorem LiteralBody.found (shape : LiteralBody quote body) (slash : quote ≠ '\\')
    (single : rest.head? ≠ some quote) :
    literalBody? quote (body ++ quote :: rest) = some body := by
  induction shape with
  | nil =>
      cases rest with
      | nil => simp [literalBody?]
      | cons next rest =>
          have other : next ≠ quote := by simpa using single
          simp [literalBody?, other]
  | pair line _ inductionHypothesis =>
      simp [literalBody?, Ne.symm slash, line, inductionHypothesis]
  | doubled _ inductionHypothesis => simp [literalBody?, inductionHypothesis]
  | @plain first body other notSlash _ inductionHypothesis =>
      obtain ⟨next, later, split⟩ : ∃ next later, body ++ quote :: rest = next :: later :=
        List.exists_cons_of_ne_nil (by simp)
      rw [split] at inductionHypothesis
      rw [List.cons_append, split]
      simp [literalBody?, other, notSlash, inductionHypothesis]

/-- The body stands for a text: marks behind backslashes for their characters, doubled
quotes for one, and any other characters for themselves. -/
inductive StandsFor (quote : Char) : List Char → List Char → Prop where
  | nil : StandsFor quote [] []
  | escaped {mark character : Char} {body content : List Char} :
      escaped? mark = some character → StandsFor quote body content →
      StandsFor quote ('\\' :: mark :: body) (character :: content)
  | doubled {body content : List Char} : StandsFor quote body content →
      StandsFor quote (quote :: quote :: body) (quote :: content)
  | plain {character : Char} {body content : List Char} : character ≠ quote →
      character ≠ '\\' → StandsFor quote body content →
      StandsFor quote (character :: body) (character :: content)

/-- What has neither quotes nor backslashes stands for itself. -/
theorem standsFor_of_plain
    (plain : ∀ character ∈ body, character ≠ quote ∧ character ≠ '\\') :
    StandsFor quote body body := by
  induction body with
  | nil => exact .nil
  | cons first body inductionHypothesis =>
      obtain ⟨⟨other, slash⟩, later⟩ := List.forall_mem_cons.mp plain
      exact .plain other slash (inductionHypothesis later)

theorem StandsFor.literalBody (stands : StandsFor quote body content) :
    LiteralBody quote body := by
  induction stands with
  | nil => exact .nil
  | escaped found _ inductionHypothesis =>
      refine .pair ?_ inductionHypothesis
      rintro rfl
      cases found.symm.trans (show escaped? '\n' = none from rfl)
  | doubled _ inductionHypothesis => exact .doubled inductionHypothesis
  | plain other slash _ inductionHypothesis => exact .plain other slash inductionHypothesis

theorem StandsFor.unescape_eq (stands : StandsFor quote body content) (slash : quote ≠ '\\') :
    unescape (some quote) body = content := by
  induction stands with
  | nil => rfl
  | escaped found _ inductionHypothesis => simp [unescape, found, inductionHypothesis]
  | doubled _ inductionHypothesis => simp [unescape, slash, inductionHypothesis]
  | @plain character body content other notSlash _ inductionHypothesis =>
      cases body with
      | nil =>
          obtain rfl : [] = content := inductionHypothesis
          rfl
      | cons next later => simp [unescape, other, notSlash, inductionHypothesis]

end GridQuery.Statement
