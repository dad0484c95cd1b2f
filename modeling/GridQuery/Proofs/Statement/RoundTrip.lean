import GridQuery.Proofs.Statement.Produced
import GridQuery.Proofs.Statement.ReadQuery
import GridQuery.Statement.Reader

/-!
# Parsing undoes printing
-/

namespace GridQuery.Statement

/-- A text whose tokens are read as a statement is read as it. -/
theorem parse_of_reads {text : String} {tokens : List Token} {statement : Statement}
    (cuts : Cuts text.toList tokens) (reads : Reads Parser.statement tokens statement []) :
    Statement.parse text = .ok statement := by
  obtain ⟨cut, sound⟩ := cuts 0
  obtain ⟨rest, read, -⟩ := reads _ cut
  have run : Parser.statement.run (lex text.toList).tokens = .ok (statement, rest) := read
  have noFault : (lex text.toList).fault = none := sound
  simp only [Statement.parse, run, noFault]

/-- A text that is cut into the tokens of a grammatical statement is read as it. -/
theorem parse_of_cuts {text : String} {statement : Statement}
    (grammatical : statement.Grammatical) (cuts : Cuts text.toList (tokens statement.words)) :
    Statement.parse text = .ok statement :=
  parse_of_reads cuts (reads_statement grammatical)

/-- The text of a grammatical statement without floating-point literals is read as the
statement. -/
theorem parse_print_of_grammatical {statement : Statement}
    (grammatical : statement.Grammatical) (ints : IntsOnly statement.literals) :
    Statement.parse (print statement) = .ok statement := by
  apply parse_of_cuts grammatical
  rw [print, String.toList_ofList]
  exact cuts_spell (readable_words grammatical ints)

/-- Each statement that a text is read as is grammatical. -/
theorem grammatical_of_parse {text : String} {statement : Statement}
    (parsed : Statement.parse text = .ok statement) : statement.Grammatical := by
  have sound : AllSound (lex text.toList).tokens := lexFrom_sound text.toList 0 0
  unfold Statement.parse at parsed
  dsimp only at parsed
  split at parsed
  · simp at parsed
  · next found rest read =>
      have holds := (yields_statement _ found rest sound read).1
      split at parsed
      · simp at parsed
      · obtain rfl := Except.ok.inj parsed
        exact holds

/-- Parsing undoes printing: each statement that some text is read as, its number literals
all integers, is what its printed text is read as. -/
theorem parse_print {text : String} {statement : Statement}
    (parsed : Statement.parse text = .ok statement) (ints : IntsOnly statement.literals) :
    Statement.parse (print statement) = .ok statement :=
  parse_print_of_grammatical (grammatical_of_parse parsed) ints

/-- A query for two kinds of plums. -/
def plums : Statement :=
  .select {
    items := [.star (some "p"), .expr (.aggregate .max (.column ⟨none, "grams"⟩)) (some "most")]
    source := some ⟨"plums", true, some "p"⟩
    joins := []
    filter := some (.condition (.compare .lt) (.column ⟨none, "grams"⟩) (.literal (.int (-3))))
    groupBy := []
    having := none
    orderBy := []
    limit := some 2
    offset := 0
    distinct := false
    distinctOn := []
    pivot := []
    labels := []
    formats := [] }

theorem plums_parse_print :
    ∃ text, Statement.parse text = .ok plums ∧ IntsOnly plums.literals ∧
      Statement.parse (print plums) = .ok plums := by
  have parsed : Statement.parse
      "select p.*, max(grams) as most from :plums p where grams < -3 limit 2" = .ok plums := by
    rfl
  have ints : IntsOnly plums.literals := by
    rintro number membership
    obtain ⟨rfl⟩ := List.mem_singleton.mp membership
    exact ⟨-3, rfl⟩
  exact ⟨_, parsed, ints, parse_print parsed ints⟩

end GridQuery.Statement
