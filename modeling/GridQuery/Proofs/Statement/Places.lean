import GridQuery.Proofs.Statement.Lexemes

/-!
# Lexemes in place

A statement that is cut into tokens without a fault is blanks and lexemes, one after another,
each where it has been found.
-/

namespace GridQuery.Statement

/-- A lexeme of a statement, with its position and the characters that it is written in. -/
structure PlacedLexeme where
  lexeme : Lexeme
  position : Nat
  written : List Char
  deriving DecidableEq

/-- The lexemes from a position on, up to the first place where there is none; the first
`skipped` characters belong to a lexeme already taken. -/
def lexemesFrom (position skipped : Nat) : List Char → List PlacedLexeme
  | [] => []
  | first :: rest =>
      if 0 < skipped then lexemesFrom (position + 1) (skipped - 1) rest
      else if isSpace first then lexemesFrom (position + 1) 0 rest
      else
        match scanLexeme (first :: rest) with
        | some (.ok (lexeme, length)) =>
            ⟨lexeme, position, (first :: rest).take length⟩ ::
              lexemesFrom (position + 1) (length - 1) rest
        | _ => []

/-- The lexemes of a statement: its tokens and what is dropped between them. -/
def lexemes (statement : List Char) : List PlacedLexeme :=
  lexemesFrom 0 0 statement

/-- The token that a lexeme is, if it is not dropped. -/
def PlacedLexeme.token? (found : PlacedLexeme) : Option PlacedToken :=
  match found.lexeme with
  | .token token => some ⟨token, found.position⟩
  | .dropped => none

theorem tokens_lexFrom (position skipped : Nat) (characters : List Char) :
    (lexFrom position skipped characters).tokens =
      (lexemesFrom position skipped characters).filterMap PlacedLexeme.token? := by
  induction characters generalizing position skipped with
  | nil => rfl
  | cons first rest inductionHypothesis =>
      unfold lexFrom lexemesFrom
      split
      · exact inductionHypothesis _ _
      · split
        · exact inductionHypothesis _ _
        · split <;> simp_all [PlacedLexeme.token?, List.filterMap_cons]

/-- The tokens of a statement are its lexemes without those that are dropped. -/
theorem tokens_lex (statement : List Char) :
    (lex statement).tokens = (lexemes statement).filterMap PlacedLexeme.token? :=
  tokens_lexFrom 0 0 statement

/-- Characters from a position on are blanks and the given lexemes, up to the end. -/
inductive Splits : Nat → List Char → List PlacedLexeme → Prop where
  | nil (position : Nat) : Splits position [] []
  | space {position : Nat} {first : Char} {rest : List Char} {found : List PlacedLexeme} :
      isSpace first = true → Splits (position + 1) rest found →
      Splits position (first :: rest) found
  | lexeme {position : Nat} {lexeme : Lexeme} {written rest : List Char}
      {found : List PlacedLexeme} :
      scanLexeme (written ++ rest) = some (.ok (lexeme, written.length)) →
      Splits (position + written.length) rest found →
      Splits position (written ++ rest) (⟨lexeme, position, written⟩ :: found)

/-- A lexeme that has been scanned goes before those after it. -/
theorem Splits.of_scanned {position length : Nat} {first : Char} {rest : List Char}
    {lexeme : Lexeme} {found : List PlacedLexeme}
    (scanned : scanLexeme (first :: rest) = some (.ok (lexeme, length)))
    (later : Splits (position + 1 + min (length - 1) rest.length) (rest.drop (length - 1)) found) :
    Splits position (first :: rest) (⟨lexeme, position, (first :: rest).take length⟩ :: found) := by
  obtain ⟨written, after, split, rfl, shape⟩ := scanLexeme_takes scanned
  obtain ⟨initial, written, rfl⟩ := List.exists_cons_of_ne_nil shape.ne_nil
  obtain ⟨rfl, rfl⟩ := List.cons.inj split
  have place : position + 1 + written.length = position + (first :: written).length := by
    rw [List.length_cons]
    omega
  have next : Splits (position + (first :: written).length) after found := by
    simpa [place] using later
  simpa using Splits.lexeme scanned next

theorem splits_of_lexFrom {position skipped : Nat} {characters : List Char}
    (lexable : (lexFrom position skipped characters).fault = none) :
    Splits (position + min skipped characters.length) (characters.drop skipped)
      (lexemesFrom position skipped characters) := by
  induction characters generalizing position skipped with
  | nil => simpa [lexemesFrom] using Splits.nil _
  | cons first rest inductionHypothesis =>
      cases skipped with
      | succ skipped =>
          simp only [lexFrom, Nat.zero_lt_succ, if_true, Nat.add_sub_cancel] at lexable
          have later := inductionHypothesis lexable
          have place : position + 1 + min skipped rest.length =
              position + min (skipped + 1) (first :: rest).length := by
            rw [List.length_cons]
            omega
          rw [place] at later
          simpa [lexemesFrom] using later
      | zero =>
          cases space : isSpace first with
          | true =>
              simp only [lexFrom, Nat.lt_irrefl, if_false, space, if_true] at lexable
              have later := inductionHypothesis lexable
              simpa [lexemesFrom, space] using Splits.space space (by simpa using later)
          | false =>
              cases scanned : scanLexeme (first :: rest) with
              | none => simp [lexFrom, space, scanned] at lexable
              | some result =>
                  cases result with
                  | error fault => simp [lexFrom, space, scanned] at lexable
                  | ok result =>
                      obtain ⟨lexeme, length⟩ := result
                      have later : (lexFrom (position + 1) (length - 1) rest).fault = none := by
                        cases lexeme <;> simpa [lexFrom, space, scanned] using lexable
                      simpa [lexemesFrom, space, scanned] using
                        Splits.of_scanned scanned (inductionHypothesis later)

/-- Characters that are cut into tokens without a fault are blanks and lexemes. -/
theorem splits_of_fault_none {statement : List Char} (lexable : (lex statement).fault = none) :
    Splits 0 statement (lexemes statement) := by
  simpa [lexemes] using splits_of_lexFrom lexable

variable {position : Nat} {rest : List Char} {found : List PlacedLexeme}

/-- The lexemes of a rest begin in the rest. -/
theorem Splits.le_position (splits : Splits position rest found) :
    ∀ placed ∈ found, position ≤ placed.position := by
  induction splits with
  | nil => simp
  | space _ _ inductionHypothesis =>
      intro placed among
      have later := inductionHypothesis placed among
      omega
  | lexeme _ _ inductionHypothesis =>
      intro placed among
      rcases List.mem_cons.mp among with rfl | among
      · exact Nat.le_refl _
      · have later := inductionHypothesis placed among
        omega

/-- A quote with which no literal begins does not come next. -/
theorem Splits.head?_ne {quote : Char} (splits : Splits position rest found)
    (mark : quote = '"' ∨ quote = '\'')
    (endless : rest.head? = some quote → literalBody? quote rest.tail = none) :
    rest.head? ≠ some quote := by
  intro head
  have scanned : scanLexeme rest = none := by
    obtain ⟨later, rfl⟩ := List.head?_eq_some_iff.mp head
    exact scanLexeme_quote_eq_none mark (endless head)
  cases splits with
  | nil => simp at head
  | space space _ =>
      obtain rfl : _ = quote := by simpa using head
      rcases mark with rfl | rfl <;> simp [isSpace] at space
  | lexeme found _ => simp [scanned] at found

/-! ### Inside literals and comments -/

/-- A literal is a text or a name in backticks. -/
def PlacedLexeme.isLiteral (placed : PlacedLexeme) : Bool :=
  match placed.lexeme with
  | .token (.text _) => true
  | .token (.identifier _) => placed.written.head? == some backtick
  | _ => false

def PlacedLexeme.isComment (placed : PlacedLexeme) : Bool :=
  match placed.lexeme with
  | .dropped => placed.written.head? == some '-'
  | _ => false

theorem isLiteral_of_passes {token : Token} {written : List Char}
    (other : ∀ content, token ≠ .text content) (passes : Passes written rest) :
    PlacedLexeme.isLiteral ⟨.token token, position, written⟩ = false := by
  cases token with
  | text content => exact absurd rfl (other content)
  | identifier name =>
      cases written with
      | nil => rfl
      | cons first written =>
          have tick : first ≠ backtick := by
            rintro rfl
            exact absurd passes.1 (by decide)
          simpa [PlacedLexeme.isLiteral] using tick
  | _ => rfl

/-- The place is strictly between the quotes of a literal. -/
def InsideLiteral (found : List PlacedLexeme) (place : Nat) : Prop :=
  ∃ placed ∈ found, placed.isLiteral = true ∧ placed.position < place ∧
    place + 1 < placed.position + placed.written.length

/-- The place belongs to a comment. -/
def InsideComment (found : List PlacedLexeme) (place : Nat) : Prop :=
  ∃ placed ∈ found, placed.isComment = true ∧ placed.position ≤ place ∧
    place < placed.position + placed.written.length

instance (found : List PlacedLexeme) (place : Nat) : Decidable (InsideLiteral found place) :=
  inferInstanceAs (Decidable (∃ placed ∈ found, placed.isLiteral = true ∧
    placed.position < place ∧ place + 1 < placed.position + placed.written.length))

instance (found : List PlacedLexeme) (place : Nat) : Decidable (InsideComment found place) :=
  inferInstanceAs (Decidable (∃ placed ∈ found, placed.isComment = true ∧
    placed.position ≤ place ∧ place < placed.position + placed.written.length))

/-- Where the literals begin, and how long they are with their quotes. -/
def literalSpans (found : List PlacedLexeme) : List (Nat × Nat) :=
  (found.filter (·.isLiteral)).map fun placed => (placed.position, placed.written.length)

theorem insideLiteral_iff {place : Nat} :
    InsideLiteral found place ↔
      ∃ span ∈ literalSpans found, span.1 < place ∧ place + 1 < span.1 + span.2 := by
  constructor
  · rintro ⟨placed, among, literal, inside⟩
    exact ⟨_, List.mem_map.mpr ⟨placed, List.mem_filter.mpr ⟨among, literal⟩, rfl⟩, inside⟩
  · rintro ⟨span, among, inside⟩
    obtain ⟨placed, kept, rfl⟩ := List.mem_map.mp among
    obtain ⟨among, literal⟩ := List.mem_filter.mp kept
    exact ⟨placed, among, literal, inside⟩

section Cons

variable {placed : PlacedLexeme} {place : Nat}

theorem insideLiteral_cons_of_after (after : placed.position + placed.written.length ≤ place) :
    InsideLiteral (placed :: found) place ↔ InsideLiteral found place := by
  simp only [InsideLiteral, List.mem_cons, exists_eq_or_imp, or_iff_right_iff_imp]
  rintro ⟨-, -, before⟩
  omega

theorem insideComment_cons_of_after (after : placed.position + placed.written.length ≤ place) :
    InsideComment (placed :: found) place ↔ InsideComment found place := by
  simp only [InsideComment, List.mem_cons, exists_eq_or_imp, or_iff_right_iff_imp]
  rintro ⟨-, -, before⟩
  omega

theorem insideLiteral_cons_of_before (before : ∀ later ∈ found, place < later.position) :
    InsideLiteral (placed :: found) place ↔
      placed.isLiteral = true ∧ placed.position < place ∧
        place + 1 < placed.position + placed.written.length := by
  simp only [InsideLiteral, List.mem_cons, exists_eq_or_imp, or_iff_left_iff_imp]
  rintro ⟨later, among, -, inside, -⟩
  have bound := before later among
  omega

theorem insideComment_cons_of_before (before : ∀ later ∈ found, place < later.position) :
    InsideComment (placed :: found) place ↔
      placed.isComment = true ∧ placed.position ≤ place ∧
        place < placed.position + placed.written.length := by
  simp only [InsideComment, List.mem_cons, exists_eq_or_imp, or_iff_left_iff_imp]
  rintro ⟨later, among, -, inside, -⟩
  have bound := before later among
  omega

end Cons

/-- The character that a place shows when literals and comments are painted over. -/
def painted (ink shade : Char → Char) (found : List PlacedLexeme) (place : Nat)
    (character : Char) : Char :=
  if InsideLiteral found place then ink character
  else if InsideComment found place then shade character
  else character

def paintFrom (ink shade : Char → Char) (found : List PlacedLexeme) (position : Nat) :
    List Char → List Char
  | [] => []
  | first :: rest =>
      painted ink shade found position first :: paintFrom ink shade found (position + 1) rest

section Paint

variable {ink shade : Char → Char}

@[simp]
theorem getElem?_paintFrom (characters : List Char) (place : Nat) :
    (paintFrom ink shade found position characters)[place]? =
      characters[place]?.map (painted ink shade found (position + place)) := by
  induction characters generalizing position place with
  | nil => simp [paintFrom]
  | cons first rest inductionHypothesis =>
      cases place with
      | zero => simp [paintFrom]
      | succ place => simp [paintFrom, inductionHypothesis, Nat.add_assoc, Nat.add_comm 1]

@[simp]
theorem length_paintFrom (characters : List Char) :
    (paintFrom ink shade found position characters).length = characters.length := by
  induction characters generalizing position with
  | nil => rfl
  | cons first rest inductionHypothesis => simp [paintFrom, inductionHypothesis]

theorem paintFrom_append (characters more : List Char) :
    paintFrom ink shade found position (characters ++ more) =
      paintFrom ink shade found position characters ++
        paintFrom ink shade found (position + characters.length) more := by
  induction characters generalizing position with
  | nil => rfl
  | cons first rest inductionHypothesis =>
      simp [paintFrom, inductionHypothesis, Nat.add_assoc, Nat.add_comm 1]

/-- Where every place is painted in one way, so are the characters. -/
theorem paintFrom_eq_map {characters : List Char} {paint : Char → Char}
    (same : ∀ place character, position ≤ place → place < position + characters.length →
      painted ink shade found place character = paint character) :
    paintFrom ink shade found position characters = characters.map paint := by
  induction characters generalizing position with
  | nil => rfl
  | cons first rest inductionHypothesis =>
      have here := same position first (Nat.le_refl _) (by simp)
      have later : paintFrom ink shade found (position + 1) rest = rest.map paint :=
        inductionHypothesis fun place character above below =>
          same place character (by omega) (by rw [List.length_cons]; omega)
      rw [paintFrom, here, later, List.map_cons]

@[simp]
theorem paintFrom_id (characters : List Char) :
    paintFrom id id found position characters = characters := by
  have same : paintFrom id id found position characters = characters.map id := by
    apply paintFrom_eq_map
    intro place character above below
    simp [painted]
  simpa using same

/-- A lexeme that ends before the characters begin does not count. -/
theorem paintFrom_cons_of_after {placed : PlacedLexeme} {characters : List Char}
    (before : placed.position + placed.written.length ≤ position) :
    paintFrom ink shade (placed :: found) position characters =
      paintFrom ink shade found position characters := by
  induction characters generalizing position with
  | nil => rfl
  | cons first rest inductionHypothesis =>
      have literal : InsideLiteral (placed :: found) position ↔ InsideLiteral found position :=
        insideLiteral_cons_of_after before
      have comment : InsideComment (placed :: found) position ↔ InsideComment found position :=
        insideComment_cons_of_after before
      have later : paintFrom ink shade (placed :: found) (position + 1) rest =
          paintFrom ink shade found (position + 1) rest :=
        inductionHypothesis (by omega)
      simp only [paintFrom, painted, literal, comment, later]

theorem painted_of_before {place : Nat} (before : ∀ later ∈ found, place < later.position)
    (character : Char) : painted ink shade found place character = character := by
  have literal : ¬ InsideLiteral found place := by
    rintro ⟨placed, among, -, above, -⟩
    have bound := before placed among
    omega
  have comment : ¬ InsideComment found place := by
    rintro ⟨placed, among, -, above, -⟩
    have bound := before placed among
    omega
  simp [painted, literal, comment]

/-! What a lexeme is painted with, if the lexemes after it begin where it ends. -/

section Placed

variable {placed : PlacedLexeme}
  (before : ∀ later ∈ found, placed.position + placed.written.length ≤ later.position)

include before

theorem painted_cons (place : Nat) (character : Char)
    (above : placed.position ≤ place) (below : place < placed.position + placed.written.length) :
    painted ink shade (placed :: found) place character =
      if placed.isLiteral = true ∧ placed.position < place ∧
          place + 1 < placed.position + placed.written.length then ink character
      else if placed.isComment = true then shade character
      else character := by
  have early : ∀ later ∈ found, place < later.position := by
    intro later among
    have bound := before later among
    omega
  simp [painted, insideLiteral_cons_of_before early, insideComment_cons_of_before early, above,
    below]

theorem paintFrom_of_other (literal : placed.isLiteral = false)
    (comment : placed.isComment = false) :
    paintFrom ink shade (placed :: found) placed.position placed.written = placed.written := by
  have same : paintFrom ink shade (placed :: found) placed.position placed.written =
      placed.written.map id := by
    apply paintFrom_eq_map
    intro place character above below
    simp [painted_cons before place character above below, literal, comment]
  simpa using same

theorem paintFrom_of_comment (literal : placed.isLiteral = false)
    (comment : placed.isComment = true) :
    paintFrom ink shade (placed :: found) placed.position placed.written =
      placed.written.map shade := by
  apply paintFrom_eq_map
  intro place character above below
  simp [painted_cons before place character above below, literal, comment]

/-- The quotes of a literal stay as they are. -/
theorem paintFrom_of_literal {quote : Char} {body : List Char}
    (literal : placed.isLiteral = true) (comment : placed.isComment = false)
    (written : placed.written = quote :: (body ++ [quote])) :
    paintFrom ink shade (placed :: found) placed.position placed.written =
      quote :: (body.map ink ++ [quote]) := by
  have length : placed.written.length = body.length + 2 := by simp [written]
  have inside : paintFrom ink shade (placed :: found) (placed.position + 1) body =
      body.map ink := by
    apply paintFrom_eq_map
    intro place character above below
    have early : placed.position < place := by omega
    have late : place + 1 < placed.position + placed.written.length := by omega
    simp [painted_cons before place character (by omega) (by omega), literal, early, late]
  have opening : painted ink shade (placed :: found) placed.position quote = quote := by
    simp [painted_cons before placed.position quote (by omega) (by omega), comment]
  have closing : painted ink shade (placed :: found) (placed.position + 1 + body.length) quote =
      quote := by
    have late : ¬ placed.position + 1 + body.length + 1 <
        placed.position + placed.written.length := by omega
    simp [painted_cons before (placed.position + 1 + body.length) quote (by omega) (by omega),
      comment, late]
  rw [written, paintFrom, paintFrom_append, opening, inside, paintFrom, closing, paintFrom]

end Placed

theorem not_insideLiteral_of_splits {characters : List Char}
    (splits : Splits position characters found) : ¬ InsideLiteral found position := by
  rintro ⟨placed, among, -, before, -⟩
  have bound := splits.le_position placed among
  omega

/-- Nothing is painted at the beginning but a comment. -/
theorem head?_paintFrom {characters : List Char} (splits : Splits position characters found) :
    (paintFrom ink id found position characters).head? = characters.head? := by
  cases characters with
  | nil => rfl
  | cons first rest => simp [paintFrom, painted, not_insideLiteral_of_splits splits]

/-- Painting does not let go on what stops. -/
theorem stops_paintFrom {characters : List Char} (splits : Splits position characters found)
    {test : Char → Bool} (shaded : ∀ character, test (shade character) = false)
    (stops : Stops test characters) :
    Stops test (paintFrom ink shade found position characters) := by
  cases characters with
  | nil => exact stops_nil test
  | cons first rest =>
      rw [paintFrom, stops_cons, painted, if_neg (not_insideLiteral_of_splits splits)]
      split
      · exact shaded first
      · exact (stops_cons _ _ _).mp stops

end Paint

end GridQuery.Statement
