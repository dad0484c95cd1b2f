import GridQuery.Proofs.Statement.Mask
import GridQuery.Proofs.Statement.Printer
import GridQuery.Proofs.Statement.Yields
import GridQuery.Statement.Reader
import Mathlib.Data.List.TakeWhile

/-!
# The verb of a statement

What the grammar takes begins with its verb, and the scan for the verb finds it there, whatever
its case and whatever blanks and comments stand before it. So a statement that parses is read.
-/

namespace GridQuery.Statement

/-- What a statement does. -/
def verb : Statement → String
  | .select _ => "SELECT"
  | .change (.insert _) => "INSERT"
  | .change (.update _) => "UPDATE"
  | .change (.delete _) => "DELETE"

theorem verb_mem_verbs (statement : Statement) : verbs.contains statement.verb = true := by
  rcases statement with query | (query | query | query) <;> rfl

/-! ### Words in any case -/

/-- The keywords that a statement begins with. -/
def verbKeywords : List Keyword := [.SELECT, .INSERT, .UPDATE, .DELETE]

theorem toNat_of_isNameChar {character : Char} (named : isNameChar character = true) :
    character.toNat < 128 := by
  rw [isNameChar, Bool.or_eq_true, beq_iff_eq] at named
  rcases named with alphanumeric | rfl
  · have bounds := toNat_of_isAlphanum alphanumeric
    omega
  · decide

/-- In lower case a letter stays the same letter, and what was none becomes none. -/
theorem lowerChar_of_isNameChar {character : Char} (named : isNameChar character = true) :
    (Text.lowerChar character).toUpper = character.toUpper ∧
      isNameStart (Text.lowerChar character) = isNameStart character := by
  have each : ∀ code < 128, isNameChar (Char.ofNat code) = true →
      (Text.lowerChar (Char.ofNat code)).toUpper = (Char.ofNat code).toUpper ∧
        isNameStart (Text.lowerChar (Char.ofNat code)) = isNameStart (Char.ofNat code) := by
    decide +kernel
  have found := each character.toNat (toNat_of_isNameChar named)
  rw [Char.ofNat_toNat] at found
  exact found named

theorem lowerAfter_of_isNameChar {characters : List Char}
    (named : ∀ character ∈ characters, isNameChar character = true) (before : List Char) :
    Text.lowerAfter before characters = characters.map Text.lowerChar := by
  induction characters generalizing before with
  | nil => rfl
  | cons first rest inductionHypothesis =>
      obtain ⟨here, later⟩ := List.forall_mem_cons.mp named
      have other (mark : Char) (above : 128 ≤ mark.toNat) : (first == mark) = false := by
        have bound := toNat_of_isNameChar here
        rw [beq_eq_false_iff_ne]
        rintro rfl
        omega
      simp [Text.lowerAfter, other 'Σ' (by decide), other 'İ' (by decide),
        inductionHypothesis later]

/-- A word that is the keyword of a verb is the verb, in upper case. -/
theorem upper_of_ofWord? {letters : List Char} {verb : Keyword}
    (named : ∀ character ∈ letters, isNameChar character = true)
    (known : Keyword.ofWord? (String.ofList letters) = some verb) (among : verb ∈ verbKeywords) :
    (∀ character ∈ letters, isNameStart character = true) ∧
      letters.map Char.toUpper = verb.letters := by
  have lowered : (Text.lower (String.ofList letters)).toList = letters.map Text.lowerChar := by
    rw [Text.lower, String.toList_ofList, String.toList_ofList, lowerAfter_of_isNameChar named]
  obtain ⟨before, after, split, -⟩ := List.lookup_eq_some_iff.mp known
  have each : ∀ spelling ∈ Keyword.spellings, spelling.2 ∈ verbKeywords →
      spelling.1.toList.all isNameStart = true ∧
        spelling.1.toList.map Char.toUpper = spelling.2.letters := by
    decide
  have spelled := each (Text.lower (String.ofList letters), verb) (by rw [split]; simp) among
  rw [lowered, List.map_map] at spelled
  obtain ⟨starts, raised⟩ := spelled
  constructor
  · intro character inLetters
    rw [← (lowerChar_of_isNameChar (named character inLetters)).2]
    exact List.all_eq_true.mp starts _ (List.mem_map_of_mem inLetters)
  · have same : letters.map Char.toUpper = letters.map (Char.toUpper ∘ Text.lowerChar) :=
      List.map_congr_left fun character inLetters =>
        (lowerChar_of_isNameChar (named character inLetters)).1.symm
    exact same.trans raised

/-! ### Keywords among the lexemes -/

theorem scanWord_eq_keyword {characters : List Char} {keyword : Keyword} {word : String}
    {length : Nat} (found : scanWord characters = some (.token (.keyword keyword word), length)) :
    Keyword.ofWord? word = some keyword ∧ word = String.ofList (characters.takeWhile isNameChar) ∧
      length = (characters.takeWhile isNameChar).length := by
  unfold scanWord at found
  split at found
  · next first rest =>
      simp only [Option.ite_none_right_eq_some, Option.some.injEq, Prod.mk.injEq,
        Lexeme.token.injEq] at found
      obtain ⟨start, same, rfl⟩ := found
      rw [List.takeWhile_cons_of_pos (isNameChar_of_isNameStart start)]
      split at same
      · next known =>
          cases same
          exact ⟨known, rfl, rfl⟩
      · cases same
  · cases found

/-- No other kind of lexeme is a keyword. -/
theorem scanWord_of_keyword {characters : List Char} {keyword : Keyword} {word : String}
    {length : Nat}
    (found : scanLexeme characters = some (.ok (.token (.keyword keyword word), length))) :
    scanWord characters = some (.token (.keyword keyword word), length) := by
  cases found_of_scanLexeme found with
  | word found => exact found
  | equality found =>
      unfold scanEquality at found
      split at found <;> simp at found
  | tableRef found =>
      unfold scanTableRef at found
      split at found <;> simp at found
  | range found =>
      unfold scanRange at found
      simp only [Option.bind_eq_bind] at found
      split at found
      · simp at found
      · split at found <;> simp [Option.bind_eq_some_iff] at found
  | numeral found =>
      simp only [scanNumeral, Option.bind_eq_bind, Option.bind_eq_some_iff] at found
      obtain ⟨⟨numeral, rest⟩, -, found⟩ := found
      split at found
      · simp at found
      · split at found <;> simp at found
  | literal found =>
      unfold scanLiteral at found
      split at found
      · split at found <;> simp at found
      · simp at found
  | quotedName found =>
      unfold scanQuotedName at found
      split at found <;> simp at found
  | dropped found =>
      unfold scanDropped at found
      split at found <;> simp at found
  | symbol _ found =>
      unfold scanSymbol at found
      split at found <;> simp at found

/-- A keyword is a word up to where it ends. -/
theorem written_of_keyword {written rest : List Char} {keyword : Keyword} {word : String}
    (found : scanLexeme (written ++ rest) =
      some (.ok (.token (.keyword keyword word), written.length))) :
    Keyword.ofWord? word = some keyword ∧ word = String.ofList written ∧
      (∀ character ∈ written, isNameChar character = true) ∧ Stops isNameChar rest := by
  obtain ⟨known, spelled, length⟩ := scanWord_eq_keyword (scanWord_of_keyword found)
  have split := List.takeWhile_append_dropWhile (p := isNameChar) (l := written ++ rest)
  obtain ⟨taken, left⟩ := List.append_inj split length.symm
  rw [taken] at spelled
  refine ⟨known, spelled, ?_, ?_⟩
  · rw [← taken]
    exact List.all_eq_true.mp List.all_takeWhile
  · rw [← left]
    exact stops_dropWhile isNameChar _

/-! ### The first word -/

theorem isBlank_of_isSpace {character : Char} (space : isSpace character = true) :
    Text.isBlank character = true := by
  simp only [isSpace, Bool.or_eq_true, beq_iff_eq] at space
  rcases space with (rfl | rfl) | rfl <;> decide

theorem isBlank_of_isNameStart {character : Char} (start : isNameStart character = true) :
    Text.isBlank character = false := by
  have bounds := toNat_of_isNameStart start
  exact isBlank_eq_false_of_toNat (by omega) (by omega)

/-- Where the first token is a keyword, the scan for a verb finds its letters behind the
blanks, and comments are blanks to it. -/
theorem firstWord_of_splits {position : Nat} {characters : List Char}
    {found : List PlacedLexeme} (splits : Splits position characters found) (ink : Char → Char)
    {verb : Keyword} {word : String} {place : Nat} {later : List PlacedToken}
    (begins : found.filterMap PlacedLexeme.token? = ⟨.keyword verb word, place⟩ :: later)
    (among : verb ∈ verbKeywords) :
    ∃ letters, word = String.ofList letters ∧ letters ≠ [] ∧ letters ⊆ characters ∧
      letters.map Char.toUpper = verb.letters ∧
      (∀ character ∈ letters, isNameStart character = true) ∧
      ((paintFrom ink (fun _ => ' ') found position characters).dropWhile
        Text.isBlank).takeWhile isNameStart = letters := by
  induction splits with
  | nil => cases begins
  | @space position first rest found space splits inductionHypothesis =>
      obtain ⟨letters, spelled, nonempty, inside, raised, starts, taken⟩ :=
        inductionHypothesis begins
      have before : ∀ later ∈ found, position < later.position := splits.le_position
      refine ⟨letters, spelled, nonempty, List.subset_cons_of_subset first inside, raised,
        starts, ?_⟩
      rw [paintFrom, painted_of_before before,
        List.dropWhile_cons_of_pos (isBlank_of_isSpace space), taken]
  | @lexeme position lexeme written rest found scanned splits inductionHypothesis =>
      have before := splits.le_position
      rw [paintFrom_append, paintFrom_cons_of_after (Nat.le_refl _)]
      cases lexeme with
      | dropped =>
          obtain ⟨letters, spelled, nonempty, inside, raised, starts, taken⟩ :=
            inductionHypothesis begins
          refine ⟨letters, spelled, nonempty, List.subset_append_of_subset_right written inside,
            raised, starts, ?_⟩
          have blank : ∀ character ∈ paintFrom ink (fun _ => ' ')
              (⟨.dropped, position, written⟩ :: found) position written,
              Text.isBlank character = true := by
            cases shape_of_scanLexeme scanned with
            | lineBreak rest =>
                rw [paintFrom_of_other before rfl rfl]
                intro character among
                obtain rfl := List.mem_singleton.mp among
                decide
            | comment without stops =>
                rw [paintFrom_of_comment before rfl rfl]
                intro character painted
                obtain ⟨_, -, rfl⟩ := List.mem_map.mp painted
                decide
          rw [List.dropWhile_append_of_pos blank, taken]
      | token token =>
          obtain ⟨rfl, rfl⟩ : token = .keyword verb word ∧ place = position := by
            have first := (List.cons.inj begins).1
            cases first
            exact ⟨rfl, rfl⟩
          obtain ⟨known, spelled, named, stops⟩ := written_of_keyword scanned
          rw [spelled] at known
          obtain ⟨starts, raised⟩ := upper_of_ofWord? named known among
          have nonempty : written ≠ [] := (shape_of_scanLexeme scanned).ne_nil
          refine ⟨written, spelled, nonempty, List.subset_append_left written rest, raised, starts,
            ?_⟩
          have front : Stops Text.isBlank (written ++ paintFrom ink (fun _ => ' ') found
              (place + written.length) rest) := by
            refine stops_append ?_ nonempty
            intro character head
            exact isBlank_of_isNameStart (starts character (List.mem_of_mem_head? head))
          have ends : Stops isNameStart
              (paintFrom ink (fun _ => ' ') found (place + written.length) rest) :=
            stops_paintFrom splits (fun _ => rfl) (stops.mono fun _ => isNameChar_of_isNameStart)
          rw [paintFrom_of_other before rfl rfl]
          exact (congrArg _ (dropWhile_of_stops front)).trans (takeWhile_append_stops starts ends)

/-! ### Statements that parse -/

variable {text : String} {statement : Statement}

/-- What is read as a statement begins with the keyword of its verb. -/
theorem verb_of_query {placed rest : List PlacedToken}
    (ran : Parser.query placed = .ok (statement, rest)) :
    ∃ verb word place later, placed = ⟨.keyword verb word, place⟩ :: later ∧
      verb ∈ verbKeywords ∧ statement.verb = String.ofList verb.letters := by
  cases placed with
  | nil => cases ran
  | cons first later =>
      obtain ⟨token, place⟩ := first
      cases token with
      | keyword verb word =>
          refine ⟨verb, word, place, later, rfl, ?_⟩
          cases verb with
          | SELECT =>
              change (Parser.selectQuery place >>= fun query => pure (Statement.select query))
                later = _ at ran
              obtain ⟨_, _, -, done⟩ := run_bind_eq_ok ran
              cases done
              exact ⟨by decide, rfl⟩
          | INSERT =>
              change (Parser.insertQuery place >>= fun query =>
                pure (Statement.change (.insert query))) later = _ at ran
              obtain ⟨_, _, -, done⟩ := run_bind_eq_ok ran
              cases done
              exact ⟨by decide, rfl⟩
          | UPDATE =>
              change (Parser.updateQuery place >>= fun query =>
                pure (Statement.change (.update query))) later = _ at ran
              obtain ⟨_, _, -, done⟩ := run_bind_eq_ok ran
              cases done
              exact ⟨by decide, rfl⟩
          | DELETE =>
              change (Parser.deleteQuery place >>= fun query =>
                pure (Statement.change (.delete query))) later = _ at ran
              obtain ⟨_, _, -, done⟩ := run_bind_eq_ok ran
              cases done
              exact ⟨by decide, rfl⟩
          | _ => cases ran
      | _ => cases ran

theorem verb_of_run {placed rest : List PlacedToken}
    (ran : Parser.statement placed = .ok (statement, rest)) :
    ∃ verb word place later, placed = ⟨.keyword verb word, place⟩ :: later ∧
      verb ∈ verbKeywords ∧ statement.verb = String.ofList verb.letters := by
  obtain ⟨found, between, read, ended⟩ := run_bind_eq_ok ran
  obtain ⟨_, _, -, ended⟩ := run_bind_eq_ok ended
  obtain ⟨next, _, -, ended⟩ := run_bind_eq_ok ended
  cases next with
  | none =>
      cases ended
      exact verb_of_query read
  | some _ => cases ended

theorem fault_of_parse (parsed : Statement.parse text = .ok statement) :
    (lex text.toList).fault = none ∧
      ∃ rest, Parser.statement (lex text.toList).tokens = .ok (statement, rest) := by
  unfold Statement.parse at parsed
  dsimp only at parsed
  split at parsed
  · cases parsed
  · next found rest ran =>
      split at parsed
      · cases parsed
      · next whole =>
          obtain rfl := Except.ok.inj parsed
          exact ⟨whole, rest, ran⟩

theorem trimList_ne_nil {characters : List Char} {character : Char}
    (among : character ∈ characters) (solid : Text.isBlank character = false) :
    Text.trimList characters ≠ [] := by
  intro empty
  rw [Text.trimList, List.reverse_eq_nil_iff, List.dropWhile_eq_nil_iff] at empty
  have none : characters.dropWhile Text.isBlank = [] := by
    cases left : characters.dropWhile Text.isBlank with
    | nil => rfl
    | cons first rest =>
        have stops := stops_dropWhile Text.isBlank characters
        have blank := empty first (by simp [left])
        rw [left, stops_cons, blank] at stops
        cases stops
  have blank := List.dropWhile_eq_nil_iff.mp none character among
  rw [blank] at solid
  cases solid

/-- In a text that parses there is something besides blanks, and its verb is found. -/
theorem verb?_of_parse (parsed : Statement.parse text = .ok statement) :
    Text.trimList text.toList ≠ [] ∧ verb? text.toList = .ok (some statement.verb) := by
  obtain ⟨lexable, rest, ran⟩ := fault_of_parse parsed
  obtain ⟨verb, word, place, later, begins, among, called⟩ := verb_of_run ran
  rw [tokens_lex] at begins
  obtain ⟨letters, -, nonempty, inside, raised, starts, taken⟩ :=
    firstWord_of_splits (splits_of_fault_none lexable) (fun _ => '_') begins among
  obtain ⟨first, others, rfl⟩ := List.exists_cons_of_ne_nil nonempty
  constructor
  · exact trimList_ne_nil (inside List.mem_cons_self)
      (isBlank_of_isNameStart (starts first List.mem_cons_self))
  · rw [verb?, mask_of_lexable lexable, called, ← raised]
    simp only [Except.map, taken]

/-- A statement that parses is read: its verb is found. -/
theorem read_of_parse (parsed : Statement.parse text = .ok statement) :
    Statement.read text = .ok statement := by
  obtain ⟨filled, found⟩ := verb?_of_parse parsed
  have solid : (Text.trimList text.toList).isEmpty = false := by simpa using filled
  simp only [Statement.read, solid, found, verb_mem_verbs]
  exact parsed

/-- The check for a verb lets pass what the grammar takes, and finds just the verb of the
statement. -/
theorem read_and_verb_of_parse (parsed : Statement.parse text = .ok statement) :
    Statement.read text = .ok statement ∧ verb? text.toList = .ok (some statement.verb) :=
  ⟨read_of_parse parsed, (verb?_of_parse parsed).2⟩

/-- A verb in mixed case behind a comment and with a quote right after it. -/
theorem noted_read_and_verb :
    ∃ statement, Statement.parse "-- 'update'\n\t sElEcT'delete'" = .ok statement ∧
      Statement.read "-- 'update'\n\t sElEcT'delete'" = .ok statement ∧
      verb? "-- 'update'\n\t sElEcT'delete'".toList = .ok (some "SELECT") := by
  have parsed : Statement.parse "-- 'update'\n\t sElEcT'delete'" =
      .ok (.select {
        items := [.expr (.literal (.text "delete")) none], source := none, joins := []
        filter := none, groupBy := [], having := none, orderBy := [], limit := none
        offset := 0, distinct := false, distinctOn := [], pivot := [], labels := []
        formats := [] }) := by
    rfl
  exact ⟨_, parsed, read_and_verb_of_parse parsed⟩

theorem tableReferences_of_parse (parsed : Statement.parse text = .ok statement) :
    ∃ references, tableReferences text.toList = .ok references := by
  rw [tableReferences, mask_of_lexable (fault_of_parse parsed).1]
  exact ⟨_, rfl⟩

end GridQuery.Statement
