import GridQuery.Moment.Reader
import GridQuery.Proofs.Statement.Lexemes
import GridQuery.Proofs.Statement.Tokens

/-!
# Runs of digits

A text whose runs of digits are no longer than a numeral may be stays so however it is cut,
and when its escapes are resolved. No number in such a text has too many digits to be read.
-/

namespace GridQuery

/-- No run of digits is longer than the longest numeral that is read as an integer. -/
def ShortRuns (characters : List Char) : Prop :=
  ∀ run, run <:+: characters → (∀ digit ∈ run, Text.isDigit digit = true) →
    run.length ≤ Numeral.digitLimit

variable {characters whole : List Char}

theorem ShortRuns.within (short : ShortRuns whole) (part : characters <:+: whole) :
    ShortRuns characters :=
  fun run inside digits => short run (inside.trans part) digits

/-- A text as long as the longest numeral, or shorter, has no run that is too long. -/
theorem shortRuns_of_length (limited : characters.length ≤ Numeral.digitLimit) :
    ShortRuns characters :=
  fun _ inside _ => Nat.le_trans inside.length_le limited

theorem ShortRuns.length_scanDigits (short : ShortRuns characters) :
    (Numeral.scanDigits characters).1.length ≤ Numeral.digitLimit := by
  obtain ⟨digits, split, all, length⟩ := scanDigits_split characters
  rw [← length]
  exact short digits ⟨[], (Numeral.scanDigits characters).2, split.symm⟩ all

theorem isInfix_scanDigits (characters : List Char) :
    (Numeral.scanDigits characters).2 <:+: characters := by
  obtain ⟨digits, split, -⟩ := scanDigits_split characters
  exact List.IsSuffix.isInfix ⟨digits, split.symm⟩

theorem isInfix_trimList (characters : List Char) : Text.trimList characters <:+: characters := by
  have front := (List.dropWhile_suffix Text.isBlank (l := characters)).isInfix
  have back := List.dropWhile_suffix Text.isBlank (l := (characters.dropWhile Text.isBlank).reverse)
  refine List.IsInfix.trans ?_ front
  rw [← List.reverse_infix, Text.trimList, List.reverse_reverse]
  exact back.isInfix

/-! ### Dates -/

namespace Moment

theorem length_of_scanArguments {count : Nat} {arguments : List (List Nat)}
    (scanned : scanArguments count characters = some arguments) (short : ShortRuns characters) :
    ∀ values ∈ arguments, values.length ≤ Numeral.digitLimit := by
  induction count generalizing characters arguments with
  | zero => simp [scanArguments] at scanned
  | succ count inductionHypothesis =>
      have limited := short.length_scanDigits
      have inside := isInfix_scanDigits characters
      unfold scanArguments at scanned
      split at scanned
      · simp at scanned
      · next values _ shape =>
          obtain rfl := Option.some.inj scanned
          simpa [shape] using limited
      · next values rest _ shape =>
          obtain ⟨later, found, rfl⟩ := Option.map_eq_some_iff.mp scanned
          rw [shape] at limited inside
          have shortRest := short.within ((List.suffix_cons ',' rest).isInfix.trans inside)
          exact List.forall_mem_cons.mpr ⟨limited, inductionHypothesis found shortRest⟩
      · simp at scanned

/-- Without a run of too many digits, all that can be wrong with the look of a date is that a
number in it is past what the calendar counts with. -/
theorem fault_of_read {content : String} {fault : DataFault}
    (failed : Moment.read content = .error fault) (short : ShortRuns content.toList) :
    fault = .outOfRange := by
  have trimmed := short.within (isInfix_trimList content.toList)
  unfold Moment.read at failed
  dsimp only at failed
  split at failed
  · next arguments found =>
      have limited : ∀ values ∈ arguments, values.length ≤ Numeral.digitLimit := by
        simp only [dialectArguments?, Option.ite_none_right_eq_some] at found
        obtain ⟨-, found⟩ := found
        split at found
        · next scanned =>
            obtain ⟨-, same⟩ := Option.ite_none_right_eq_some.mp found
            obtain rfl := Option.some.inj same
            exact length_of_scanArguments scanned (trimmed.within (List.drop_suffix 5 _).isInfix)
        · simp at found
      unfold ofDialect at failed
      split at failed
      · next long =>
          obtain ⟨values, among, tooMany⟩ := List.any_eq_true.mp long
          have short := limited values (List.mem_of_mem_take among)
          exact absurd short (Nat.not_le.mpr (of_decide_eq_true tooMany))
      · split at failed
        · dsimp only at failed
          split at failed
          · exact (Except.error.inj failed).symm
          · simp at failed
        · simp at failed
  · simp at failed

end Moment

namespace Statement

/-! ### Tokens -/

theorem scan_whole_eq {numeral : Numeral} {rest : List Char}
    (scanned : Numeral.scan characters = some (numeral, rest)) :
    numeral.whole = (Numeral.scanDigits characters).1 := by
  unfold Numeral.scan at scanned
  split at scanned
  · next shape =>
      split at scanned
      · simp at scanned
      · obtain ⟨rfl, -⟩ := Prod.mk.inj (Option.some.inj scanned)
        rw [shape]
  · simp at scanned
  · next shape =>
      obtain ⟨rfl, -⟩ := Prod.mk.inj (Option.some.inj scanned)
      rw [shape]
  · next shape =>
      obtain ⟨rfl, -⟩ := Prod.mk.inj (Option.some.inj scanned)
      rw [shape]

theorem scanNumeral_ne_error (short : ShortRuns characters) (fault : DataFault) :
    scanNumeral characters ≠ some (.error fault) := by
  intro failed
  simp only [scanNumeral, Option.bind_eq_bind, Option.bind_eq_some_iff] at failed
  obtain ⟨⟨numeral, rest⟩, scanned, failed⟩ := failed
  have limited := short.length_scanDigits
  rw [← scan_whole_eq scanned] at limited
  split at failed
  · simp at failed
  · split at failed
    · next tooMany => exact absurd limited (Nat.not_le.mpr tooMany)
    · simp at failed

theorem scanLexeme_ne_error (short : ShortRuns characters) (fault : DataFault) :
    scanLexeme characters ≠ some (.error fault) := by
  have number := scanNumeral_ne_error short fault
  simp [scanLexeme, Option.or_eq_some_iff, number]

theorem isDigit_of_escaped? {mark character : Char} (found : escaped? mark = some character) :
    Text.isDigit character = false := by
  obtain ⟨before, after, split, -⟩ := List.lookup_eq_some_iff.mp found
  have all : ∀ escape ∈ before ++ (mark, character) :: after,
      Text.isDigit escape.2 = false := by
    rw [← split]
    decide
  exact all (mark, character) (by simp)

/-- A run of digits does not go on from a character that is none. -/
theorem eq_nil_of_prefix {run rest : List Char} {first : Char}
    (front : run <+: first :: rest) (digits : ∀ digit ∈ run, Text.isDigit digit = true)
    (other : Text.isDigit first = false) : run = [] := by
  cases run with
  | nil => rfl
  | cons digit run =>
      obtain ⟨rfl, -⟩ := List.cons_prefix_cons.mp front
      exact absurd (digits digit List.mem_cons_self) (by simp [other])

/-- No escape stands for a digit: a run of digits at the front of what a literal stands for is
at the front of the literal as written. -/
theorem prefix_of_unescape {quote : Char} (mark : Text.isDigit quote = false) {run : List Char}
    (front : run <+: unescape (some quote) characters)
    (digits : ∀ digit ∈ run, Text.isDigit digit = true) : run <+: characters := by
  fun_induction unescape (some quote) characters generalizing run with
  | case1 => exact front
  | case2 last => exact front
  | case3 first second rest slash character found inductionHypothesis =>
      obtain rfl := eq_nil_of_prefix front digits (isDigit_of_escaped? found)
      exact List.nil_prefix
  | case4 first second rest slash none inductionHypothesis =>
      obtain rfl : first = '\\' := by simpa using slash
      obtain rfl := eq_nil_of_prefix front digits (by decide)
      exact List.nil_prefix
  | case5 first second rest other doubled inductionHypothesis =>
      obtain ⟨rfl, -⟩ : first = quote ∧ second = first := by simpa using doubled
      obtain rfl := eq_nil_of_prefix front digits mark
      exact List.nil_prefix
  | case6 first second rest other single inductionHypothesis =>
      cases run with
      | nil => exact List.nil_prefix
      | cons digit run =>
          obtain ⟨rfl, later⟩ := List.cons_prefix_cons.mp front
          obtain ⟨-, digits⟩ := List.forall_mem_cons.mp digits
          exact List.cons_prefix_cons.mpr ⟨rfl, inductionHypothesis later digits⟩

theorem cons_prefix_of_unescape {quote : Char} (mark : Text.isDigit quote = false)
    {first : Char} {run : List Char} (front : run <+: first :: unescape (some quote) characters)
    (digits : ∀ digit ∈ run, Text.isDigit digit = true) : run <+: first :: characters := by
  cases run with
  | nil => exact List.nil_prefix
  | cons digit run =>
      obtain ⟨rfl, later⟩ := List.cons_prefix_cons.mp front
      obtain ⟨-, digits⟩ := List.forall_mem_cons.mp digits
      exact List.cons_prefix_cons.mpr ⟨rfl, prefix_of_unescape mark later digits⟩

theorem infix_of_unescape {quote : Char} (mark : Text.isDigit quote = false) {run : List Char}
    (inside : run <:+: unescape (some quote) characters)
    (digits : ∀ digit ∈ run, Text.isDigit digit = true) : run <:+: characters := by
  fun_induction unescape (some quote) characters with
  | case1 => exact inside
  | case2 last => exact inside
  | case3 first second rest slash character found inductionHypothesis =>
      rcases List.infix_cons_iff.mp inside with front | later
      · obtain rfl := eq_nil_of_prefix front digits (isDigit_of_escaped? found)
        exact List.nil_infix
      · exact (inductionHypothesis later).trans (List.suffix_append [first, second] rest).isInfix
  | case4 first second rest slash none inductionHypothesis =>
      obtain rfl : first = '\\' := by simpa using slash
      rcases List.infix_cons_iff.mp inside with front | inside
      · obtain rfl := eq_nil_of_prefix front digits (by decide)
        exact List.nil_infix
      apply List.infix_cons
      rcases List.infix_cons_iff.mp inside with front | later
      · exact (cons_prefix_of_unescape mark front digits).isInfix
      · exact List.infix_cons (inductionHypothesis later)
  | case5 first second rest other doubled inductionHypothesis =>
      obtain ⟨rfl, -⟩ : first = quote ∧ second = first := by simpa using doubled
      rcases List.infix_cons_iff.mp inside with front | later
      · obtain rfl := eq_nil_of_prefix front digits mark
        exact List.nil_infix
      · exact (inductionHypothesis later).trans (List.suffix_append [first, second] rest).isInfix
  | case6 first second rest other single inductionHypothesis =>
      rcases List.infix_cons_iff.mp inside with front | later
      · exact (cons_prefix_of_unescape mark front digits).isInfix
      · exact List.infix_cons (inductionHypothesis later)

/-- A text, if the token is one, has no run of digits that is too long. -/
def Token.ShortRuns : Token → Prop
  | text content => GridQuery.ShortRuns content.toList
  | _ => True

def Lexeme.ShortRuns : Lexeme → Prop
  | token found => found.ShortRuns
  | dropped => True

theorem shortRuns_of_scanLiteral {scanned : Scanned} (short : ShortRuns characters)
    (found : scanLiteral characters = some scanned) : scanned.1.ShortRuns := by
  unfold scanLiteral at found
  split at found
  · next quote rest =>
      obtain ⟨marked, found⟩ := Option.ite_none_right_eq_some.mp found
      obtain ⟨body, literal, rfl⟩ := Option.map_eq_some_iff.mp found
      obtain ⟨after, rfl, -⟩ := literalBody?_split literal
      have mark : Text.isDigit quote = false := by
        have one : quote = '"' ∨ quote = '\'' := by simpa using marked
        rcases one with rfl | rfl <;> decide
      have inside : ShortRuns body := short.within ⟨[quote], quote :: after, by simp⟩
      intro run among digits
      rw [String.toList_ofList] at among
      exact inside run (infix_of_unescape mark among digits) digits
  · simp at found

theorem shortRuns_of_scanLexeme {scanned : Scanned} (short : ShortRuns characters)
    (found : scanLexeme characters = some (.ok scanned)) : scanned.1.ShortRuns := by
  obtain ⟨lexeme, length⟩ := scanned
  obtain ⟨written, rest, rfl, -, shape⟩ := scanLexeme_takes found
  cases shape with
  | literal content mark body last =>
      rw [List.cons_append, scanLexeme_quote mark] at found
      obtain ⟨literal, scanned, same⟩ := Option.map_eq_some_iff.mp found
      obtain rfl := Except.ok.inj same
      exact shortRuns_of_scanLiteral short scanned
  | @passing token _ _ other _ _ _ =>
      cases token with
      | text content => exact absurd rfl (other content)
      | _ => trivial
  | _ => trivial

/-- A text without runs of too many digits is cut into tokens without them, and no numeral
stops the cutting. -/
theorem shortRuns_lexFrom (position skipped : Nat) (short : ShortRuns characters) :
    (∀ placed ∈ (lexFrom position skipped characters).tokens, placed.token.ShortRuns) ∧
      ∀ error ∈ (lexFrom position skipped characters).fault,
        ∃ cause, error = .statement cause := by
  induction characters generalizing position skipped with
  | nil => simp [lexFrom]
  | cons first rest inductionHypothesis =>
      have shortRest := short.within (List.suffix_cons first rest).isInfix
      have later (position skipped : Nat) := inductionHypothesis position skipped shortRest
      unfold lexFrom
      split
      · exact later _ _
      · split
        · exact later _ _
        · split
          · simp
          · next fault failed => exact absurd failed (scanLexeme_ne_error short fault)
          · exact later _ _
          · next token length scanned =>
              obtain ⟨tokens, fault⟩ := later (position + 1) (length - 1)
              exact ⟨List.forall_mem_cons.mpr ⟨shortRuns_of_scanLexeme short scanned, tokens⟩,
                fault⟩

end Statement

end GridQuery
