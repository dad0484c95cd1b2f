import GridQuery.Proofs.Statement.Lexing

/-!
# The characters of lexemes

Each lexeme is the characters that it is written in, and those have the shape of its kind: a
literal has no end before its last quote, a comment goes to the end of its line, and in any
other lexeme there is neither a quote nor the beginning of a comment.
-/

namespace GridQuery.Statement

/-! ### Characters outside literals and comments -/

/-- A character with which neither a literal nor a comment begins. -/
def IsPlain (character : Char) : Prop :=
  isQuote character = false ∧ character ≠ '-'

instance (character : Char) : Decidable (IsPlain character) :=
  inferInstanceAs (Decidable (isQuote character = false ∧ character ≠ '-'))

/-- The characters hold no quote, and before the rest none of them begins a comment. -/
def Passes : List Char → List Char → Prop
  | [], _ => True
  | first :: text, rest =>
      isQuote first = false ∧ (first = '-' → (text ++ rest).head? ≠ some '-') ∧ Passes text rest

theorem passes_of_plain {text : List Char} (plain : ∀ character ∈ text, IsPlain character)
    (rest : List Char) : Passes text rest := by
  induction text with
  | nil => trivial
  | cons first text inductionHypothesis =>
      obtain ⟨⟨quote, minus⟩, later⟩ := List.forall_mem_cons.mp plain
      exact ⟨quote, fun equal => absurd equal minus, inductionHypothesis later⟩

theorem Passes.append {text more rest : List Char} (first : Passes text (more ++ rest))
    (later : Passes more rest) : Passes (text ++ more) rest := by
  induction text with
  | nil => exact later
  | cons character text inductionHypothesis =>
      obtain ⟨quote, single, passes⟩ := first
      rw [List.cons_append]
      refine ⟨quote, ?_, inductionHypothesis passes⟩
      rwa [List.append_assoc]

/-- Of the rest only the first character matters. -/
theorem Passes.of_head? {text rest other : List Char} (passes : Passes text rest)
    (same : other.head? = rest.head?) : Passes text other := by
  induction text with
  | nil => trivial
  | cons first text inductionHypothesis =>
      obtain ⟨quote, single, later⟩ := passes
      refine ⟨quote, ?_, inductionHypothesis later⟩
      rwa [List.head?_append, same, ← List.head?_append]

theorem isPlain_of_all {characters : List Char}
    (all : characters.all (decide <| IsPlain ·) = true) :
    ∀ character ∈ characters, IsPlain character := by
  simpa using all

/-- What passes a test that no mark passes is no mark. -/
theorem isPlain_of_test {test : Char → Bool}
    (marks : ['"', '\'', backtick, '-'].any test = false) {character : Char}
    (passed : test character = true) : IsPlain character := by
  have other (mark : Char) (among : mark ∈ ['"', '\'', backtick, '-']) : character ≠ mark := by
    rintro rfl
    exact List.any_eq_false.mp marks character among passed
  refine ⟨?_, other '-' (by simp)⟩
  simp [isQuote, other '"' (by simp), other '\'' (by simp), other backtick (by simp)]

theorem isPlain_of_isNameChar {character : Char} (passed : isNameChar character = true) :
    IsPlain character :=
  isPlain_of_test (by decide) passed

theorem isPlain_of_isNameStart {character : Char} (start : isNameStart character = true) :
    IsPlain character :=
  isPlain_of_isNameChar (isNameChar_of_isNameStart start)

theorem isPlain_of_isDigit {character : Char} (digit : Text.isDigit character = true) :
    IsPlain character :=
  isPlain_of_test (by decide) digit

theorem isPlain_of_mem_takeWhile {test : Char → Bool}
    (plain : ∀ character, test character = true → IsPlain character) {characters : List Char} :
    ∀ character ∈ characters.takeWhile test, IsPlain character :=
  fun character among => plain character (List.all_eq_true.mp List.all_takeWhile _ among)

theorem isPlain_name {first : Char} (start : isNameStart first = true) (rest : List Char) :
    ∀ character ∈ first :: rest.takeWhile isNameChar, IsPlain character :=
  List.forall_mem_cons.mpr
    ⟨isPlain_of_isNameStart start, isPlain_of_mem_takeWhile fun _ => isPlain_of_isNameChar⟩

/-! ### Numerals -/

/-- The characters that numerals are written in. -/
def isNumeralChar (character : Char) : Bool :=
  ['.', 'e', 'E', '-', '+'].contains character || Text.isDigit character

theorem isNumeralChar_of_isDigit {character : Char} (digit : Text.isDigit character = true) :
    isNumeralChar character = true := by
  rw [isNumeralChar, digit, Bool.or_true]

theorem scanSign_split (characters : List Char) :
    ∃ sign, characters = sign ++ (Numeral.scanSign characters).2 ∧
      (sign = [] ∨ sign = ['-'] ∨ sign = ['+']) := by
  unfold Numeral.scanSign
  split
  · exact ⟨['-'], rfl, by simp⟩
  · exact ⟨['+'], rfl, by simp⟩
  · exact ⟨[], rfl, by simp⟩

/-- Digits pass whatever comes after them. -/
theorem passes_digits {digits : List Char} (all : ∀ digit ∈ digits, Text.isDigit digit = true)
    (rest : List Char) : Passes digits rest :=
  passes_of_plain (fun digit among => isPlain_of_isDigit (all digit among)) rest

/-- A sign passes before a digit. -/
theorem passes_sign {sign digits rest : List Char}
    (one : sign = [] ∨ sign = ['-'] ∨ sign = ['+']) (nonempty : digits ≠ [])
    (all : ∀ digit ∈ digits, Text.isDigit digit = true) : Passes sign (digits ++ rest) := by
  obtain ⟨first, digits, rfl⟩ := List.exists_cons_of_ne_nil nonempty
  have plain := isPlain_of_isDigit (all first List.mem_cons_self)
  rcases one with rfl | rfl | rfl
  · trivial
  · exact ⟨by decide, fun _ => by simpa using plain.2, trivial⟩
  · exact passes_of_plain (isPlain_of_all (by decide)) _

/-- Characters of a numeral that pass before the rest. -/
structure InNumeral (written rest : List Char) : Prop where
  passes : Passes written rest
  numeral : ∀ character ∈ written, isNumeralChar character = true

theorem inNumeral_nil (rest : List Char) : InNumeral [] rest := ⟨trivial, by simp⟩

theorem InNumeral.append {text more rest : List Char} (first : InNumeral text (more ++ rest))
    (later : InNumeral more rest) : InNumeral (text ++ more) rest :=
  ⟨first.passes.append later.passes, List.forall_mem_append.mpr ⟨first.numeral, later.numeral⟩⟩

theorem inNumeral_digits {digits : List Char}
    (all : ∀ digit ∈ digits, Text.isDigit digit = true) (rest : List Char) :
    InNumeral digits rest :=
  ⟨passes_digits all rest, fun digit among => isNumeralChar_of_isDigit (all digit among)⟩

theorem inNumeral_sign {sign digits rest : List Char}
    (one : sign = [] ∨ sign = ['-'] ∨ sign = ['+']) (nonempty : digits ≠ [])
    (all : ∀ digit ∈ digits, Text.isDigit digit = true) : InNumeral sign (digits ++ rest) := by
  refine ⟨passes_sign one nonempty all, ?_⟩
  rcases one with rfl | rfl | rfl <;> simp [isNumeralChar]

/-- A point or the letter of an exponent. -/
theorem inNumeral_mark {mark : Char} (one : mark = '.' ∨ mark = 'e' ∨ mark = 'E')
    (rest : List Char) : InNumeral [mark] rest := by
  constructor
  · rcases one with rfl | rfl | rfl <;> exact passes_of_plain (isPlain_of_all (by decide)) rest
  · rcases one with rfl | rfl | rfl <;> simp [isNumeralChar]

theorem scanExponent_split (characters : List Char) :
    ∃ written, characters = written ++ (Numeral.scanExponent characters).2 ∧
      InNumeral written (Numeral.scanExponent characters).2 := by
  cases characters with
  | nil => exact ⟨[], rfl, inNumeral_nil _⟩
  | cons mark rest =>
      simp only [Numeral.scanExponent]
      split
      · next marked =>
          obtain ⟨sign, signSplit, one⟩ := scanSign_split rest
          obtain ⟨digits, digitsSplit, all, length⟩ :=
            scanDigits_split (Numeral.scanSign rest).2
          have letter : mark = 'e' ∨ mark = 'E' := by simpa using marked
          split
          · exact ⟨[], rfl, inNumeral_nil _⟩
          · next values after nonempty scanned =>
              rw [scanned] at digitsSplit length
              have filled : digits ≠ [] := by
                rintro rfl
                exact nonempty (List.length_eq_zero_iff.mp length.symm)
              refine ⟨[mark] ++ (sign ++ digits), ?_, ?_⟩
              · rw [signSplit, digitsSplit]
                simp
              · exact (inNumeral_mark (.inr letter) _).append
                  ((inNumeral_sign one filled all).append (inNumeral_digits all _))
      · exact ⟨[], rfl, inNumeral_nil _⟩

/-- Digits are taken together with the exponent after them. -/
theorem exponent_split {front : List Char} (characters : List Char) (nonempty : front ≠ [])
    (inside : ∀ rest, InNumeral front rest) :
    ∃ written, front ++ characters = written ++ (Numeral.scanExponent characters).2 ∧
      written ≠ [] ∧ InNumeral written (Numeral.scanExponent characters).2 := by
  obtain ⟨exponent, split, after⟩ := scanExponent_split characters
  refine ⟨front ++ exponent, ?_, by simp [nonempty], (inside _).append after⟩
  rw [List.append_assoc, ← split]

theorem fraction_split {digits : List Char} (characters : List Char)
    (all : ∀ digit ∈ digits, Text.isDigit digit = true) :
    ∃ written, digits ++ '.' :: characters =
        written ++ (Numeral.scanExponent (Numeral.scanDigits characters).2).2 ∧
      written ≠ [] ∧
      InNumeral written (Numeral.scanExponent (Numeral.scanDigits characters).2).2 := by
  obtain ⟨places, split, allPlaces, -⟩ := scanDigits_split characters
  have inside (rest : List Char) : InNumeral (digits ++ ['.'] ++ places) rest :=
    ((inNumeral_digits all _).append (inNumeral_mark (.inl rfl) _)).append
      (inNumeral_digits allPlaces rest)
  have taken := exponent_split (Numeral.scanDigits characters).2 (by simp) inside
  rwa [List.append_assoc, List.append_assoc, List.singleton_append, ← split] at taken

/-- A numeral is the characters before those that it leaves. -/
theorem scan_split {characters rest : List Char} {numeral : Numeral}
    (scanned : Numeral.scan characters = some (numeral, rest)) :
    ∃ written, characters = written ++ rest ∧ written ≠ [] ∧ InNumeral written rest := by
  obtain ⟨digits, split, all, length⟩ := scanDigits_split characters
  unfold Numeral.scan at scanned
  split at scanned
  case h_1 after shape =>
    rw [shape] at split
    split at scanned
    · simp at scanned
    · next fraction left nonempty found =>
        obtain ⟨-, rfl⟩ := Prod.mk.inj (Option.some.inj scanned)
        have taken := fraction_split after all
        rw [found] at taken
        rw [split]
        exact taken
  case h_2 => simp at scanned
  case h_3 whole after nonempty shape =>
    rw [shape] at split
    obtain ⟨-, rfl⟩ := Prod.mk.inj (Option.some.inj scanned)
    rw [split]
    exact fraction_split after all
  case h_4 whole after _ nonempty _ shape =>
    rw [shape] at split length
    obtain ⟨-, rfl⟩ := Prod.mk.inj (Option.some.inj scanned)
    have filled : digits ≠ [] := by
      rintro rfl
      exact nonempty (List.length_eq_zero_iff.mp length.symm)
    rw [split]
    exact exponent_split after filled (inNumeral_digits all)

/-! ### Colons -/

/-- Each colon stands right behind a word; the character before the first one is given. -/
def ColonsBehindWords : Option Char → List Char → Prop
  | _, [] => True
  | previous, first :: rest =>
      (first = ':' → previous.any Text.isWordChar = true) ∧ ColonsBehindWords (some first) rest

theorem colonsBehindWords_of_notMem {written : List Char} (none : ':' ∉ written)
    (previous : Option Char) : ColonsBehindWords previous written := by
  induction written generalizing previous with
  | nil => trivial
  | cons first written inductionHypothesis =>
      obtain ⟨other, later⟩ : ':' ≠ first ∧ ':' ∉ written := by simpa using none
      exact ⟨fun equal => absurd equal.symm other, inductionHypothesis later (some first)⟩

theorem ColonsBehindWords.append {previous : Option Char} {text more : List Char}
    (first : ColonsBehindWords previous text)
    (later : ColonsBehindWords (text.getLast?.or previous) more) :
    ColonsBehindWords previous (text ++ more) := by
  induction text generalizing previous with
  | nil => exact later
  | cons character text inductionHypothesis =>
      refine ⟨first.1, inductionHypothesis first.2 ?_⟩
      rw [List.getLast?_cons] at later
      cases last : text.getLast? <;> simpa [last] using later

/-- A colon begins the name of a table, which goes on up to the rest, or stands right behind a
word. Neither it nor an exclamation mark comes last. -/
inductive Colons : Token → List Char → List Char → Prop where
  | tableRef {first : Char} {name rest : List Char} : isNameStart first = true →
      (∀ character ∈ name, isNameChar character = true) → Stops isNameChar rest →
      Colons (.tableRef (String.ofList (first :: name))) (':' :: first :: name) rest
  | other {token : Token} {written : List Char} (rest : List Char) :
      (∀ name, token ≠ .tableRef name) → ColonsBehindWords none written →
      (∀ last ∈ written.getLast?, last ≠ ':' ∧ last ≠ '!') → Colons token written rest

theorem colons_of_notMem {token : Token} {written : List Char} (rest : List Char)
    (other : ∀ name, token ≠ .tableRef name) (none : ':' ∉ written)
    (last : written.getLast? ≠ some '!') : Colons token written rest := by
  refine .other rest other (colonsBehindWords_of_notMem none _) fun final ends => ⟨?_, ?_⟩
  · rintro rfl
    exact none (List.mem_of_getLast? ends)
  · rintro rfl
    exact last ends

/-- Characters that pass a test are not those that do not. -/
theorem notMem_of_test {test : Char → Bool} {written : List Char}
    (passed : ∀ character ∈ written, test character = true) {mark : Char}
    (failed : test mark = false) : mark ∉ written := by
  intro among
  rw [passed mark among] at failed
  cases failed

theorem colons_of_test {token : Token} {written : List Char} (rest : List Char)
    (other : ∀ name, token ≠ .tableRef name) {test : Char → Bool}
    (passed : ∀ character ∈ written, test character = true)
    (marks : [':', '!'].any test = false) : Colons token written rest := by
  have failed (mark : Char) (among : mark ∈ [':', '!']) : test mark = false := by
    simpa using List.any_eq_false.mp marks mark among
  refine colons_of_notMem rest other (notMem_of_test passed (failed ':' (by simp))) fun last => ?_
  exact notMem_of_test passed (failed '!' (by simp)) (List.mem_of_getLast? last)

/-! ### The shape of each lexeme -/

/-- The characters that a lexeme is written in, before the given rest. -/
inductive Shape : Lexeme → List Char → List Char → Prop where
  | literal (content : String) {quote : Char} {body rest : List Char} :
      quote = '"' ∨ quote = '\'' → LiteralBody quote body →
      (rest.head? = some quote → literalBody? quote rest.tail = none) →
      Shape (.token (.text content)) (quote :: (body ++ [quote])) rest
  | quotedName {name : List Char} (rest : List Char) : backtick ∉ name →
      Shape (.token (.identifier (String.ofList name))) (backtick :: (name ++ [backtick])) rest
  | lineBreak (rest : List Char) : Shape .dropped ['\n'] rest
  | comment {text rest : List Char} : '\n' ∉ text → Stops (· != '\n') rest →
      Shape .dropped ('-' :: '-' :: text) rest
  | passing {token : Token} {written rest : List Char} :
      (∀ content, token ≠ .text content) → written ≠ [] → Passes written rest →
      Colons token written rest → Shape (.token token) written rest

/-- What is scanned are the characters in front, in the shape of their kind. -/
def Takes (characters : List Char) (scanned : Scanned) : Prop :=
  ∃ written rest, characters = written ++ rest ∧ scanned.2 = written.length ∧
    Shape scanned.1 written rest

theorem takes_of_shape {lexeme : Lexeme} {written rest : List Char}
    (shape : Shape lexeme written rest) : Takes (written ++ rest) (lexeme, written.length) :=
  ⟨written, rest, rfl, rfl, shape⟩

theorem takes_of_plain {token : Token} {first : Char} (later rest : List Char)
    (other : ∀ content, token ≠ .text content)
    (plain : ∀ character ∈ first :: later, IsPlain character)
    (colons : Colons token (first :: later) rest) :
    Takes (first :: (later ++ rest)) (.token token, later.length + 1) :=
  takes_of_shape (.passing other (by simp) (passes_of_plain plain rest) colons)

theorem takes_of_symbol {sign : Symbol} {first : Char} (later rest : List Char)
    (plain : (first :: later).all (decide <| IsPlain ·) = true) (none : ':' ∉ first :: later)
    (last : (first :: later).getLast? ≠ some '!') :
    Takes (first :: (later ++ rest)) (.token (.symbol sign), later.length + 1) :=
  takes_of_plain later rest (by simp) (isPlain_of_all plain)
    (colons_of_notMem rest (by simp) none last)

variable {characters : List Char} {scanned : Scanned}

theorem scanEquality_takes (found : scanEquality characters = some scanned) :
    Takes characters scanned := by
  unfold scanEquality at found
  split at found <;> simp only [Option.some.injEq, reduceCtorEq] at found <;> subst found
  · exact takes_of_symbol [_] _ (by decide) (by decide) (by decide)
  · exact takes_of_symbol [_] _ (by decide) (by decide) (by decide)
  · exact takes_of_symbol [_] _ (by decide) (by decide) (by decide)
  · exact takes_of_symbol [] _ (by decide) (by decide) (by decide)

theorem scanTableRef_takes (found : scanTableRef characters = some scanned) :
    Takes characters scanned := by
  unfold scanTableRef at found
  split at found
  · next first rest =>
      split at found
      · next start =>
          obtain rfl := Option.some.inj found
          have plain : ∀ character ∈ ':' :: first :: rest.takeWhile isNameChar,
              IsPlain character :=
            List.forall_mem_cons.mpr ⟨by decide, isPlain_name start rest⟩
          have other (content : String) : Token.tableRef (String.ofList
              (first :: rest.takeWhile isNameChar)) ≠ .text content := by simp
          have named : ∀ character ∈ rest.takeWhile isNameChar, isNameChar character = true :=
            List.all_eq_true.mp List.all_takeWhile
          have colons := Colons.tableRef start named (stops_dropWhile isNameChar rest)
          have taken := takes_of_plain _ (rest.dropWhile isNameChar) other plain colons
          rwa [List.cons_append, List.takeWhile_append_dropWhile] at taken
      · simp at found
  · simp at found

theorem isPlain_of_isAlphanum {character : Char} (passed : character.isAlphanum = true) :
    IsPlain character :=
  isPlain_of_test (by decide) passed

theorem isWordChar_of_isAlphanum {character : Char} (passed : character.isAlphanum = true) :
    Text.isWordChar character = true := by
  have each : ∀ code < 128, (Char.ofNat code).isAlphanum = true →
      Text.isWordChar (Char.ofNat code) = true := by
    decide +kernel
  have bounds := toNat_of_isAlphanum passed
  have found := each character.toNat (by omega)
  rw [Char.ofNat_toNat] at found
  exact found passed

theorem scanCorner_split {corner : List Char} (found : scanCorner characters = some corner) :
    corner ++ characters.drop corner.length = characters ∧ corner ≠ [] ∧
      ∀ character ∈ corner, character.isAlphanum = true := by
  unfold scanCorner at found
  split at found
  · simp at found
  · next nonempty =>
      obtain rfl := Option.some.inj found
      refine ⟨?_, List.append_ne_nil_of_left_ne_nil nonempty _, ?_⟩
      · rw [List.length_append, List.append_assoc, ← List.drop_drop, drop_length_takeWhile,
          drop_length_takeWhile, List.takeWhile_append_dropWhile,
          List.takeWhile_append_dropWhile]
      · refine List.forall_mem_append.mpr ⟨fun character among => ?_, fun character among => ?_⟩
        · have letter := List.all_eq_true.mp List.all_takeWhile character among
          simp [Char.isAlphanum, letter]
        · have digit := List.all_eq_true.mp List.all_takeWhile character among
          simp [Char.isAlphanum, digit]

/-- A colon and a second corner, if they follow. -/
theorem secondCorner_split (characters : List Char) :
    ∃ second rest, characters = second ++ rest ∧
      (second = [] ∨ ∃ corner, second = ':' :: corner ∧ corner ≠ [] ∧
        ∀ character ∈ corner, character.isAlphanum = true) ∧
      second = match characters with
        | ':' :: more => ((scanCorner more).map (':' :: ·)).getD []
        | _ => [] := by
  split
  · next more =>
      cases found : scanCorner more with
      | none => exact ⟨[], ':' :: more, rfl, .inl rfl, rfl⟩
      | some corner =>
          obtain ⟨split, nonempty, all⟩ := scanCorner_split found
          refine ⟨':' :: corner, more.drop corner.length, ?_, .inr ⟨corner, rfl, nonempty, all⟩, rfl⟩
          rw [List.cons_append, split]
  · exact ⟨[], characters, rfl, .inl rfl, rfl⟩

/-- The colon between two corners stands right behind the first. -/
theorem colons_range {sheet first second : List Char} (rest : List Char) (reference : String)
    (named : ∀ character ∈ sheet, isNameChar character = true) (nonempty : first ≠ [])
    (all : ∀ character ∈ first, character.isAlphanum = true)
    (ends : second = [] ∨ ∃ corner, second = ':' :: corner ∧ corner ≠ [] ∧
      ∀ character ∈ corner, character.isAlphanum = true) :
    Colons (.range reference) (sheet ++ '!' :: (first ++ second)) rest := by
  have noColon {corner : List Char} (all : ∀ character ∈ corner, character.isAlphanum = true) :
      ':' ∉ corner := notMem_of_test all (by decide)
  have front : ':' ∉ sheet ++ '!' :: first := by
    have inSheet : ':' ∉ sheet := notMem_of_test named (by decide)
    simp [inSheet, noColon all]
  have marks {corner : List Char} {final : Char} (front : List Char)
      (all : ∀ character ∈ corner, character.isAlphanum = true) (filled : corner ≠ [])
      (ends : final ∈ (front ++ corner).getLast?) : final ≠ ':' ∧ final ≠ '!' := by
    have among : final ∈ corner := by
      rw [List.getLast?_append_of_ne_nil front filled] at ends
      exact List.mem_of_getLast? ends
    constructor <;> rintro rfl <;> exact absurd (all _ among) (by decide)
  have behind := colonsBehindWords_of_notMem front none
  have split : sheet ++ '!' :: (first ++ second) = (sheet ++ '!' :: first) ++ second := by simp
  have start : sheet ++ '!' :: first = (sheet ++ ['!']) ++ first := by simp
  rw [split]
  rcases ends with rfl | ⟨corner, rfl, filled, others⟩
  · rw [List.append_nil]
    refine .other rest (by simp) behind fun final ends => ?_
    rw [start] at ends
    exact marks _ all nonempty ends
  · have wordy : (sheet ++ '!' :: first).getLast?.any Text.isWordChar = true := by
      rw [start, List.getLast?_append_of_ne_nil _ nonempty, List.getLast?_eq_some_getLast nonempty]
      exact isWordChar_of_isAlphanum (all _ (List.getLast_mem nonempty))
    have second : ColonsBehindWords (sheet ++ '!' :: first).getLast? (':' :: corner) :=
      ⟨fun _ => wordy, colonsBehindWords_of_notMem (noColon others) _⟩
    refine .other rest (by simp) (behind.append (by simpa using second)) fun final ends => ?_
    rw [List.append_cons] at ends
    exact marks _ others filled ends

theorem scanRange_takes (found : scanRange characters = some scanned) :
    Takes characters scanned := by
  unfold scanRange at found
  simp only [Option.bind_eq_bind] at found
  split at found
  · simp at found
  · next nonempty =>
      split at found
      · next rest shape =>
          simp only [Option.bind_eq_some_iff, Option.some.injEq] at found
          obtain ⟨first, corner, rfl⟩ := found
          obtain ⟨firstSplit, firstFilled, firstAll⟩ := scanCorner_split corner
          obtain ⟨second, after, secondSplit, ends, equal⟩ :=
            secondCorner_split (rest.drop first.length)
          have split : characters =
              (characters.takeWhile isNameChar ++ '!' :: (first ++ second)) ++ after := by
            rw [drop_length_takeWhile] at shape
            have front := List.takeWhile_append_dropWhile (p := isNameChar) (l := characters)
            rw [shape, ← firstSplit, secondSplit] at front
            simpa using front.symm
          have named : ∀ character ∈ characters.takeWhile isNameChar,
              isNameChar character = true :=
            List.all_eq_true.mp List.all_takeWhile
          have firstPlain (character : Char) (among : character ∈ first) : IsPlain character :=
            isPlain_of_isAlphanum (firstAll character among)
          have secondPlain : ∀ character ∈ second, IsPlain character := by
            rcases ends with rfl | ⟨other, rfl, -, all⟩
            · simp
            · exact List.forall_mem_cons.mpr ⟨by decide, fun character among =>
                isPlain_of_isAlphanum (all character among)⟩
          have plain : ∀ character ∈
              characters.takeWhile isNameChar ++ '!' :: (first ++ second), IsPlain character :=
            List.forall_mem_append.mpr
              ⟨fun character among => isPlain_of_isNameChar (named character among),
                List.forall_mem_cons.mpr
                  ⟨by decide, List.forall_mem_append.mpr ⟨firstPlain, secondPlain⟩⟩⟩
          have colons := colons_range after (String.ofList
            (characters.takeWhile isNameChar ++ '!' :: (first ++ second))) named firstFilled
            firstAll ends
          subst equal
          exact ⟨_, after, split, rfl,
            .passing (by simp) (by simp) (passes_of_plain plain _) colons⟩
      · simp at found

theorem scanNumeral_takes (found : scanNumeral characters = some (.ok scanned)) :
    Takes characters scanned := by
  simp only [scanNumeral, Option.bind_eq_bind, Option.bind_eq_some_iff] at found
  obtain ⟨⟨numeral, rest⟩, read, found⟩ := found
  obtain ⟨written, rfl, nonempty, passes, numeral⟩ := scan_split read
  have length : (written ++ rest).length - rest.length = written.length := by simp
  rw [length] at found
  split at found
  · obtain rfl := Except.ok.inj (Option.some.inj found)
    exact takes_of_shape
      (.passing (by simp) nonempty passes (colons_of_test rest (by simp) numeral (by decide)))
  · split at found
    · simp at found
    · obtain rfl := Except.ok.inj (Option.some.inj found)
      exact takes_of_shape
        (.passing (by simp) nonempty passes (colons_of_test rest (by simp) numeral (by decide)))

theorem scanLiteral_takes (found : scanLiteral characters = some scanned) :
    Takes characters scanned := by
  unfold scanLiteral at found
  split at found
  · next quote rest =>
      split at found
      · next mark =>
          obtain ⟨body, inside, rfl⟩ := Option.map_eq_some_iff.mp found
          obtain ⟨after, rfl, shape, next⟩ := literalBody?_split inside
          have taken := takes_of_shape (.literal (String.ofList (unescape (some quote) body))
            (by simpa using mark) shape next)
          simpa using taken
      · simp at found
  · simp at found

theorem scanQuotedName_takes (found : scanQuotedName characters = some scanned) :
    Takes characters scanned := by
  unfold scanQuotedName at found
  split at found
  · next first rest =>
      simp only [Option.ite_none_right_eq_some, Bool.and_eq_true, Option.some.injEq] at found
      obtain ⟨⟨⟨mark, nonempty⟩, closed⟩, rfl⟩ := found
      obtain rfl : first = backtick := by simpa using mark
      obtain ⟨after, ends⟩ : ∃ after, rest.dropWhile (· != backtick) = backtick :: after := by
        have front := List.takeWhile_append_dropWhile (p := (· != backtick)) (l := rest)
        have stops := stops_dropWhile (· != backtick) rest
        cases shape : rest.dropWhile (· != backtick) with
        | nil =>
            rw [shape, List.append_nil] at front
            rw [front] at closed
            simp at closed
        | cons mark after =>
            rw [shape] at stops
            exact ⟨after, by simpa using stops⟩
      have taken := takes_of_shape (.quotedName after (not_mem_takeWhile_ne backtick rest))
      rw [List.cons_append, List.append_assoc, List.singleton_append, ← ends,
        List.takeWhile_append_dropWhile] at taken
      simpa using taken
  · simp at found

theorem scanWord_takes (found : scanWord characters = some scanned) :
    Takes characters scanned := by
  unfold scanWord at found
  split at found
  · next first rest =>
      simp only [Option.ite_none_right_eq_some, Option.some.injEq] at found
      obtain ⟨start, rfl⟩ := found
      have named : ∀ character ∈ first :: rest.takeWhile isNameChar,
          isNameChar character = true :=
        List.forall_mem_cons.mpr
          ⟨isNameChar_of_isNameStart start, List.all_eq_true.mp List.all_takeWhile⟩
      have taken (token : Token) (other : ∀ content, token ≠ .text content)
          (noTable : ∀ name, token ≠ .tableRef name) :=
        takes_of_plain _ (rest.dropWhile isNameChar) other (isPlain_name start rest)
          (colons_of_test _ noTable named (by decide))
      simp only [List.takeWhile_append_dropWhile] at taken
      apply taken <;> split <;> simp
  · simp at found

theorem scanDropped_takes (found : scanDropped characters = some scanned) :
    Takes characters scanned := by
  unfold scanDropped at found
  split at found
  · obtain rfl := Option.some.inj found
    exact takes_of_shape (.lineBreak _)
  · next rest =>
      obtain rfl := Option.some.inj found
      have taken := takes_of_shape
        (.comment (not_mem_takeWhile_ne '\n' rest) (stops_dropWhile (· != '\n') rest))
      rw [List.cons_append, List.cons_append, List.takeWhile_append_dropWhile] at taken
      rwa [Nat.add_comm]
  · simp at found

theorem scanSymbol_takes (dropped : scanDropped characters = none)
    (found : scanSymbol characters = some scanned) : Takes characters scanned := by
  unfold scanSymbol at found
  split at found <;> simp only [Option.some.injEq, reduceCtorEq] at found <;> subst found
  all_goals try exact takes_of_symbol [] _ (by decide) (by decide) (by decide)
  all_goals try exact takes_of_symbol [_] _ (by decide) (by decide) (by decide)
  next rest =>
    have single : rest.head? ≠ some '-' := by
      intro second
      obtain ⟨later, rfl⟩ := List.head?_eq_some_iff.mp second
      simp [scanDropped] at dropped
    have shape : Shape (.token (.symbol .minus)) ['-'] rest :=
      .passing (by simp) (by simp) ⟨by decide, fun _ => single, trivial⟩
        (colons_of_notMem rest (by simp) (by decide) (by decide))
    exact takes_of_shape shape

/-- Each lexeme that is found is the characters in front. -/
theorem scanLexeme_takes (found : scanLexeme characters = some (.ok scanned)) :
    Takes characters scanned := by
  cases found_of_scanLexeme found with
  | equality found => exact scanEquality_takes found
  | tableRef found => exact scanTableRef_takes found
  | range found => exact scanRange_takes found
  | numeral found => exact scanNumeral_takes found
  | literal found => exact scanLiteral_takes found
  | quotedName found => exact scanQuotedName_takes found
  | word found => exact scanWord_takes found
  | dropped found => exact scanDropped_takes found
  | symbol kept found => exact scanSymbol_takes kept found

theorem Shape.ne_nil {lexeme : Lexeme} {written rest : List Char}
    (shape : Shape lexeme written rest) : written ≠ [] := by
  cases shape with
  | passing _ nonempty _ _ => exact nonempty
  | _ => simp

theorem shape_of_scanLexeme {lexeme : Lexeme} {written rest : List Char}
    (found : scanLexeme (written ++ rest) = some (.ok (lexeme, written.length))) :
    Shape lexeme written rest := by
  obtain ⟨front, after, split, length, shape⟩ := scanLexeme_takes found
  obtain ⟨rfl, rfl⟩ := List.append_inj split length
  exact shape

/-- Where no literal body follows a quote, there is no lexeme. -/
theorem scanLexeme_quote_eq_none {quote : Char} {rest : List Char}
    (mark : quote = '"' ∨ quote = '\'') (endless : literalBody? quote rest = none) :
    scanLexeme (quote :: rest) = none := by
  rw [scanLexeme_quote mark]
  simp [scanLiteral, endless]

end GridQuery.Statement
