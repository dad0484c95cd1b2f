import GridQuery.Proofs.Statement.Places

/-!
# The mask and the tokens

The mask of a statement finds its literals and comments where the tokens have them.
-/

namespace GridQuery.Statement

/-! ### The mask of one character -/

section Step

theorem maskFrom_nil (context : Context) (position : Nat) :
    maskFrom context position [] =
      match context with
      | .literal _ start => .error (.unterminatedLiteral start)
      | _ => .ok [] :=
  rfl

theorem maskFrom_last (context : Context) (position : Nat) (last : Char) :
    maskFrom context position [last] =
      match context with
      | .comment => .ok [if last == '\n' then last else ' ']
      | .code => if isQuote last then .error (.unterminatedLiteral position) else .ok [last]
      | .literal quote start =>
          if last == quote then .ok [last] else .error (.unterminatedLiteral start) :=
  rfl

theorem maskFrom_cons (context : Context) (position : Nat) (first second : Char)
    (rest : List Char) :
    maskFrom context position (first :: second :: rest) =
      let one (shown : Char) (next : Context) :=
        (maskFrom next (position + 1) (second :: rest)).map (shown :: ·)
      match context with
      | .comment => if first == '\n' then one first .code else one ' ' .comment
      | .code =>
          if first == '-' && second == '-' then one ' ' .comment
          else if isQuote first then one first (.literal first position)
          else one first .code
      | .literal quote start =>
          if quote != backtick && (first == '\\' || (first == quote && second == quote)) then
            (maskFrom context (position + 2) rest).map ('_' :: '_' :: ·)
          else if first == quote then one first .code
          else one '_' (.literal quote start) :=
  rfl

variable {first second quote : Char} (rest : List Char) (position start : Nat)

theorem maskFrom_code (other : isQuote first = false)
    (single : first = '-' → rest.head? ≠ some '-') :
    maskFrom .code position (first :: rest) =
      (maskFrom .code (position + 1) rest).map (first :: ·) := by
  cases rest with
  | nil => simp [maskFrom_nil, maskFrom_last, other, Except.map]
  | cons second rest =>
      have comment : ¬ (first = '-' ∧ second = '-') := by
        rintro ⟨equal, rfl⟩
        exact single equal rfl
      simp [maskFrom_cons, other, comment]

theorem maskFrom_quote (mark : isQuote first = true) :
    maskFrom .code position (first :: rest) =
      (maskFrom (.literal first position) (position + 1) rest).map (first :: ·) := by
  cases rest with
  | nil => simp [maskFrom_nil, maskFrom_last, mark, Except.map]
  | cons second rest =>
      have comment : first ≠ '-' := by
        rintro rfl
        cases mark
      simp [maskFrom_cons, mark, comment]

theorem maskFrom_dashes :
    maskFrom .code position ('-' :: '-' :: rest) =
      (maskFrom .comment (position + 1) ('-' :: rest)).map (' ' :: ·) := by
  simp [maskFrom_cons]

theorem maskFrom_comment (other : first ≠ '\n') :
    maskFrom .comment position (first :: rest) =
      (maskFrom .comment (position + 1) rest).map (' ' :: ·) := by
  cases rest <;> simp [maskFrom_nil, maskFrom_last, maskFrom_cons, other, Except.map]

theorem maskFrom_comment_lineBreak :
    maskFrom .comment position ('\n' :: rest) = maskFrom .code position ('\n' :: rest) := by
  cases rest <;> simp [maskFrom_last, maskFrom_cons, isQuote, backtick]

/-- Where no second quote comes, or no second one counts, a literal ends at its quote. -/
theorem maskFrom_literal_end (slash : quote ≠ '\\')
    (single : quote = backtick ∨ rest.head? ≠ some quote) :
    maskFrom (.literal quote start) position (quote :: rest) =
      (maskFrom .code (position + 1) rest).map (quote :: ·) := by
  cases rest with
  | nil => simp [maskFrom_nil, maskFrom_last, Except.map]
  | cons second rest =>
      have pair : ¬ (quote ≠ backtick ∧ second = quote) := by
        rintro ⟨other, rfl⟩
        rcases single with equal | single
        · exact other equal
        · exact single rfl
      simp [maskFrom_cons, slash, pair]

theorem maskFrom_literal_plain (other : first ≠ quote)
    (slash : quote = backtick ∨ first ≠ '\\') :
    maskFrom (.literal quote start) position (first :: rest) =
      (maskFrom (.literal quote start) (position + 1) rest).map ('_' :: ·) := by
  cases rest with
  | nil => simp [maskFrom_nil, maskFrom_last, other, Except.map]
  | cons second rest =>
      have pair : ¬ (quote ≠ backtick ∧ first = '\\') := by
        rintro ⟨counts, equal⟩
        rcases slash with none | plain
        · exact counts none
        · exact plain equal
      simp [maskFrom_cons, other, pair]

theorem maskFrom_literal_pair (counts : quote ≠ backtick)
    (pair : first = '\\' ∨ first = quote ∧ second = quote) :
    maskFrom (.literal quote start) position (first :: second :: rest) =
      (maskFrom (.literal quote start) (position + 2) rest).map ('_' :: '_' :: ·) := by
  simp [maskFrom_cons, counts, pair]

end Step

/-! ### The mask of each lexeme -/

/-- The mask of the characters is the given text, wherever they stand. -/
def Masks (characters masked : List Char) : Prop :=
  ∀ position, maskFrom .code position characters = .ok masked

theorem masks_nil : Masks [] [] := fun _ => rfl

section Lexeme

variable {rest masked : List Char}

theorem Masks.cons {first : Char} (other : isQuote first = false)
    (single : first = '-' → rest.head? ≠ some '-') (masks : Masks rest masked) :
    Masks (first :: rest) (first :: masked) := by
  intro position
  rw [maskFrom_code rest position other single, masks]
  rfl

/-- Characters with which nothing begins stay as they are. -/
theorem Masks.passes {written : List Char} (passes : Passes written rest)
    (masks : Masks rest masked) : Masks (written ++ rest) (written ++ masked) := by
  induction written with
  | nil => exact masks
  | cons first written inductionHypothesis =>
      obtain ⟨other, single, later⟩ := passes
      exact Masks.cons other single (inductionHypothesis later)

/-- A comment gives way to blanks up to the end of its line. -/
theorem maskFrom_comment_append {text : List Char} (without : '\n' ∉ text)
    (stops : Stops (· != '\n') rest) (masks : Masks rest masked) (position : Nat) :
    maskFrom .comment position (text ++ rest) =
      .ok (List.replicate text.length ' ' ++ masked) := by
  induction text generalizing position with
  | nil =>
      cases rest with
      | nil => exact masks position
      | cons first rest =>
          obtain rfl : first = '\n' := by simpa using stops
          exact (maskFrom_comment_lineBreak rest position).trans (masks position)
  | cons first text inductionHypothesis =>
      obtain ⟨other, later⟩ : '\n' ≠ first ∧ '\n' ∉ text := by simpa using without
      rw [List.cons_append, maskFrom_comment _ _ (Ne.symm other), inductionHypothesis later]
      rfl

theorem Masks.comment {text : List Char} (without : '\n' ∉ text)
    (stops : Stops (· != '\n') rest) (masks : Masks rest masked) :
    Masks ('-' :: '-' :: text ++ rest)
      (List.replicate ('-' :: '-' :: text).length ' ' ++ masked) := by
  intro position
  have dashed : '\n' ∉ '-' :: text := by simp [without]
  rw [List.cons_append, List.cons_append, maskFrom_dashes, ← List.cons_append,
    maskFrom_comment_append dashed stops masks]
  rfl

/-- The inside of a literal gives way to underscores. -/
theorem maskFrom_literal_append {quote : Char} {body : List Char}
    (mark : quote = '"' ∨ quote = '\'') (shape : LiteralBody quote body)
    (single : rest.head? ≠ some quote) (masks : Masks rest masked) (start position : Nat) :
    maskFrom (.literal quote start) position (body ++ quote :: rest) =
      .ok (List.replicate body.length '_' ++ quote :: masked) := by
  have counts : quote ≠ backtick := by rcases mark with rfl | rfl <;> decide
  have slash : quote ≠ '\\' := by rcases mark with rfl | rfl <;> decide
  induction shape generalizing position with
  | nil =>
      rw [List.nil_append, maskFrom_literal_end rest position start slash (.inr single), masks]
      rfl
  | pair _ _ inductionHypothesis =>
      rw [List.cons_append, List.cons_append,
        maskFrom_literal_pair _ _ _ counts (.inl rfl), inductionHypothesis]
      rfl
  | doubled _ inductionHypothesis =>
      rw [List.cons_append, List.cons_append,
        maskFrom_literal_pair _ _ _ counts (.inr ⟨rfl, rfl⟩), inductionHypothesis]
      rfl
  | plain other notSlash _ inductionHypothesis =>
      rw [List.cons_append, maskFrom_literal_plain _ _ _ other (.inr notSlash),
        inductionHypothesis]
      rfl

theorem maskFrom_quotedName_append {name : List Char} (without : backtick ∉ name)
    (masks : Masks rest masked) (start position : Nat) :
    maskFrom (.literal backtick start) position (name ++ backtick :: rest) =
      .ok (List.replicate name.length '_' ++ backtick :: masked) := by
  induction name generalizing position with
  | nil =>
      rw [List.nil_append, maskFrom_literal_end rest position start (by decide) (.inl rfl), masks]
      rfl
  | cons first name inductionHypothesis =>
      obtain ⟨other, later⟩ : backtick ≠ first ∧ backtick ∉ name := by simpa using without
      rw [List.cons_append, maskFrom_literal_plain _ _ _ (Ne.symm other) (.inl rfl),
        inductionHypothesis later]
      rfl

/-- Between quotes there are underscores, whatever stood there. -/
theorem Masks.literal {quote : Char} {body : List Char}
    (mark : quote = '"' ∨ quote = '\'') (shape : LiteralBody quote body)
    (single : rest.head? ≠ some quote) (masks : Masks rest masked) :
    Masks (quote :: (body ++ [quote]) ++ rest)
      (quote :: (List.replicate body.length '_' ++ [quote]) ++ masked) := by
  intro position
  have opens : isQuote quote = true := by rcases mark with rfl | rfl <;> rfl
  rw [List.cons_append, List.append_assoc, List.singleton_append, maskFrom_quote _ _ opens,
    maskFrom_literal_append mark shape single masks]
  simp [Except.map]

theorem Masks.quotedName {name : List Char} (without : backtick ∉ name)
    (masks : Masks rest masked) :
    Masks (backtick :: (name ++ [backtick]) ++ rest)
      (backtick :: (List.replicate name.length '_' ++ [backtick]) ++ masked) := by
  intro position
  rw [List.cons_append, List.append_assoc, List.singleton_append, maskFrom_quote _ _ rfl,
    maskFrom_quotedName_append without masks]
  simp [Except.map]

end Lexeme

/-! ### The mask of a statement -/

/-- What literals can be painted over with, so that they end where they did. -/
structure IsInk (ink : Char → Char) : Prop where
  literal {quote : Char} {body : List Char} : quote = '"' ∨ quote = '\'' →
    LiteralBody quote body → LiteralBody quote (body.map ink)
  name {name : List Char} : backtick ∉ name → backtick ∉ name.map ink

theorem isInk_id : IsInk id where
  literal _ shape := by simpa using shape
  name without := by simpa using without

theorem isInk_underscore : IsInk fun _ => '_' where
  literal {quote body} mark _ := by
    have other : '_' ≠ quote := by rcases mark with rfl | rfl <;> decide
    exact literalBody_of_plain (by simp [other])
  name _ := by simp [backtick]

/-- The mask of a statement paints its literals and its comments over, even if the literals
have been painted over before. -/
theorem Splits.masks {position : Nat} {characters : List Char} {found : List PlacedLexeme}
    (splits : Splits position characters found) {ink : Char → Char} (covers : IsInk ink) :
    Masks (paintFrom ink id found position characters)
      (paintFrom (fun _ => '_') (fun _ => ' ') found position characters) := by
  induction splits with
  | nil => exact masks_nil
  | @space position first rest found space splits inductionHypothesis =>
      have before : ∀ later ∈ found, position < later.position := splits.le_position
      have plain : IsPlain first := isPlain_of_test (by decide) space
      rw [paintFrom, paintFrom, painted_of_before before, painted_of_before before]
      exact Masks.cons plain.1 (fun equal => absurd equal plain.2) inductionHypothesis
  | @lexeme position lexeme written rest found scanned splits inductionHypothesis =>
      have before := splits.le_position
      have head : (paintFrom ink id found (position + written.length) rest).head? = rest.head? :=
        head?_paintFrom splits
      rw [paintFrom_append, paintFrom_append, paintFrom_cons_of_after (Nat.le_refl _),
        paintFrom_cons_of_after (Nat.le_refl _)]
      cases shape_of_scanLexeme scanned with
      | literal content mark body endless =>
          rw [paintFrom_of_literal before rfl rfl rfl, paintFrom_of_literal before rfl rfl rfl]
          have single := splits.head?_ne mark endless
          rw [← head] at single
          simpa [List.map_const'] using
            Masks.literal mark (covers.literal mark body) single inductionHypothesis
      | quotedName rest without =>
          rw [paintFrom_of_literal before (by simp [PlacedLexeme.isLiteral]) rfl rfl,
            paintFrom_of_literal before (by simp [PlacedLexeme.isLiteral]) rfl rfl]
          simpa [List.map_const'] using
            Masks.quotedName (covers.name without) inductionHypothesis
      | lineBreak rest =>
          rw [paintFrom_of_other before rfl rfl, paintFrom_of_other before rfl rfl]
          exact Masks.cons rfl (by simp) inductionHypothesis
      | @comment text rest without stops =>
          rw [paintFrom_of_comment before rfl rfl, paintFrom_of_comment before rfl rfl]
          rw [Stops, ← head] at stops
          rw [List.map_id, List.map_const']
          exact Masks.comment without stops inductionHypothesis
      | passing other nonempty passes _ =>
          have literal : PlacedLexeme.isLiteral ⟨_, position, written⟩ = false :=
            isLiteral_of_passes other passes
          rw [paintFrom_of_other before literal rfl, paintFrom_of_other before literal rfl]
          exact Masks.passes (passes.of_head? head) inductionHypothesis

/-- The statement with its literals painted over and nothing else. -/
def hidden (statement : List Char) : List Char :=
  paintFrom (fun _ => '_') id (lexemes statement) 0 statement

variable {statement : List Char}

theorem mask_of_lexable (lexable : (lex statement).fault = none) :
    mask statement =
      .ok (paintFrom (fun _ => '_') (fun _ => ' ') (lexemes statement) 0 statement) := by
  simpa [mask] using (splits_of_fault_none lexable).masks isInk_id 0

/-- What stands in the literals makes no difference to the mask. -/
theorem mask_hidden (lexable : (lex statement).fault = none) :
    mask (hidden statement) = mask statement :=
  ((splits_of_fault_none lexable).masks isInk_underscore 0).trans (mask_of_lexable lexable).symm

@[simp]
theorem getElem?_hidden (place : Nat) :
    (hidden statement)[place]? =
      statement[place]?.map fun character =>
        if InsideLiteral (lexemes statement) place then '_' else character := by
  simp only [hidden, getElem?_paintFrom, Nat.zero_add]
  congr 1
  funext character
  simp [painted]

theorem hidden_eq_of_outside {other : List Char} (length : statement.length = other.length)
    (inside : ∀ place, InsideLiteral (lexemes statement) place ↔
      InsideLiteral (lexemes other) place)
    (outside : ∀ place, ¬ InsideLiteral (lexemes statement) place →
      statement[place]? = other[place]?) : hidden statement = hidden other := by
  apply List.ext_getElem?
  intro place
  by_cases covered : InsideLiteral (lexemes statement) place
  · have coveredOther := (inside place).mp covered
    by_cases bound : place < statement.length
    · simp [covered, coveredOther, List.getElem?_eq_getElem bound,
        List.getElem?_eq_getElem (length ▸ bound)]
    · have beyond : ¬ place < other.length := by omega
      simp [bound, beyond]
  · have uncovered := mt (inside place).mpr covered
    simp [covered, uncovered, outside place covered]

/-- The mask of a statement that can be cut into tokens finds the literals and the comments
that the tokens have. So what is looked for in the mask, the verb, the virtual tables and the
clauses, does not depend on what stands in the literals. -/
theorem mask_agrees (lexable : (lex statement).fault = none) :
    (∃ masked, mask statement = .ok masked ∧ masked.length = statement.length ∧
      ∀ place character, statement[place]? = some character →
        masked[place]? = some
          (if InsideLiteral (lexemes statement) place then '_'
          else if InsideComment (lexemes statement) place then ' '
          else character)) ∧
    ∀ other, (lex other).fault = none → statement.length = other.length →
      (∀ place, InsideLiteral (lexemes statement) place ↔
        InsideLiteral (lexemes other) place) →
      (∀ place, ¬ InsideLiteral (lexemes statement) place →
        statement[place]? = other[place]?) →
      verb? statement = verb? other ∧ tableReferences statement = tableReferences other ∧
        ∀ position, clauseAt statement position = clauseAt other position := by
  refine ⟨⟨_, mask_of_lexable lexable, length_paintFrom _, ?_⟩, ?_⟩
  · intro place character here
    simp [here, painted]
  · intro other otherLexable length inside outside
    have same : mask statement = mask other := by
      rw [← mask_hidden lexable, ← mask_hidden otherLexable,
        hidden_eq_of_outside length inside outside]
    exact ⟨by rw [verb?, verb?, same], by rw [tableReferences, tableReferences, same],
      fun position => by rw [clauseAt, clauseAt, same]⟩

/-! Two statements whose literals stand in the same places. -/

def reference : List Char := "select ':x', `-` from :a -- '".toList

def doubledQuote : List Char := "select '''', `:` from :a -- '".toList

theorem reference_mask_agrees :
    (lex reference).fault = none ∧ (lex doubledQuote).fault = none ∧
      (∃ masked, mask reference = .ok masked ∧ masked.length = 29 ∧
        masked[8]? = some '_' ∧ masked[28]? = some ' ') ∧
      verb? reference = verb? doubledQuote ∧
      tableReferences reference = tableReferences doubledQuote ∧
      ∀ position, clauseAt reference position = clauseAt doubledQuote position := by
  have lexable : (lex reference).fault = none := by rfl
  have otherLexable : (lex doubledQuote).fault = none := by rfl
  have spans : literalSpans (lexemes reference) = [(7, 4), (13, 3)] := by rfl
  have otherSpans : literalSpans (lexemes doubledQuote) = [(7, 4), (13, 3)] := by rfl
  have length : reference.length = 29 := by rfl
  have otherLength : doubledQuote.length = 29 := by rfl
  have inside (place : Nat) : InsideLiteral (lexemes reference) place ↔
      InsideLiteral (lexemes doubledQuote) place := by
    rw [insideLiteral_iff, insideLiteral_iff, spans, otherSpans]
  have within : ∀ place < 29, ¬ (∃ span ∈ [(7, 4), (13, 3)], span.1 < place ∧
      place + 1 < span.1 + span.2) → reference[place]? = doubledQuote[place]? := by
    decide
  have outside (place : Nat) (clear : ¬ InsideLiteral (lexemes reference) place) :
      reference[place]? = doubledQuote[place]? := by
    rcases Nat.lt_or_ge place 29 with below | above
    · rw [insideLiteral_iff, spans] at clear
      exact within place below clear
    · rw [List.getElem?_eq_none (by omega), List.getElem?_eq_none (by omega)]
  obtain ⟨⟨masked, found, whole, shown⟩, agrees⟩ := mask_agrees lexable
  refine ⟨lexable, otherLexable, ⟨masked, found, whole.trans length, ?_, ?_⟩,
    agrees doubledQuote otherLexable (length.trans otherLength.symm) inside outside⟩
  · exact (shown 8 ':' (by rfl)).trans (by rfl)
  · exact (shown 28 '\'' (by rfl)).trans (by rfl)

end GridQuery.Statement
