import GridQuery.Proofs.Statement.ReadExpr
import GridQuery.Statement.Parser.Query

/-!
# Printed clauses are read back

A clause that need not be there is known by its first keyword, so it is read back if what
comes after it opens with none of the keywords that the clause goes on with.
-/

namespace GridQuery.Statement

open GridQuery.Statement.Parser

variable {Item Body : Type} {rest : List Token}

/-- The tokens are at their end or open with one of the keywords. -/
def OpensWith (words : List Keyword) (rest : List Token) : Prop :=
  ∀ token ∈ rest.head?, ∃ word ∈ words, ∃ written, token = .keyword word written

namespace OpensWith

variable {words : List Keyword}

theorem nil (words : List Keyword) : OpensWith words [] := by simp [OpensWith]

theorem cons {word : Keyword} (membership : word ∈ words) (written : String)
    (rest : List Token) : OpensWith words (.keyword word written :: rest) := by
  simpa [OpensWith] using membership

theorem mono {others : List Keyword} (opens : OpensWith words rest)
    (subset : words ⊆ others) : OpensWith others rest := by
  intro token membership
  obtain ⟨word, inWords, shape⟩ := opens token membership
  exact ⟨word, subset inWords, shape⟩

/-- A clause opens with its keyword, or is not there. -/
theorem clause (opens : OpensWith words rest) (word : Keyword) (others : List Keyword)
    (wordsOf : Body → List Word) (value : Option Body) :
    OpensWith (word :: words)
      (tokens (Statement.clause (word :: others) wordsOf value) ++ rest) := by
  cases value with
  | none => simpa [Statement.clause] using opens.mono (List.subset_cons_self word words)
  | some body => exact cons List.mem_cons_self _ _

theorem listClause (opens : OpensWith words rest) (word : Keyword) (others : List Keyword)
    (wordsOf : Item → List Word) (items : List Item) :
    OpensWith (word :: words)
      (tokens (Statement.listClause (word :: others) wordsOf items) ++ rest) :=
  opens.clause word others (listed wordsOf) (if items.isEmpty then none else some items)

/-- Each test that refuses the keywords refuses the next token. -/
theorem refuses {Value : Type} {test : Token → Option Value} (opens : OpensWith words rest)
    (refused : ∀ word ∈ words, ∀ written, test (.keyword word written) = none) :
    rest.head?.bind test = none := by
  cases rest with
  | nil => rfl
  | cons token rest =>
      obtain ⟨word, inWords, written, rfl⟩ := opens token (by simp)
      exact refused word inWords written

theorem keyword (opens : OpensWith words rest) {word : Keyword} (other : word ∉ words) :
    rest.head?.bind (isKeyword word) = none := by
  apply opens.refuses
  rintro found membership written
  have unequal : found ≠ word := fun equal => other (equal ▸ membership)
  simp [isKeyword, unequal]

theorem symbol (opens : OpensWith words rest) (sign : Symbol) :
    rest.head?.bind (isSymbol sign) = none :=
  opens.refuses fun _ _ _ => rfl

theorem identifier (opens : OpensWith words rest) : rest.head?.bind isIdentifier = none :=
  opens.refuses fun _ _ _ => rfl

theorem ends (opens : OpensWith words rest)
    (ended : ∀ word ∈ words, endsExpr (.keyword word "") = true) : Ends rest := by
  intro token membership
  obtain ⟨word, inWords, written, rfl⟩ := opens token membership
  have last := ended word inWords
  revert last
  cases word <;> exact fun last => last

end OpensWith

/-! Clauses. -/

section

variable {parser : Parser Body} {word : Keyword} {before : List Token} {body : Body}

theorem reads_clause?_none (parser : Parser Body)
    (other : rest.head?.bind (isKeyword word) = none) :
    Reads (clause? word parser) rest none rest :=
  (Reads.keyword?_false other).bind (Reads.pure none rest)

theorem reads_clause?_some (written : String) (reads : Reads parser before body rest) :
    Reads (clause? word parser) (.keyword word written :: before) (some body) rest :=
  (Reads.keyword?_true word written before).bind (reads.bind (Reads.pure _ rest))

theorem reads_clause? {wordsOf : Body → List Word} {value : Option Body}
    (other : rest.head?.bind (isKeyword word) = none)
    (reads : ∀ body ∈ value, Reads parser (tokens (wordsOf body) ++ rest) body rest) :
    Reads (clause? word parser) (tokens (clause [word] wordsOf value) ++ rest) value rest := by
  cases value with
  | none => exact reads_clause?_none parser other
  | some body =>
      rw [clause, tokens_append, List.append_assoc]
      exact reads_clause?_some _ (reads body rfl)

end

section

variable {parser : Parser (List Item)} {wordsOf : Item → List Word} {word : Keyword}
  {before : List Token} {items : List Item}

theorem reads_listAfter_nil (parser : Parser (List Item))
    (other : rest.head?.bind (isKeyword word) = none) :
    Reads (listAfter word parser) rest [] rest :=
  (reads_clause?_none parser other).bind (Reads.pure [] rest)

theorem reads_listAfter_cons (written : String) (reads : Reads parser before items rest) :
    Reads (listAfter word parser) (.keyword word written :: before) items rest :=
  (reads_clause?_some written reads).bind (Reads.pure items rest)

theorem reads_listAfter (other : rest.head?.bind (isKeyword word) = none)
    (reads : items ≠ [] → Reads parser (tokens (listed wordsOf items) ++ rest) items rest) :
    Reads (listAfter word parser) (tokens (listClause [word] wordsOf items) ++ rest) items
      rest := by
  cases items with
  | nil => exact reads_listAfter_nil parser other
  | cons item items => exact reads_listAfter_cons _ (reads (by simp))

theorem reads_listBy_nil (parser : Parser (List Item))
    (other : rest.head?.bind (isKeyword word) = none) :
    Reads (listBy word parser) rest [] rest :=
  (reads_clause?_none _ other).bind (Reads.pure [] rest)

theorem reads_listBy_cons (written second : String) (reads : Reads parser before items rest) :
    Reads (listBy word parser) (.keyword word written :: .keyword .BY second :: before) items
      rest := by
  have after : Reads (do Parser.keyword .BY; parser) (.keyword .BY second :: before) items rest :=
    (Reads.keyword .BY second before).bind reads
  exact (reads_clause?_some written after).bind (Reads.pure items rest)

theorem reads_listBy (other : rest.head?.bind (isKeyword word) = none)
    (reads : items ≠ [] → Reads parser (tokens (listed wordsOf items) ++ rest) items rest) :
    Reads (listBy word parser) (tokens (listClause [word, .BY] wordsOf items) ++ rest) items
      rest := by
  cases items with
  | nil => exact reads_listBy_nil parser other
  | cons item items => exact reads_listBy_cons _ _ (reads (by simp))

end

/-! Items with commas between them. -/

/-- Tokens are read as an item before a comma and before what comes after the last item. -/
structure ReadsItem (parser : Parser Item) (rest : List Token) (part : List Token)
    (item : Item) : Prop where
  within : ∀ later, Reads parser (part ++ .symbol .comma :: later) item (.symbol .comma :: later)
  last : Reads parser (part ++ rest) item rest

section

variable {parser : Parser Item} {parts : List (List Token)} {items : List Item}

theorem reads_separatedOf {fuel : Nat} (each : List.Forall₂ (ReadsItem parser rest) parts items)
    (nonempty : items ≠ []) (enough : items.length ≤ fuel)
    (other : rest.head?.bind (isSymbol .comma) = none) :
    Reads (separatedOf parser fuel) (commaTokens parts ++ rest) items rest := by
  induction each generalizing fuel with
  | nil => exact absurd rfl nonempty
  | @cons part item parts later reads each inductionHypothesis =>
      simp only [List.length_cons] at enough
      obtain ⟨fuel, rfl⟩ := Nat.exists_eq_add_of_le' (show 1 ≤ fuel by omega)
      rw [separatedOf]
      cases each with
      | nil =>
          exact reads.last.bind ((Reads.symbol?_false other).bind (Reads.pure [item] rest))
      | cons next each =>
          simp only [commaTokens, List.append_assoc, List.cons_append]
          refine (reads.within _).bind ((Reads.symbol?_true .comma _).bind ?_)
          exact (inductionHypothesis (by simp) (by simpa using enough)).bind (Reads.pure _ rest)

theorem length_le_commaTokens (parts : List (List Token)) :
    parts.length ≤ (commaTokens parts).length + 1 := by
  induction parts with
  | nil => simp
  | cons part later inductionHypothesis =>
      cases later with
      | nil => simp
      | cons next later =>
          simp only [commaTokens, List.length_append, List.length_cons] at inductionHypothesis ⊢
          omega

theorem reads_commaTokens (each : List.Forall₂ (ReadsItem parser rest) parts items)
    (nonempty : items ≠ []) (other : rest.head?.bind (isSymbol .comma) = none) :
    Reads (separated parser) (commaTokens parts ++ rest) items rest := by
  have room := length_le_commaTokens parts
  refine (Reads.fuel _).bind (reads_separatedOf each nonempty ?_ other)
  rw [← each.length_eq, List.length_append]
  omega

/-- Items are read one after another, if each is read before a comma and before what comes
after the last. -/
theorem reads_separated {wordsOf : Item → List Word} (nonempty : items ≠ [])
    (other : rest.head?.bind (isSymbol .comma) = none)
    (within : ∀ item ∈ items, ∀ later, Reads parser
      (tokens (wordsOf item) ++ .symbol .comma :: later) item (.symbol .comma :: later))
    (last : ∀ item ∈ items, Reads parser (tokens (wordsOf item) ++ rest) item rest) :
    Reads (separated parser) (tokens (listed wordsOf items) ++ rest) items rest := by
  rw [tokens_listed]
  refine reads_commaTokens ?_ nonempty other
  rw [List.forall₂_map_left_iff, List.forall₂_same]
  exact fun item membership => ⟨within item membership, last item membership⟩

end

theorem reads_enclosed {Items : Type} {parser : Parser Items} {words : List Word} {items : Items}
    (inner : Reads parser (tokens words ++ .symbol .closeParen :: rest) items
      (.symbol .closeParen :: rest)) :
    Reads (Parser.enclosed parser) (tokens (enclosed words) ++ rest) items rest := by
  rw [tokens_enclosed, List.cons_append, List.append_assoc]
  exact (Reads.symbol .openParen _).bind
    (inner.bind ((Reads.symbol .closeParen rest).bind (Reads.pure items rest)))

end GridQuery.Statement
