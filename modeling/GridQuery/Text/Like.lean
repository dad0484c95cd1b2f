import GridQuery.Text.Case

/-!
Wildcard patterns: `%` stands for any characters, `_` for any one, and every other
character for itself.
-/

namespace GridQuery.Text

/-- Whether some end of a text, the whole and the empty one included, passes a test. -/
def anyEnd (test : List Char → Bool) : List Char → Bool
  | [] => test []
  | character :: rest => test (character :: rest) || anyEnd test rest

/-- Whether the whole text has the form of the pattern, characters compared by `same`. -/
def matchesLike (same : Char → Char → Bool) : List Char → List Char → Bool
  | [], text => text.isEmpty
  | wildcard :: pattern, text =>
      if wildcard == '%' then anyEnd (matchesLike same pattern) text
      else
        match text with
        | [] => false
        | character :: rest =>
            (wildcard == '_' || same wildcard character) && matchesLike same pattern rest

def like (caseSensitive : Bool) (pattern text : String) : Bool :=
  let same := if caseSensitive then (· == ·) else sameLetter
  matchesLike same pattern.toList text.toList

end GridQuery.Text
