/-!
Closed ranges of code points, the shape in which character properties are kept.
-/

namespace GridQuery.Text

/-- Whether a code point lies in one of the ranges, which ascend and do not overlap. -/
def inRanges (code : Nat) : List (Nat × Nat) → Bool
  | [] => false
  | (first, last) :: rest =>
      if code < first then false
      else if code ≤ last then true
      else inRanges code rest

end GridQuery.Text
