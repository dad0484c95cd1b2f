import GridQuery.Text.Ranges

/-!
Blank characters: the spaces, line breaks and separators that are trimmed from the
ends of a text and that a pattern's `\s` stands for.
-/

namespace GridQuery.Text

def blankRanges : List (Nat × Nat) :=
  [(9, 13), (28, 32), (133, 133), (160, 160), (5760, 5760), (8192, 8202), (8232, 8233),
   (8239, 8239), (8287, 8287), (12288, 12288)]

def isBlank (character : Char) : Bool :=
  inRanges character.toNat blankRanges

end GridQuery.Text
