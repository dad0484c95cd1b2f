import GridQuery.Text.Case.Table

/-!
Texts in lower and in upper case, and characters that are the same letter when case is
set aside.
-/

namespace GridQuery.Text

open Case

/-- Lower case of one character by one character. -/
def lowerChar (character : Char) : Char :=
  Char.ofNat (mapCode lowerRuns character.toNat)

/-- Upper case of one character, which may take several. -/
def upperChar (character : Char) : List Char :=
  match upperSequences.lookup character.toNat with
  | some codes => codes.map Char.ofNat
  | none => [Char.ofNat (mapCode upperRuns character.toNat)]

/-- Whether a place in a text closes a word: a letter stands before it and none after it,
marks passed over. `before` is read backwards from the place. -/
def closesWord (before after : List Char) : Bool :=
  let passedOver (character : Char) := inRanges character.toNat passedOverRanges
  let startsWithLetter (characters : List Char) :=
    match characters.dropWhile passedOver with
    | [] => false
    | character :: _ => inRanges character.toNat casedRanges
  startsWithLetter before && !startsWithLetter after

/-- Lower case of the characters after `before`, which is read backwards. A capital sigma
takes its final form where a word closes. -/
def lowerAfter (before : List Char) : List Char → List Char
  | [] => []
  | character :: rest =>
      let lowered :=
        if character == 'Σ' then [if closesWord before rest then 'ς' else 'σ']
        else if character == 'İ' then ['i', '\u0307']
        else [lowerChar character]
      lowered ++ lowerAfter (character :: before) rest

def lower (text : String) : String :=
  String.ofList (lowerAfter [] text.toList)

def upper (text : String) : String :=
  String.ofList (text.toList.flatMap upperChar)

/-- The lower-case characters that share an upper case with a lower-case character. -/
def caseClass (character : Char) : List Char :=
  match sharedUpperCase.find? (·.contains character.toNat) with
  | some codes => codes.map Char.ofNat
  | none => [character]

/-- Whether two characters are the same letter when case is set aside. -/
def sameLetter (left right : Char) : Bool :=
  left == right || (caseClass (lowerChar left)).contains (lowerChar right)

/-- Every character that is the same letter as the given one when case is set aside. -/
def caseVariants (character : Char) : List Char :=
  (caseClass (lowerChar character)).flatMap fun lowered =>
    lowered :: (lowerRuns.filterMap fun run =>
      let source := ((lowered.toNat : Int) - run.shift).toNat
      if run.contains source then some (Char.ofNat source) else none)

end GridQuery.Text
