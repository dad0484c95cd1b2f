import GridQuery.Text.Blank

/-!
Cutting and searching texts.
-/

namespace GridQuery.Text

/-- The characters without the blank ones at either end. -/
def trimList (characters : List Char) : List Char :=
  ((characters.dropWhile isBlank).reverse.dropWhile isBlank).reverse

def trim (text : String) : String :=
  String.ofList (trimList text.toList)

def containsSlice (slice : List Char) : List Char → Bool
  | [] => slice.isEmpty
  | character :: rest =>
      slice.isPrefixOf (character :: rest) || containsSlice slice rest

def contains (text part : String) : Bool :=
  containsSlice part.toList text.toList

def startsWith (text part : String) : Bool :=
  part.toList.isPrefixOf text.toList

def endsWith (text part : String) : Bool :=
  part.toList.isSuffixOf text.toList

def replaceChar (old : Char) (new : List Char) (text : String) : String :=
  String.ofList (text.toList.flatMap fun character =>
    if character == old then new else [character])

def joined (separator : String) : List String → String
  | [] => ""
  | [text] => text
  | text :: rest => text ++ separator ++ joined separator rest

/-- A text filled up with a character on its left to a least length. -/
def padLeft (width : Nat) (filler : Char) (text : String) : String :=
  String.ofList (List.replicate (width - text.length) filler) ++ text

def ofNat (value : Nat) : String :=
  String.ofList (Nat.toDigits 10 value)

def ofInt (value : Int) : String :=
  if value < 0 then "-" ++ ofNat value.natAbs else ofNat value.natAbs

/-- A decimal numeral of at least the given width, zeros in front. -/
def zeroPadded (width value : Nat) : String :=
  padLeft width '0' (ofNat value)

end GridQuery.Text
