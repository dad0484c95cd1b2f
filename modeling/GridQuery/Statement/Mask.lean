import GridQuery.Error
import GridQuery.Text.Case
import GridQuery.Text.Letter

/-!
Statements with their literals masked: the inside of every quoted literal is replaced by
underscores and every comment by blanks, so that the statement's words can be found where
they stand. Positions are the same in both texts.
-/

namespace GridQuery.Statement

/-- What a character of a statement belongs to. -/
inductive Context where
  | code
  | comment
  | literal (quote : Char) (start : Nat)
  deriving DecidableEq

def backtick : Char := '\x60'

def isQuote (character : Char) : Bool :=
  character == '"' || character == '\'' || character == backtick

/-- The mask of the characters from a position on. A backslash keeps the character after
it inside a literal, and so does a quote a second one; in backticks neither does. -/
def maskFrom (context : Context) (position : Nat) :
    List Char → Except StatementError (List Char)
  | [] =>
      match context with
      | .literal _ start => .error (.unterminatedLiteral start)
      | _ => .ok []
  | [last] =>
      match context with
      | .comment => .ok [if last == '\n' then last else ' ']
      | .code =>
          if isQuote last then .error (.unterminatedLiteral position) else .ok [last]
      | .literal quote start =>
          if last == quote then .ok [last] else .error (.unterminatedLiteral start)
  | first :: second :: rest =>
      let one (shown : Char) (next : Context) :=
        (maskFrom next (position + 1) (second :: rest)).map (shown :: ·)
      match context with
      | .comment => if first == '\n' then one first .code else one ' ' .comment
      | .code =>
          if first == '-' && second == '-' then one ' ' .comment
          else if isQuote first then one first (.literal first position)
          else one first .code
      | .literal quote start =>
          if quote != backtick &&
              (first == '\\' || (first == quote && second == quote)) then
            (maskFrom context (position + 2) rest).map ('_' :: '_' :: ·)
          else if first == quote then one first .code
          else one '_' (.literal quote start)

/-- The statement with its literals masked and its comments blanked. -/
def mask (statement : List Char) : Except StatementError (List Char) :=
  maskFrom .code 0 statement

def isNameStart (character : Char) : Bool :=
  character.isAlpha || character == '_'

def isNameChar (character : Char) : Bool :=
  character.isAlphanum || character == '_'

/-- The first word of a statement in upper case, if it starts with one. -/
def verb? (statement : List Char) : Except StatementError (Option String) :=
  (mask statement).map fun masked =>
    match (masked.dropWhile Text.isBlank).takeWhile isNameStart with
    | [] => none
    | word => some (String.ofList (word.map Char.toUpper))

/-- The names after colons in masked characters, the character before them given. A colon
after a word, a colon or an exclamation mark does not start a reference. -/
def referencesFrom (previous : Option Char) : List Char → List String
  | [] => []
  | first :: rest =>
      let isFree :=
        match previous with
        | none => true
        | some character =>
            !(Text.isWordChar character || character == ':' || character == '!')
      let later := referencesFrom (some first) rest
      if first == ':' && isFree then
        match rest with
        | next :: _ =>
            if isNameStart next then String.ofList (rest.takeWhile isNameChar) :: later
            else later
        | [] => later
      else later

/-- The virtual tables that a statement names outside its literals, in order and each
once. -/
def tableReferences (statement : List Char) : Except StatementError (List String) :=
  (mask statement).map fun masked => (referencesFrom none masked).eraseDups

/-- The phrases that open a clause, a longer one before its own beginning. -/
def clausePhrases : List (List String) :=
  [["GROUP", "BY"], ["ORDER", "BY"], ["LEFT", "OUTER", "JOIN"], ["LEFT", "JOIN"],
    ["RIGHT", "OUTER", "JOIN"], ["RIGHT", "JOIN"], ["INNER", "JOIN"], ["JOIN"],
    ["SELECT"], ["INSERT"], ["UPDATE"], ["DELETE"], ["FROM"], ["WHERE"], ["HAVING"],
    ["LIMIT"], ["OFFSET"], ["LABEL"], ["FORMAT"], ["PIVOT"], ["SET"], ["VALUES"], ["ON"]]

/-- The characters after a word, and the word as written, whatever its case. -/
def afterWord? : List Char → List Char → Option (List Char × List Char)
  | [], rest => some ([], rest)
  | _ :: _, [] => none
  | letter :: word, character :: rest =>
      if Text.sameLetter letter character then
        (afterWord? word rest).map fun (written, after) => (character :: written, after)
      else none

/-- The words of a phrase as written, in upper case, with their length: blanks stand
between them, and no word goes on after the last. -/
def phraseAt? : List String → List Char → Option (List String × Nat)
  | [], _ => none
  | [word], characters => do
      let (written, after) ← afterWord? word.toList characters
      if (after.head?.map Text.isWordChar).getD false then none
      else some ([Text.upper (String.ofList written)], written.length)
  | word :: phrase, characters => do
      let (written, after) ← afterWord? word.toList characters
      let blanks := after.takeWhile Text.isBlank
      if blanks.isEmpty then none
      else
        let (words, length) ← phraseAt? phrase (after.drop blanks.length)
        some (Text.upper (String.ofList written) :: words,
          written.length + blanks.length + length)

/-- The clauses that masked characters open, with their positions; the first `skipped`
characters belong to a clause's words already. -/
def clausesFrom (previous : Option Char) (position skipped : Nat) :
    List Char → List (Nat × String)
  | [] => []
  | first :: rest =>
      let later (skipped : Nat) := clausesFrom (some first) (position + 1) skipped rest
      if 0 < skipped then later (skipped - 1)
      else if (previous.map Text.isWordChar).getD false then later 0
      else
        match clausePhrases.findSome? (phraseAt? · (first :: rest)) with
        | some (words, length) => (position, Text.joined " " words) :: later (length - 1)
        | none => later 0

/-- The clause that a position of a statement stands in, if one has been opened. -/
def clauseAt (statement : List Char) (position : Nat) :
    Except StatementError (Option String) :=
  (mask statement).map fun masked =>
    (((clausesFrom none 0 0 masked).takeWhile (·.1 ≤ position)).getLast?).map (·.2)

end GridQuery.Statement
