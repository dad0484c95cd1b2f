import GridQuery.Error
import GridQuery.Statement.Token

/-!
Readers of tokens, and what they are put together from.

A statement is refused at the first token that none can continue with. A phrase that is
well formed and means nothing, such as a call of an unknown function, is refused once the
token after it is known and can follow such a phrase.
-/

namespace GridQuery.Statement

/-- Where and why tokens are no statement. -/
inductive ParseFailure where
  /-- No statement continues with the first of the remaining tokens. -/
  | unexpected (rest : List PlacedToken)
  /-- A phrase is refused; `atEnd` if no token follows it. -/
  | rejected (cause : Rejection) (position : Nat) (atEnd : Bool)
  | data (fault : DataFault)

/-- A reader of some of the tokens, which hands on the rest. -/
abbrev Parser := StateT (List PlacedToken) (Except ParseFailure)

namespace Parser

def fail : Parser α := do
  throw (.unexpected (← get))

def peek : Parser (Option Token) := do
  return (← get).head?.map (·.token)

def skip : Parser Unit :=
  modify (·.drop 1)

def position : Parser Nat := do
  return ((← get).head?.map (·.position)).getD 0

def takeIf (test : Token → Option α) : Parser (Option α) := do
  match (← peek).bind test with
  | some value => skip; return some value
  | none => return none

def expect (test : Token → Option α) : Parser α := do
  match ← takeIf test with
  | some value => return value
  | none => fail

def isKeyword (word : Keyword) : Token → Option Unit
  | .keyword found _ => if found == word then some () else none
  | _ => none

def isSymbol (sign : Symbol) : Token → Option Unit
  | .symbol found => if found == sign then some () else none
  | _ => none

def isIdentifier : Token → Option String
  | .identifier name => some name
  | _ => none

def isText : Token → Option String
  | .text content => some content
  | _ => none

def isInteger : Token → Option Nat
  | .integer value => some value
  | _ => none

def keyword? (word : Keyword) : Parser Bool := do
  return (← takeIf (isKeyword word)).isSome

def symbol? (sign : Symbol) : Parser Bool := do
  return (← takeIf (isSymbol sign)).isSome

def keyword (word : Keyword) : Parser Unit :=
  expect (isKeyword word)

def symbol (sign : Symbol) : Parser Unit :=
  expect (isSymbol sign)

/-- Refuses the phrase just read, unless the token after it cannot follow it. -/
def reject (cause : Rejection) (position : Nat) (follows : Token → Bool) : Parser α := do
  match ← peek with
  | none => throw (.rejected cause position true)
  | some token =>
      if follows token then throw (.rejected cause position false) else fail

/-- Readings on the way to the last token: each token takes a few steps. -/
def fuel : Parser Nat := do
  return 4 * (← get).length + 4

def separatedOf (item : Parser α) : Nat → Parser (List α)
  | 0 => fail
  | fuel + 1 => do
      let first ← item
      if ← symbol? .comma then return first :: (← separatedOf item fuel)
      else return [first]

def separated (item : Parser α) : Parser (List α) := do
  separatedOf item (← fuel)

def enclosed (items : Parser α) : Parser α := do
  symbol .openParen
  let found ← items
  symbol .closeParen
  return found

def clause? (word : Keyword) (body : Parser α) : Parser (Option α) := do
  if ← keyword? word then return some (← body) else return none

/-- A list after a keyword and `BY`; empty if the keyword does not come next. -/
def listBy (word : Keyword) (items : Parser (List α)) : Parser (List α) := do
  return (← clause? word (do keyword .BY; items)).getD []

/-- A list after a keyword; empty if the keyword does not come next. -/
def listAfter (word : Keyword) (items : Parser (List α)) : Parser (List α) := do
  return (← clause? word items).getD []

end Parser

end GridQuery.Statement
