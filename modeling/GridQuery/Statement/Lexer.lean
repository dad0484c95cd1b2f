import GridQuery.Statement.Mask
import GridQuery.Statement.Token
import GridQuery.Text.Digit

/-!
Cutting a statement into tokens. At each place the kinds of lexeme are tried in a fixed
order and the first that fits is taken; blanks, line breaks and comments between tokens
are dropped.
-/

namespace GridQuery.Statement

/-- What stands at a place: a token, or something that is dropped. -/
inductive Lexeme where
  | token (token : Token)
  | dropped
  deriving DecidableEq

/-- The inside of a string literal after its opening quote, escapes unresolved. The
literal is as long as it can be: it ends at a quote with no second one after it, or, where
no such end follows, at the first quote of the last pair. A backslash keeps the character
after it, unless that is a line break, which no literal can hold behind a backslash. -/
def literalBody? (quote : Char) : List Char → Option (List Char)
  | [] => none
  | [last] => if last == quote then some [] else none
  | first :: second :: rest =>
      if first == quote then
        if second == quote then
          match literalBody? quote rest with
          | some body => some (quote :: quote :: body)
          | none => some []
        else some []
      else if first == '\\' then
        if second == '\n' then none
        else (literalBody? quote rest).map fun body => first :: second :: body
      else (literalBody? quote (second :: rest)).map (first :: ·)

/-- The character that an escape stands for; none if the pair stands for itself. -/
def escaped? (mark : Char) : Option Char :=
  [('t', '\t'), ('n', '\n'), ('r', '\r'), ('\\', '\\'), ('"', '"'), ('\'', '\'')].lookup mark

/-- The text of a literal's inside: escapes give way to their characters and doubled
quotes to one; any other pair with a backslash stays as it is. -/
def unescape (quote : Option Char) : List Char → List Char
  | [] => []
  | [last] => [last]
  | first :: second :: rest =>
      if first == '\\' then
        match escaped? second with
        | some character => character :: unescape quote rest
        | none => first :: second :: unescape quote rest
      else if some first == quote && second == first then first :: unescape quote rest
      else first :: unescape quote (second :: rest)

abbrev Scanned := Lexeme × Nat

def scanEquality : List Char → Option Scanned
  | '!' :: '=' :: _ => some (.token (.symbol .neq), 2)
  | '<' :: '>' :: _ => some (.token (.symbol .neq), 2)
  | '=' :: '=' :: _ => some (.token (.symbol .eq), 2)
  | '=' :: _ => some (.token (.symbol .eq), 1)
  | _ => none

def scanTableRef : List Char → Option Scanned
  | ':' :: first :: rest =>
      if isNameStart first then
        let name := first :: rest.takeWhile isNameChar
        some (.token (.tableRef (String.ofList name)), name.length + 1)
      else none
  | _ => none

/-- A cell or column: letters and then digits, if any. -/
def scanCorner (characters : List Char) : Option (List Char) :=
  match characters.takeWhile Char.isAlpha with
  | [] => none
  | letters => some (letters ++ (characters.drop letters.length).takeWhile Char.isDigit)

def scanRange (characters : List Char) : Option Scanned := do
  let sheet := characters.takeWhile isNameChar
  if sheet.isEmpty then none
  match characters.drop sheet.length with
  | '!' :: rest =>
      let first ← scanCorner rest
      let second :=
        match rest.drop first.length with
        | ':' :: more => ((scanCorner more).map (':' :: ·)).getD []
        | _ => []
      let reference := sheet ++ '!' :: (first ++ second)
      some (.token (.range (String.ofList reference)), reference.length)
  | _ => none

/-- A number without a sign, of digits of any script; an integer if it has neither point
nor exponent. -/
def scanNumeral (characters : List Char) : Option (Except DataFault Scanned) := do
  let (numeral, rest) ← Numeral.scan characters
  let length := characters.length - rest.length
  if !numeral.isInteger then
    some (.ok (.token (.float (numeral.toDouble false)), length))
  else if Numeral.digitLimit < numeral.whole.length then some (.error .notNumeral)
  else some (.ok (.token (.integer (ofDigits numeral.whole)), length))

def scanLiteral (characters : List Char) : Option Scanned :=
  match characters with
  | quote :: rest =>
      if quote == '"' || quote == '\'' then
        (literalBody? quote rest).map fun body =>
          (.token (.text (String.ofList (unescape (some quote) body))), body.length + 2)
      else none
  | [] => none

def scanQuotedName (characters : List Char) : Option Scanned :=
  match characters with
  | first :: rest =>
      let name := rest.takeWhile (· != backtick)
      if first == backtick && !name.isEmpty && name.length < rest.length then
        some (.token (.identifier (String.ofList name)), name.length + 2)
      else none
  | [] => none

def scanWord (characters : List Char) : Option Scanned :=
  match characters with
  | first :: rest =>
      if isNameStart first then
        let letters := first :: rest.takeWhile isNameChar
        let word := String.ofList letters
        let token :=
          match Keyword.ofWord? word with
          | some keyword => .keyword keyword word
          | none => .identifier word
        some (.token token, letters.length)
      else none
  | [] => none

/-- A line break or a comment. -/
def scanDropped : List Char → Option Scanned
  | '\n' :: _ => some (.dropped, 1)
  | '-' :: '-' :: rest => some (.dropped, 2 + (rest.takeWhile (· != '\n')).length)
  | _ => none

def scanSymbol : List Char → Option Scanned
  | '*' :: _ => some (.token (.symbol .star), 1)
  | '.' :: _ => some (.token (.symbol .dot), 1)
  | '(' :: _ => some (.token (.symbol .openParen), 1)
  | ')' :: _ => some (.token (.symbol .closeParen), 1)
  | '<' :: '=' :: _ => some (.token (.symbol .lte), 2)
  | '>' :: '=' :: _ => some (.token (.symbol .gte), 2)
  | '+' :: _ => some (.token (.symbol .plus), 1)
  | ',' :: _ => some (.token (.symbol .comma), 1)
  | '<' :: _ => some (.token (.symbol .lt), 1)
  | '>' :: _ => some (.token (.symbol .gt), 1)
  | '-' :: _ => some (.token (.symbol .minus), 1)
  | '/' :: _ => some (.token (.symbol .slash), 1)
  | ';' :: _ => some (.token (.symbol .semicolon), 1)
  | _ => none

def isSpace (character : Char) : Bool :=
  character == ' ' || character == '\t' || character == '\r'

def scanLexeme (characters : List Char) : Option (Except DataFault Scanned) :=
  let early := scanEquality characters <|> scanTableRef characters <|> scanRange characters
  let late :=
    scanLiteral characters <|> scanQuotedName characters <|> scanWord characters <|>
      scanDropped characters <|> scanSymbol characters
  early.map .ok <|> scanNumeral characters <|> late.map .ok

/-- The tokens of a statement up to the first place where there is none, with the fault
that stands there. -/
structure Lexed where
  tokens : List PlacedToken
  fault : Option Error

/-- The tokens from a position on; the first `skipped` characters belong to a lexeme
already taken. -/
def lexFrom (position skipped : Nat) : List Char → Lexed
  | [] => ⟨[], none⟩
  | first :: rest =>
      if 0 < skipped then lexFrom (position + 1) (skipped - 1) rest
      else if isSpace first then lexFrom (position + 1) 0 rest
      else
        match scanLexeme (first :: rest) with
        | none => ⟨[], some (.statement (.illegalCharacter first position))⟩
        | some (.error fault) => ⟨[], some (.data fault)⟩
        | some (.ok (.dropped, length)) => lexFrom (position + 1) (length - 1) rest
        | some (.ok (.token token, length)) =>
            let later := lexFrom (position + 1) (length - 1) rest
            { later with tokens := ⟨token, position⟩ :: later.tokens }

def lex (statement : List Char) : Lexed :=
  lexFrom 0 0 statement

/-- A name as it is written in a statement: in backticks if it is a keyword, starts with a
digit or holds anything but letters, numerals and underscores. -/
def quoteIdentifier (name : String) : String :=
  let characters := name.toList
  let isPlain :=
    (Keyword.ofWord? name).isNone && !characters.isEmpty &&
      characters.all Text.isWordChar && !(characters.head?.map Text.isAnyDigit).getD false
  if isPlain then name else "`" ++ name ++ "`"

end GridQuery.Statement
