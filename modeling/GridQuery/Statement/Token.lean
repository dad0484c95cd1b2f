import GridQuery.Number.Decimal
import GridQuery.Text.Case

/-!
The words of a statement: keywords, symbols, names, references, and literals.
-/

namespace GridQuery.Statement

/-- The words that cannot be names unless they are quoted. -/
inductive Keyword where
  | SELECT | DISTINCT | FROM | JOIN | INNER | LEFT | RIGHT | OUTER | ON | AS
  | WHERE | GROUP | BY | HAVING | ORDER | ASC | DESC | LIMIT | OFFSET
  | LABEL | FORMAT | PIVOT | INSERT | INTO | VALUES | UPDATE | SET | DELETE
  | AND | OR | NOT | IS | NULL | TRUE | FALSE
  | CONTAINS | STARTS | ENDS | WITH | LIKE | MATCHES | DATE
  deriving DecidableEq, Repr

def Keyword.spellings : List (String × Keyword) :=
  [("select", .SELECT), ("distinct", .DISTINCT), ("from", .FROM), ("join", .JOIN),
    ("inner", .INNER), ("left", .LEFT), ("right", .RIGHT), ("outer", .OUTER),
    ("on", .ON), ("as", .AS), ("where", .WHERE), ("group", .GROUP), ("by", .BY),
    ("having", .HAVING), ("order", .ORDER), ("asc", .ASC), ("desc", .DESC),
    ("limit", .LIMIT), ("offset", .OFFSET), ("label", .LABEL), ("format", .FORMAT),
    ("pivot", .PIVOT), ("insert", .INSERT), ("into", .INTO), ("values", .VALUES),
    ("update", .UPDATE), ("set", .SET), ("delete", .DELETE), ("and", .AND), ("or", .OR),
    ("not", .NOT), ("is", .IS), ("null", .NULL), ("true", .TRUE), ("false", .FALSE),
    ("contains", .CONTAINS), ("starts", .STARTS), ("ends", .ENDS), ("with", .WITH),
    ("like", .LIKE), ("matches", .MATCHES), ("date", .DATE)]

/-- The keyword that a word is in any case, if it is one. -/
def Keyword.ofWord? (word : String) : Option Keyword :=
  Keyword.spellings.lookup (Text.lower word)

inductive Symbol where
  | star
  | comma
  | dot
  | openParen
  | closeParen
  | eq
  | neq
  | lt
  | lte
  | gt
  | gte
  | plus
  | minus
  | slash
  | semicolon
  deriving DecidableEq, Repr

/-- The spelling of a symbol. Equality and inequality have one spelling each, whichever
was written. -/
def Symbol.text : Symbol → String
  | star => "*"
  | comma => ","
  | dot => "."
  | openParen => "("
  | closeParen => ")"
  | eq => "="
  | neq => "!="
  | lt => "<"
  | lte => "<="
  | gt => ">"
  | gte => ">="
  | plus => "+"
  | minus => "-"
  | slash => "/"
  | semicolon => ";"

inductive Token where
  /-- A keyword, with the letters in which it was written. -/
  | keyword (word : Keyword) (written : String)
  | symbol (sign : Symbol)
  | identifier (name : String)
  /-- A virtual table, without the colon before its name. -/
  | tableRef (name : String)
  | range (reference : String)
  | integer (value : Nat)
  | float (value : Double)
  /-- A string literal with its escapes resolved. -/
  | text (content : String)
  deriving DecidableEq, Repr

/-- What an error message shows of a token. -/
def Token.shown : Token → String
  | keyword _ written => written
  | symbol sign => sign.text
  | identifier name => name
  | tableRef name => name
  | range reference => reference
  | integer value => Text.ofNat value
  | float value => value.text
  | text content => content

structure PlacedToken where
  token : Token
  position : Nat
  deriving DecidableEq, Repr

end GridQuery.Statement
