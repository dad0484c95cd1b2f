import GridQuery.Statement.Lexer
import GridQuery.Statement.Parser.Query

/-!
Reading the statement of a text, and the error that tells where and why it is none.
-/

namespace GridQuery.Statement

/-- The error that a failure to read the tokens of a statement is told as. A fault of the
text comes first where the reading would have had to go on to it. -/
def errorOf (text : List Char) (lexed : Lexed) : ParseFailure → Error
  | .data fault => .data fault
  | .unexpected [] =>
      match lexed.fault with
      | some fault => fault
      | none =>
          match clauseAt text text.length with
          | .ok clause => .statement (.unexpectedEnd clause)
          | .error cause => .statement cause
  | .unexpected (next :: _) =>
      match clauseAt text next.position with
      | .ok clause => .statement (.unexpectedToken next.token.shown next.position clause)
      | .error cause => .statement cause
  | .rejected cause position atEnd =>
      match lexed.fault, clauseAt text position with
      | some fault, .error _ => fault
      | none, .error _ => .statement .unreadable
      | some fault, .ok clause =>
          if atEnd then fault else .statement (.rejected cause position clause)
      | none, .ok clause => .statement (.rejected cause position clause)

/-- The statement of a text by the grammar alone. -/
def parse (text : String) : Except Error Statement :=
  let characters := text.toList
  let lexed := lex characters
  match Parser.statement.run lexed.tokens with
  | .error failure => .error (errorOf characters lexed failure)
  | .ok (statement, _) =>
      match lexed.fault with
      | some fault => .error fault
      | none => .ok statement

def verbs : List String := ["SELECT", "INSERT", "UPDATE", "DELETE"]

/-- The statement of a text; one that does not start with a verb is refused as such. -/
def read (text : String) : Except Error Statement :=
  let trimmed := Text.trimList text.toList
  if trimmed.isEmpty then .error (.statement .empty)
  else
    match verb? text.toList with
    | .error cause => .error (.statement cause)
    | .ok verb =>
        match verb with
        | some word =>
            if verbs.contains word then parse text
            else .error (.statement (.unknownVerb word))
        | none =>
            .error (.statement (.unknownVerb (String.ofList (trimmed.take 1))))

end GridQuery.Statement
