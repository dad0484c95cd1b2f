import GridQuery.Fault
import GridQuery.Pattern

/-!
Readers of the signs of a regular expression: what is known on the way through one, and
taking signs from it.
-/

namespace GridQuery.Pattern

/-- A character of an expression, or one with a backslash before it. -/
inductive Sign where
  | plain (character : Char)
  | escaped (character : Char)
  deriving DecidableEq, Repr

/-- The signs of an expression; none if it ends with a backslash. -/
def signs? : List Char → Option (List Sign)
  | [] => some []
  | ['\\'] => none
  | '\\' :: character :: rest => (signs? rest).map (.escaped character :: ·)
  | character :: rest => (signs? rest).map (.plain character :: ·)

inductive Refusal where
  | malformed
  | data (fault : DataFault)

/-- The widths that a pattern can match, and that of a group that is still open. -/
abbrev Width := Nat × Option Nat

/-- What is known on the way through an expression. -/
structure Progress where
  rest : List Sign
  flags : Flags
  /-- The widths of the groups in order, none for one that is open. -/
  groups : List (Option Width)
  names : List (String × Nat)
  /-- The number of groups before the look behind that is open, if one is. -/
  lookBehind : Option Nat
  /-- The greatest group that a conditional asks for. -/
  asked : Nat

abbrev Reader := StateT Progress (Except Refusal)

namespace Reader

def refuse {α : Type} : Reader α :=
  throw .malformed

def next? : Reader (Option Sign) := do
  return (← get).rest.head?

def skip (count : Nat) : Reader Unit :=
  modify fun progress => { progress with rest := progress.rest.drop count }

def take : Reader Sign := do
  match ← next? with
  | some sign => skip 1; return sign
  | none => refuse

def takeIf (character : Char) : Reader Bool := do
  if (← next?) == some (.plain character) then skip 1; return true else return false

def expect (character : Char) : Reader Unit := do
  if !(← takeIf character) then refuse

def takeWhile (test : Char → Bool) : Nat → Reader (List Char)
  | 0 => return []
  | most + 1 => do
      match ← next? with
      | some (.plain character) =>
          if test character then
            skip 1
            return character :: (← takeWhile test most)
          else return []
      | _ => return []

/-- The number of signs that are left, a bound on what can be taken. -/
def left : Reader Nat := do
  return (← get).rest.length

end Reader

end GridQuery.Pattern
