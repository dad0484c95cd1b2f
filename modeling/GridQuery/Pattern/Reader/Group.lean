import GridQuery.Number.Decimal
import GridQuery.Pattern.Reader.Escape

/-!
Reading what is around the items of a regular expression: repetitions of three kinds,
comments, flags for the whole or a part, and groups with or without a name.
-/

namespace GridQuery.Pattern.Reader

/-- The greatest number of repetitions, which no count reaches. -/
def repetitionLimit : Nat := Nat.pow 2 32 - 1

def countOf (digits : List Char) : Reader (Option Nat) := do
  if digits.isEmpty then return none
  else
    let count := numberOf 10 digits
    if repetitionLimit ≤ count then throw (.data .outOfRange) else return some count

/-- The bounds of a repetition after its brace; none if the brace opens no bounds. -/
def bounds : Reader (Option (Nat × Option Nat)) := do
  let start := (← get).rest
  let least ← takeWhile isAsciiDigit (← left)
  let hasComma ← takeIf ','
  let greatest ← if hasComma then takeWhile isAsciiDigit (← left) else pure least
  if start.head? != some (.plain '\x7d') && (← takeIf '\x7d') then
    let least ← countOf least
    let greatest ← countOf greatest
    if (greatest.map (decide <| · < least.getD 0)).getD false then refuse
    else return some (least.getD 0, greatest)
  else
    modify fun progress => { progress with rest := start }
    return none

/-- What has been read last in a sequence, which a repetition is put around. -/
inductive Kind where
  | item
  | anchor
  | repetition
  deriving DecidableEq

/-- The last item of a sequence with a repetition around it. -/
def repeatLast (least : Nat) (greatest : Option Nat) (done : List (Kind × Pattern)) :
    Reader (List (Kind × Pattern)) := do
  match done with
  | (.item, body) :: earlier =>
      let preference : Preference ←
        match ← next? with
        | some (.plain '?') => skip 1; pure .lazy
        | some (.plain '+') => skip 1; pure .possessive
        | _ => pure .greedy
      return (.repetition, .repeated least greatest preference body) :: earlier
  | _ => refuse

/-- The text up to a closing character, at least one character long. -/
def nameUntil (closing : Char) : Nat → Reader (List Char)
  | 0 => refuse
  | fuel + 1 => do
      match ← take with
      | .escaped _ => refuse
      | .plain character =>
          if character == closing then return []
          else return character :: (← nameUntil closing fuel)

def isGroupName (name : List Char) : Bool :=
  match name with
  | [] => false
  | first :: _ => name.all Text.isWordChar && !Text.isAnyDigit first

def groupName (closing : Char) : Reader String := do
  let name ← nameUntil closing ((← left) + 1)
  if isGroupName name then return String.ofList name else refuse

def comment : Nat → Reader Unit
  | 0 => refuse
  | fuel + 1 => do
      if (← take) == .plain ')' then return () else comment fuel

def lineRest : Nat → Reader Unit
  | 0 => return ()
  | fuel + 1 => do
      match ← next? with
      | none => return ()
      | some sign => skip 1; if sign == .plain '\n' then return () else lineRest fuel

/-- A flag set or unset; none for a letter that is no flag. -/
def setFlag? (letter : Char) (value : Bool) (flags : Flags) : Option Flags :=
  match letter with
  | 'i' => some { flags with ignoreCase := value }
  | 'm' => some { flags with multiline := value }
  | 's' => some { flags with dotAll := value }
  | 'x' => some { flags with verbose := value }
  | 'a' => if value then some { flags with asciiOnly := true } else none
  | 'u' => if value then some { flags with asciiOnly := false } else none
  | _ => none

/-- Letters of flags up to a sign that is none, and that sign. -/
def flagLetters : Nat → Reader (List Char × Char)
  | 0 => refuse
  | fuel + 1 => do
      match ← take with
      | .escaped _ => refuse
      | .plain letter =>
          if ['-', ':', ')'].contains letter then return ([], letter)
          else
            let (letters, closing) ← flagLetters fuel
            return (letter :: letters, closing)

def applyFlags (letters : List Char) (value : Bool) (flags : Flags) : Reader Flags := do
  match letters.foldlM (fun flags letter => setFlag? letter value flags) flags with
  | some changed => return changed
  | none => refuse

/-- Flags after `(?`: those of the whole expression, or of the part after a colon. -/
inductive FlagScope where
  | whole (flags : Flags)
  | part (flags : Flags)

def flagScope (flags : Flags) : Reader FlagScope := do
  let (added, closing) ← flagLetters ((← left) + 1)
  let isMixed := added.contains 'a' && added.contains 'u'
  let widened ← applyFlags added true flags
  if isMixed then refuse
  else if closing == ')' then
    if added.isEmpty then refuse else return .whole widened
  else if closing == ':' then
    if added.isEmpty then refuse else return .part widened
  else
    let (removed, closing) ← flagLetters ((← left) + 1)
    if closing != ':' || removed.isEmpty || removed.any added.contains then refuse
    else return .part (← applyFlags removed false widened)

/-- Opens a group, of a name if it has one, and gives its index. -/
def openGroup (name : Option String) : Reader Nat := do
  let progress ← get
  let index := progress.groups.length + 1
  let names ←
    match name with
    | none => pure progress.names
    | some name =>
        if (progress.names.lookup name).isSome then refuse
        else pure ((name, index) :: progress.names)
  MonadState.set { progress with groups := progress.groups ++ [none], names }
  return index

def groupWidth (progress : Progress) (index : Nat) : Width :=
  match progress.groups[index - 1]? with
  | some (some width) => width
  | _ => (0, none)

def closeGroup (index : Nat) (body : Pattern) : Reader Unit :=
  modify fun progress =>
    let width := body.width (groupWidth progress)
    { progress with groups := progress.groups.set (index - 1) (some width) }

/-- The group that a conditional asks for, by name or number. -/
def askedGroup : Reader Nat := do
  let name ← nameUntil ')' ((← left) + 1)
  let progress ← get
  let index ←
    if isGroupName name then
      match progress.names.lookup (String.ofList name) with
      | some index => pure index
      | none => refuse
    else if !name.isEmpty && name.all Text.isDigit then
      pure (ofDigits (name.filterMap Text.digitValue?))
    else refuse
  if index == 0 then refuse
  match progress.lookBehind with
  | some before =>
      let isClosed := ((progress.groups[index - 1]?).bind id).isSome
      if !isClosed || before < index then refuse
  | none => pure ()
  modify fun progress => { progress with asked := max progress.asked index }
  return index

end GridQuery.Pattern.Reader
