import GridQuery.Pattern.Reader

/-!
Reading escapes and sets of characters.
-/

namespace GridQuery.Pattern.Reader

def isAsciiDigit (character : Char) : Bool :=
  '0' ≤ character && character ≤ '9'

def isOctalDigit (character : Char) : Bool :=
  '0' ≤ character && character ≤ '7'

def isHexDigit (character : Char) : Bool :=
  isAsciiDigit character || ('a' ≤ character && character ≤ 'f') ||
    ('A' ≤ character && character ≤ 'F')

def numberOf (base : Nat) (digits : List Char) : Nat :=
  digits.foldl (fun value digit =>
    let worth :=
      if isAsciiDigit digit then digit.toNat - '0'.toNat
      else digit.toLower.toNat - 'a'.toNat + 10
    base * value + worth) 0

def hexadecimal (count : Nat) : Reader Char := do
  let digits ← takeWhile isHexDigit count
  let code := numberOf 16 digits
  if digits.length == count && code < 0x110000 then return Char.ofNat code else refuse

/-- The character of an escape that means the same inside a set and outside. -/
def commonEscape? (mark : Char) : Option Char :=
  [('a', '\x07'), ('f', '\x0c'), ('n', '\n'), ('r', '\r'), ('t', '\t'), ('v', '\x0b'),
    ('\\', '\\')].lookup mark

/-- The class that an escape stands for, and whether it is the characters outside. -/
def classEscape? (mark : Char) : Option (CharClass × Bool) :=
  [('d', (CharClass.digit, false)), ('D', (.digit, true)), ('s', (.blank, false)),
    ('S', (.blank, true)), ('w', (.word, false)), ('W', (.word, true))].lookup mark

/-- The character of any other escape. A letter has to have a meaning. -/
def otherEscape (mark : Char) : Reader Char := do
  if mark == 'x' then hexadecimal 2
  else if mark == 'u' then hexadecimal 4
  else if mark == 'U' then hexadecimal 8
  else if mark.isAlpha then refuse
  else return mark

def setEscape (mark : Char) : Reader SetItem := do
  if mark == 'b' then return .char '\x08'
  else
    match commonEscape? mark, classEscape? mark with
    | some character, _ => return .char character
    | _, some (kind, negated) => return .charClass kind negated
    | none, none =>
        if isOctalDigit mark then
          let code := numberOf 8 (mark :: (← takeWhile isOctalDigit 2))
          if code ≤ 0o377 then return .char (Char.ofNat code) else refuse
        else if isAsciiDigit mark then refuse
        else return .char (← otherEscape mark)

def setMember : Sign → Reader SetItem
  | .plain character => return .char character
  | .escaped mark => setEscape mark

/-- The members of a set up to its closing bracket, which is a member if it comes
first. -/
def setItems : Nat → Bool → Reader (List SetItem)
  | 0, _ => refuse
  | fuel + 1, isFirst => do
      let sign ← take
      if sign == .plain ']' && !isFirst then return []
      else
        let first ← setMember sign
        if ← takeIf '-' then
          let sign ← take
          if sign == .plain ']' then return [first, .char '-']
          else
            match first, ← setMember sign with
            | .char lowest, .char highest =>
                if highest < lowest then refuse
                else return .range lowest highest :: (← setItems fuel false)
            | _, _ => refuse
        else return first :: (← setItems fuel false)

def charSet (flags : Flags) : Reader Pattern := do
  let negated ← takeIf '^'
  return .set negated (← setItems ((← left) + 1) true) flags

/-- A reference to a group, which has to be closed, and to lie before a look behind that
is open. -/
def reference (index : Nat) (flags : Flags) : Reader Pattern := do
  let progress ← get
  match progress.groups[index - 1]? with
  | some (some _) =>
      if index == 0 || (progress.lookBehind.map (decide <| · < index)).getD false then refuse
      else return .backReference index flags
  | _ => refuse

def escape (mark : Char) (flags : Flags) : Reader Pattern := do
  let anchors : List (Char × Anchor) :=
    [('A', .start), ('b', .boundary), ('B', .nonBoundary), ('Z', .finish)]
  match anchors.lookup mark, classEscape? mark, commonEscape? mark with
  | some kind, _, _ => return .anchor kind flags
  | _, some (kind, negated), _ => return .set false [.charClass kind negated] flags
  | _, _, some character => return .char character flags
  | none, none, none =>
      if mark == '0' then
        return .char (Char.ofNat (numberOf 8 (mark :: (← takeWhile isOctalDigit 2)))) flags
      else if isAsciiDigit mark then
        match ← takeWhile isAsciiDigit 1 with
        | [] => reference (numberOf 10 [mark]) flags
        | second :: _ =>
            let third ←
              if isOctalDigit mark && isOctalDigit second then takeWhile isOctalDigit 1
              else pure []
            match third with
            | [] => reference (numberOf 10 [mark, second]) flags
            | last :: _ =>
                let code := numberOf 8 [mark, second, last]
                if code ≤ 0o377 then return .char (Char.ofNat code) flags else refuse
      else return .char (← otherEscape mark) flags

end GridQuery.Pattern.Reader
