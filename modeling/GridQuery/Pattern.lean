import GridQuery.Text.Case
import GridQuery.Text.Digit
import GridQuery.Text.Letter
import GridQuery.Text.Blank

/-!
Regular expressions and the texts that they match as a whole.

A match is a sequence of choices. `Pattern.states` lists the states that a pattern leads
to from a state, the preferred one first and each once, so a later part of the pattern
falls back on them in order.
-/

namespace GridQuery

namespace Pattern

/-- A class of characters, its digits, blanks or words of ASCII only or of any script. -/
inductive CharClass where
  | digit
  | blank
  | word
  deriving DecidableEq, Repr

def isAscii (character : Char) : Bool :=
  character.toNat < 128

def CharClass.contains (asciiOnly : Bool) (character : Char) : CharClass → Bool
  | digit => Text.isDigit character && (!asciiOnly || isAscii character)
  | blank =>
      if asciiOnly then [' ', '\t', '\n', '\r', '\x0b', '\x0c'].contains character
      else Text.isBlank character
  | word => Text.isWordChar character && (!asciiOnly || isAscii character)

inductive SetItem where
  | char (character : Char)
  | range (first last : Char)
  | charClass (kind : CharClass) (negated : Bool)
  deriving DecidableEq, Repr

/-- How the characters of a part of a pattern are compared. -/
structure Flags where
  ignoreCase : Bool
  multiline : Bool
  dotAll : Bool
  verbose : Bool
  asciiOnly : Bool
  deriving DecidableEq, Repr

inductive Anchor where
  | start
  | lineStart
  | finish
  /-- The end, or a line break that is the last character. -/
  | lastLineEnd
  | lineEnd
  | boundary
  | nonBoundary
  deriving DecidableEq, Repr

/-- Which of the possible numbers of repetitions is preferred: the greatest, the least, or
the greatest and no other. -/
inductive Preference where
  | greedy
  | lazy
  | possessive
  deriving DecidableEq, Repr

end Pattern

open Pattern in
inductive Pattern where
  | empty
  | char (character : Char) (flags : Flags)
  | any (flags : Flags)
  | set (negated : Bool) (items : List SetItem) (flags : Flags)
  | anchor (anchor : Anchor) (flags : Flags)
  | group (index : Nat) (body : Pattern)
  | backReference (index : Nat) (flags : Flags)
  | seq (first second : Pattern)
  | alt (first second : Pattern)
  /-- A body repeated from a least to a greatest number of times, if there is one. -/
  | repeated (least : Nat) (greatest : Option Nat) (preference : Preference)
      (body : Pattern)
  | lookAhead (negated : Bool) (body : Pattern)
  /-- A body that ends here and starts `width` characters before. -/
  | lookBehind (negated : Bool) (width : Nat) (body : Pattern)
  | atomic (body : Pattern)
  /-- One of two bodies, chosen by whether a group has matched. -/
  | conditional (index : Nat) (matched unmatched : Pattern)

namespace Pattern

/-- A place in a text, and what the groups have matched. -/
structure State where
  /-- The characters before the place, the nearest first. -/
  before : List Char
  after : List Char
  groups : List (Nat × List Char)

/-- States of one text are alike if they are at one place with the same groups. -/
def State.same (left right : State) : Bool :=
  left.after.length == right.after.length && left.groups == right.groups

/-- The first of each states that are alike. -/
def distinctStates : List State → List State
  | [] => []
  | state :: rest =>
      state :: (distinctStates rest).filter fun other => !state.same other

def State.advance (state : State) : State :=
  match state.after with
  | [] => state
  | character :: rest => { state with before := character :: state.before, after := rest }

def State.back? (state : State) : Nat → Option State
  | 0 => some state
  | count + 1 =>
      match state.before with
      | [] => none
      | character :: rest =>
          State.back? { state with before := rest, after := character :: state.after } count

def State.group? (state : State) (index : Nat) : Option (List Char) :=
  state.groups.lookup index

/-- Records what a group has matched: the characters from `start` to here. -/
def State.capture (state : State) (index : Nat) (start : State) : State :=
  let content := start.after.take (start.after.length - state.after.length)
  { state with groups := (index, content) :: state.groups.filter (·.1 != index) }

def sameChar (flags : Flags) (left right : Char) : Bool :=
  if !flags.ignoreCase then left == right
  else if flags.asciiOnly then left.toLower == right.toLower
  else Text.sameLetter left right

def variants (flags : Flags) (character : Char) : List Char :=
  if !flags.ignoreCase then [character]
  else if flags.asciiOnly then [character, character.toLower, character.toUpper]
  else character :: Text.caseVariants character

def SetItem.contains (flags : Flags) (character : Char) : SetItem → Bool
  | char member => (variants flags character).contains member
  | range first last =>
      (variants flags character).any fun variant => first ≤ variant && variant ≤ last
  | charClass kind negated => kind.contains flags.asciiOnly character != negated

/-- Whether a place stands between a character of a word and one of none; there is no such
place in an empty text. -/
def isBoundary (asciiOnly : Bool) (state : State) : Bool :=
  let isWord (characters : List Char) :=
    (characters.head?.map fun character =>
      CharClass.word.contains asciiOnly character).getD false
  isWord state.before != isWord state.after

def Anchor.holds (flags : Flags) (state : State) : Anchor → Bool
  | start => state.before.isEmpty
  | lineStart => state.before.isEmpty || state.before.head? == some '\n'
  | finish => state.after.isEmpty
  | lastLineEnd => state.after.isEmpty || state.after == ['\n']
  | lineEnd => state.after.isEmpty || state.after.head? == some '\n'
  | boundary => isBoundary flags.asciiOnly state
  | nonBoundary =>
      !(state.before.isEmpty && state.after.isEmpty) && !isBoundary flags.asciiOnly state

def one (test : Char → Bool) (state : State) : List State :=
  match state.after with
  | [] => []
  | character :: _ => if test character then [state.advance] else []

def literalStates (same : Char → Char → Bool) : List Char → State → List State
  | [], state => [state]
  | wanted :: rest, state =>
      match state.after with
      | [] => []
      | character :: _ =>
          if same wanted character then literalStates same rest state.advance else []

/-- Repeats a body. Past the least number of times it goes on from a place only if the
last repetition did not start there. -/
def repeatStates (body : State → List State) (least : Nat) (greatest : Option Nat)
    (isLazy : Bool) : Nat → Nat → Option Nat → State → List State
  | 0, _, _, _ => []
  | fuel + 1, count, lastStart, state =>
      let place := state.after.length
      let mayGoOn :=
        count < least ||
          ((greatest.map fun most => decide (count < most)).getD true &&
            lastStart != some place)
      let more :=
        if mayGoOn then
          distinctStates ((body state).flatMap fun next =>
            repeatStates body least greatest isLazy fuel (count + 1) (some place) next)
        else []
      let here := if least ≤ count then [state] else []
      if isLazy then here ++ more else more ++ here

/-- The states that a pattern leads to from a state, the preferred one first. -/
def states : Pattern → State → List State
  | empty, state => [state]
  | char character flags, state => one (sameChar flags character) state
  | any flags, state => one (fun character => flags.dotAll || character != '\n') state
  | set negated items flags, state =>
      one (fun character => items.any (·.contains flags character) != negated) state
  | anchor kind flags, state => if kind.holds flags state then [state] else []
  | group index body, state =>
      (body.states state).map fun reached => reached.capture index state
  | backReference index flags, state =>
      match state.group? index with
      | none => []
      | some content =>
          let same (left right : Char) :=
            if !flags.ignoreCase then left == right
            else if flags.asciiOnly then left.toLower == right.toLower
            else Text.lowerChar left == Text.lowerChar right
          literalStates same content state
  | seq first second, state =>
      distinctStates ((first.states state).flatMap second.states)
  | alt first second, state =>
      distinctStates (first.states state ++ second.states state)
  | repeated least greatest preference body, state =>
      let fuel := least + 2 * state.after.length + 3
      let reached :=
        distinctStates
          (repeatStates body.states least greatest (preference == .lazy) fuel 0 none state)
      if preference == .possessive then reached.take 1 else reached
  | lookAhead negated body, state =>
      match body.states state with
      | [] => if negated then [state] else []
      | found :: _ => if negated then [] else [{ state with groups := found.groups }]
  | lookBehind negated width body, state =>
      match state.back? width with
      | none => if negated then [state] else []
      | some earlier =>
          match body.states earlier with
          | [] => if negated then [state] else []
          | found :: _ => if negated then [] else [{ state with groups := found.groups }]
  | atomic body, state => (body.states state).take 1
  | conditional index matched unmatched, state =>
      if (state.group? index).isSome then matched.states state
      else unmatched.states state

def matchesWhole (pattern : Pattern) (text : String) : Bool :=
  (pattern.states ⟨[], text.toList, []⟩).any (·.after.isEmpty)

/-- The least and the greatest number of characters that a pattern matches, the latter
none if there is no greatest. A group's widths are given by its index. -/
def width (groups : Nat → Nat × Option Nat) : Pattern → Nat × Option Nat
  | empty => (0, some 0)
  | char _ _ => (1, some 1)
  | any _ => (1, some 1)
  | set _ _ _ => (1, some 1)
  | anchor _ _ => (0, some 0)
  | group _ body => body.width groups
  | backReference index _ => groups index
  | seq first second =>
      let (least, greatest) := first.width groups
      let (otherLeast, otherGreatest) := second.width groups
      (least + otherLeast, do return (← greatest) + (← otherGreatest))
  | alt first second =>
      let (least, greatest) := first.width groups
      let (otherLeast, otherGreatest) := second.width groups
      (min least otherLeast, do return max (← greatest) (← otherGreatest))
  | repeated least greatest _ body =>
      let (bodyLeast, bodyGreatest) := body.width groups
      (bodyLeast * least,
        match greatest, bodyGreatest with
        | _, some 0 => some 0
        | some 0, _ => some 0
        | some most, some wide => some (wide * most)
        | _, _ => none)
  | lookAhead _ _ => (0, some 0)
  | lookBehind _ _ _ => (0, some 0)
  | atomic body => body.width groups
  | conditional _ matched unmatched =>
      let (least, greatest) := matched.width groups
      let (otherLeast, otherGreatest) := unmatched.width groups
      (min least otherLeast, do return max (← greatest) (← otherGreatest))

end Pattern

end GridQuery
