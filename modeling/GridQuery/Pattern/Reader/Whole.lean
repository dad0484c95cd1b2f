import GridQuery.Pattern.Reader.Group

/-!
Reading regular expressions: alternatives of sequences, with groups, looks ahead and behind,
and conditionals in them.
-/

namespace GridQuery.Pattern

namespace Reader

/-- One pattern of the items of a sequence, the last of which comes first. -/
def sequence (done : List (Kind × Pattern)) : Pattern :=
  done.foldl (fun later (_, item) =>
    match later with
    | .empty => item
    | later => .seq item later) .empty

inductive Parenthesis where
  | item (item : Pattern)
  | nothing
  /-- Flags of the whole expression from here on. -/
  | flags (flags : Flags)

mutual

/-- Alternatives up to a closing parenthesis or the end. -/
def alternatives : Nat → Flags → Bool → Reader Pattern
  | 0, _, _ => refuse
  | fuel + 1, flags, isOutermost => do
      let first ← items fuel flags isOutermost []
      if ← takeIf '|' then
        let progress ← get
        return .alt first
          (← laterAlternatives fuel (if isOutermost then progress.flags else flags))
      else return first

def laterAlternatives : Nat → Flags → Reader Pattern
  | 0, _ => refuse
  | fuel + 1, flags => do
      let first ← items fuel flags false []
      if ← takeIf '|' then return .alt first (← laterAlternatives fuel flags)
      else return first

/-- The items of a sequence after those that are done, the last of which comes first. Flags
of the whole expression may only come before its first item. -/
def items : Nat → Flags → Bool → List (Kind × Pattern) → Reader Pattern
  | 0, _, _, _ => refuse
  | fuel + 1, flags, atStart, done => do
      match ← next? with
      | none => return sequence done
      | some (.plain '|') => return sequence done
      | some (.plain ')') => return sequence done
      | some sign =>
          skip 1
          let more (kind : Kind) (item : Pattern) :=
            items fuel flags atStart ((kind, item) :: done)
          match sign with
          | .escaped mark =>
              let item ← escape mark flags
              match item with
              | .anchor _ _ => more .anchor item
              | _ => more .item item
          | .plain character =>
              if flags.verbose && [' ', '\t', '\n', '\r', '\x0b', '\x0c'].contains character then
                items fuel flags atStart done
              else if flags.verbose && character == '#' then
                lineRest (← left)
                items fuel flags atStart done
              else
                match character with
                | '[' => more .item (← charSet flags)
                | '.' => more .item (.any flags)
                | '^' =>
                    more .anchor
                      (.anchor (if flags.multiline then .lineStart else .start) flags)
                | '$' =>
                    more .anchor
                      (.anchor (if flags.multiline then .lineEnd else .lastLineEnd) flags)
                | '*' => items fuel flags atStart (← repeatLast 0 none done)
                | '+' => items fuel flags atStart (← repeatLast 1 none done)
                | '?' => items fuel flags atStart (← repeatLast 0 (some 1) done)
                | '\x7b' =>
                    match ← bounds with
                    | none => more .item (.char character flags)
                    | some (least, greatest) =>
                        items fuel flags atStart (← repeatLast least greatest done)
                | '(' =>
                    match ← parenthesis fuel flags (atStart && done.isEmpty) with
                    | .item item => more .item item
                    | .nothing => items fuel flags atStart done
                    | .flags changed => items fuel changed atStart done
                | _ => more .item (.char character flags)

/-- What an opening parenthesis starts, up to its closing one. -/
def parenthesis : Nat → Flags → Bool → Reader Parenthesis
  | 0, _, _ => refuse
  | fuel + 1, flags, mayChangeFlags => do
      if !(← takeIf '?') then return .item (← capturing fuel flags none)
      else
        match ← take with
        | .escaped _ => refuse
        | .plain 'P' =>
            match ← take with
            | .plain '<' => return .item (← capturing fuel flags (some (← groupName '>')))
            | .plain '=' =>
                let name ← groupName ')'
                match (← get).names.lookup name with
                | some index => return .item (← reference index flags)
                | none => refuse
            | _ => refuse
        | .plain ':' => return .item (← enclosed fuel flags)
        | .plain '>' => return .item (.atomic (← enclosed fuel flags))
        | .plain '#' =>
            comment ((← left) + 1)
            return .nothing
        | .plain '=' => return .item (.lookAhead false (← enclosed fuel flags))
        | .plain '!' => return .item (.lookAhead true (← enclosed fuel flags))
        | .plain '<' =>
            let negated ←
              if ← takeIf '=' then pure false
              else
                expect '!'
                pure true
            return .item (← lookBehind fuel flags negated)
        | .plain '(' =>
            let index ← askedGroup
            let matched ← items fuel flags false []
            let unmatched ←
              if ← takeIf '|' then items fuel flags false [] else pure .empty
            expect ')'
            return .item (.conditional index matched unmatched)
        | .plain letter =>
            modify fun progress => { progress with rest := .plain letter :: progress.rest }
            match ← flagScope flags with
            | .whole changed =>
                if mayChangeFlags then
                  modify fun progress => { progress with flags := changed }
                  return .flags changed
                else refuse
            | .part changed => return .item (← enclosed fuel changed)

def enclosed : Nat → Flags → Reader Pattern
  | 0, _ => refuse
  | fuel + 1, flags => do
      let body ← alternatives fuel flags false
      expect ')'
      return body

def capturing : Nat → Flags → Option String → Reader Pattern
  | 0, _, _ => refuse
  | fuel + 1, flags, name => do
      let index ← openGroup name
      let body ← enclosed fuel flags
      closeGroup index body
      return .group index body

/-- A look behind, whose body has to be of one width. -/
def lookBehind : Nat → Flags → Bool → Reader Pattern
  | 0, _, _ => refuse
  | fuel + 1, flags, negated => do
      let outer := (← get).lookBehind
      modify fun progress =>
        { progress with lookBehind := some (outer.getD progress.groups.length) }
      let body ← enclosed fuel flags
      modify fun progress => { progress with lookBehind := outer }
      match body.width (groupWidth (← get)) with
      | (least, some greatest) =>
          if least == greatest then return .lookBehind negated least body else refuse
      | _ => refuse

end

end Reader

/-- The flags that an expression starts with: a point matches line breaks too. -/
def startFlags : Flags := ⟨false, false, true, false, false⟩

def read (expression : String) : Except Refusal Pattern := do
  match signs? expression.toList with
  | none => throw .malformed
  | some signs =>
      let start : Progress := ⟨signs, startFlags, [], [], none, 0⟩
      let (pattern, progress) ←
        (Reader.alternatives (8 * signs.length + 8) startFlags true).run start
      if progress.rest.isEmpty && progress.asked ≤ progress.groups.length then
        return pattern
      else throw .malformed

end GridQuery.Pattern
