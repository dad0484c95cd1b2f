import GridQuery.Datum.Text

/-!
Writing JSON texts, on one line or indented. A datum that JSON has no form for is written
as its text.
-/

namespace GridQuery.Datum

structure JsonStyle where
  /-- Whether characters past ASCII are escaped. -/
  asciiOnly : Bool
  /-- The blanks that each level is indented by; none for a text on one line. -/
  indent : Option Nat

def JsonStyle.compact : JsonStyle := ⟨false, none⟩

namespace Json

def unitEscape (unit : Nat) : List Char :=
  '\\' :: 'u' :: hexadecimal 4 unit

def escapedChar (asciiOnly : Bool) (character : Char) : List Char :=
  let named :=
    [('"', '"'), ('\\', '\\'), ('\n', 'n'), ('\r', 'r'), ('\t', 't'), ('\x0c', 'f'),
      ('\x08', 'b')]
  let code := character.toNat
  match named.lookup character with
  | some mark => ['\\', mark]
  | none =>
      if code < 0x20 then unitEscape code
      else if !asciiOnly || code < 0x7f then [character]
      else if code < 0x10000 then unitEscape code
      else
        let offset := code - 0x10000
        unitEscape (0xD800 + offset / 0x400) ++ unitEscape (0xDC00 + offset % 0x400)

def stringText (style : JsonStyle) (content : String) : String :=
  String.ofList ('"' :: (content.toList.flatMap (escapedChar style.asciiOnly) ++ ['"']))

def numberText : Number → String
  | .float .nan => "NaN"
  | .float (.infinite negative) => if negative then "-Infinity" else "Infinity"
  | value => value.literalText

/-- The parts of a list or record between its brackets, `depth` levels deep. -/
def enclosed (style : JsonStyle) (depth : Nat) (opening closing : String)
    (parts : List String) : String :=
  match parts, style.indent with
  | [], _ => opening ++ closing
  | parts, none => opening ++ Text.joined "," parts ++ closing
  | parts, some width =>
      let line (level : Nat) := "\n" ++ String.ofList (List.replicate (width * level) ' ')
      opening ++ line (depth + 1) ++ Text.joined ("," ++ line (depth + 1)) parts ++
        line depth ++ closing

mutual

def render (style : JsonStyle) (depth : Nat) : Datum → String
  | .null => "null"
  | .boolean flag => if flag then "true" else "false"
  | .number value => numberText value
  | .text content => stringText style content
  | .list items => enclosed style depth "[" "]" (renderItems style depth items)
  | .record fields => enclosed style depth "\x7b" "\x7d" (renderFields style depth fields)
  | datum => stringText style datum.plainText

def renderItems (style : JsonStyle) (depth : Nat) : List Datum → List String
  | [] => []
  | item :: rest => render style (depth + 1) item :: renderItems style depth rest

def renderFields (style : JsonStyle) (depth : Nat) :
    List (String × Datum) → List String
  | [] => []
  | (name, value) :: rest =>
      let mark := if style.indent.isSome then ": " else ":"
      (stringText style name ++ mark ++ render style (depth + 1) value) ::
        renderFields style depth rest

end

end Json

def toJson (style : JsonStyle) (datum : Datum) : String :=
  Json.render style 0 datum

end GridQuery.Datum
