/-!
Texts in a grid's own query language: words of the language, and texts in quotes. The
language has no escapes, so a quoted text ends at the next quote of its kind.
-/

namespace GridQuery

inductive NativePart where
  | words (content : String)
  | quoted (quote : Char) (content : String)
  deriving DecidableEq, Repr

abbrev NativeText := List NativePart

def NativePart.text : NativePart → String
  | words content => content
  | quoted quote content => String.singleton quote ++ content ++ String.singleton quote

namespace NativeText

def text (parts : NativeText) : String :=
  String.join (parts.map NativePart.text)

def separated (words : String) : List NativeText → NativeText
  | [] => []
  | [parts] => parts
  | parts :: rest => parts ++ .words words :: separated words rest

/-- A text in the quotes that it does not contain; none if it contains both kinds. -/
def quote? (content : String) : Option NativeText :=
  if !content.contains '"' then some [.quoted '"' content]
  else if !content.contains '\'' then some [.quoted '\'' content]
  else none

end NativeText

end GridQuery
