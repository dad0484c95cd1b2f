import GridQuery.Text.Basic
import GridQuery.Text.Digit

/-!
The options that the arguments of a command line come to.
-/

namespace GridQuery.CommandLine

inductive Flag where
  | help
  | command
  | file
  | tables
  | spreadsheet
  | range
  | token
  | metadata
  | verbose
  deriving DecidableEq, Repr

def spellings : List (String × Flag) :=
  [("-h", .help), ("--help", .help), ("-c", .command), ("--command", .command),
    ("-f", .file), ("--file", .file), ("-t", .tables), ("--tables", .tables),
    ("--spreadsheet", .spreadsheet), ("--range", .range), ("--token", .token),
    ("--metadata", .metadata), ("-v", .verbose), ("--verbose", .verbose)]

def Flag.takesValue : Flag → Bool
  | .help => false
  | .metadata => false
  | .verbose => false
  | _ => true

/-- Why there are no arguments to go on with: help was asked for, or they are wrong. -/
inductive Stop where
  | helped
  | misused
  deriving DecidableEq, Repr

/-- One argument: a value, or a flag with what is attached to it. A flag of another
spelling is unknown. -/
inductive Argument where
  | value (content : String)
  | flag (flag : Flag) (attached : Option String)
  | unknown
  deriving DecidableEq, Repr

/-- The digits of a decimal numeral, with at most one point among them and one after
it. -/
def isPlainNumber (characters : List Char) : Bool :=
  let whole := characters.takeWhile Text.isDigit
  match characters.drop whole.length with
  | [] => !whole.isEmpty
  | '.' :: fraction => !fraction.isEmpty && fraction.all Text.isDigit
  | _ => false

/-- The part before the first sign of equality, and the part after it. -/
def splitEquality (content : String) : Option (String × String) :=
  let characters := content.toList
  let name := characters.takeWhile (· != '=')
  match characters.drop name.length with
  | _ :: rest => some (String.ofList name, String.ofList rest)
  | [] => none

/-- The flags that a long flag's beginning can be completed to. -/
def completions (name : String) (attached : Option String) : List Argument :=
  spellings.filterMap fun (spelling, flag) =>
    if Text.startsWith spelling name then some (.flag flag attached) else none

/-- What an argument that starts with a hyphen and is no spelling of a flag can be: a long
flag cut short, or a short one with something attached to it. -/
def readings (content : String) : List Argument :=
  match content.toList with
  | '-' :: '-' :: _ =>
      match splitEquality content with
      | some (name, attached) => completions name (some attached)
      | none => completions content none
  | '-' :: letter :: rest =>
      match spellings.lookup (String.ofList ['-', letter]) with
      | some flag => [.flag flag (some (String.ofList rest))]
      | none => []
  | _ => []

/-- Whether an argument that is no flag can be a value all the same. -/
def canBeValue (content : String) : Bool :=
  isPlainNumber (content.toList.drop 1) || content.contains ' '

/-- The reading of an argument that is not the end of the flags. One that could be several
flags is refused. -/
def Argument.ofText (content : String) : Except Stop Argument :=
  match content.toList with
  | '-' :: _ :: _ =>
      match spellings.lookup content with
      | some found => .ok (.flag found none)
      | none =>
          let attached := do
            let (name, rest) ← splitEquality content
            let found ← spellings.lookup name
            return Argument.flag found (some rest)
          match attached, readings content with
          | some argument, _ => .ok argument
          | none, [argument] => .ok argument
          | none, [] => .ok (if canBeValue content then .value content else .unknown)
          | none, _ => .error .misused
  | _ => .ok (.value content)

/-- The arguments with their texts. After two hyphens alone there are no more flags. -/
def readArguments : List String → Except Stop (List (Argument × String))
  | [] => .ok []
  | content :: rest =>
      if content == "--" then
        .ok ((.unknown, content) :: rest.map fun content => (.value content, content))
      else do
        let argument ← Argument.ofText content
        return (argument, content) :: (← readArguments rest)

structure Options where
  command : Option String := none
  file : Option String := none
  tables : Option String := none
  spreadsheet : Option String := none
  range : String := "A:Z"
  token : Option String := none
  metadata : Bool := false
  verbose : Bool := false
  deriving Repr

/-- A value given to a flag. A statement is given by itself or by a file, not by both. -/
def Options.give (options : Options) (flag : Flag) (value : String) : Except Stop Options :=
  match flag with
  | .command =>
      if options.file.isSome then .error .misused
      else .ok { options with command := some value }
  | .file =>
      if options.command.isSome then .error .misused
      else .ok { options with file := some value }
  | .tables => .ok { options with tables := some value }
  | .spreadsheet => .ok { options with spreadsheet := some value }
  | .range => .ok { options with range := value }
  | .token => .ok { options with token := some value }
  | _ => .error .misused

def Options.raise (options : Options) : Flag → Except Stop Options
  | .help => .error .helped
  | .metadata => .ok { options with metadata := true }
  | .verbose => .ok { options with verbose := true }
  | _ => .error .misused

/-- The flags that one argument raises, and the one that it gives a value to, with the
value if that is attached. -/
structure Flags where
  raised : List Flag
  valued : Option (Flag × Option String)

/-- The flags of the letters after a short flag without a value. -/
def attachedFlags : List Char → Except Stop Flags
  | [] => .ok ⟨[], none⟩
  | letter :: rest =>
      match spellings.lookup (String.ofList ['-', letter]) with
      | none => .error .misused
      | some flag =>
          if flag.takesValue then
            let attached := if rest.isEmpty then none else some (String.ofList rest)
            .ok ⟨[], some (flag, attached)⟩
          else do
            let flags ← attachedFlags rest
            return { flags with raised := flag :: flags.raised }

/-- The flags of an argument with something attached to its first flag or not. -/
def flagsOf (flag : Flag) (attached : Option String) (isLong : Bool) : Except Stop Flags :=
  if flag.takesValue then .ok ⟨[], some (flag, attached)⟩
  else
    match attached with
    | none => .ok ⟨[flag], none⟩
    | some content =>
        if isLong || content.isEmpty then .error .misused
        else do
          let flags ← attachedFlags content.toList
          return { flags with raised := flag :: flags.raised }

/-- What the arguments read so far come to: the options, and whether an argument was of no
use. -/
structure Reading where
  options : Options
  isStray : Bool

def Reading.add (reading : Reading) (flags : Flags) (value : Option (Flag × String)) :
    Except Stop Reading := do
  let options ← flags.raised.foldlM Options.raise reading.options
  match value with
  | some (flag, content) => return { reading with options := ← options.give flag content }
  | none => return { reading with options }

/-- The options of arguments. A flag that takes a value is followed by one, unless it is
attached. -/
def readOptions (reading : Reading) : List (Argument × String) → Except Stop Reading
  | [] => .ok reading
  | (.flag flag attached, content) :: rest => do
      let flags ← flagsOf flag attached (Text.startsWith content "--")
      match flags.valued, rest with
      | none, rest => readOptions (← reading.add flags none) rest
      | some (flag, some value), rest =>
          readOptions (← reading.add flags (some (flag, value))) rest
      | some (flag, none), (.value value, _) :: rest =>
          readOptions (← reading.add flags (some (flag, value))) rest
      | some (_, none), _ => throw .misused
  | _ :: rest => readOptions { reading with isStray := true } rest

/-- The options of a command line, in which a statement or a file with one is given. -/
def parse (arguments : List String) : Except Stop Options := do
  let reading ← readOptions ⟨{}, false⟩ (← readArguments arguments)
  let options := reading.options
  if reading.isStray || (options.command.isNone && options.file.isNone) then throw .misused
  return options

end GridQuery.CommandLine
