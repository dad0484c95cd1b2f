import GridQuery.Datum.Json.Reader
import GridQuery.Datum.Text

/-!
Requests to a web service and its responses, as far as a client of JSON services needs
them.
-/

namespace GridQuery.Http

inductive Method where
  | get
  | post
  deriving DecidableEq, Repr

def Method.name : Method → String
  | get => "GET"
  | post => "POST"

structure Request where
  method : Method
  url : String
  params : List (String × String)
  authorization : String
  body : Option Datum

structure Response where
  status : Nat
  body : String
  deriving Repr

/-- What carries requests to their service: a connection can fail, which is told in a
text. -/
abbrev Transport (State : Type) := Request → StateM State (Except String Response)

/-- Whether a byte stands for itself in a part of an address. -/
def isUnreserved (byte : UInt8) : Bool :=
  let character := Char.ofNat byte.toNat
  character.isAlphanum || character == '_' || character == '.' || character == '-' ||
    character == '~'

/-- A byte in a part of an address: as itself, or by its two digits to the base of 16. -/
def encodedByte (byte : UInt8) : List Char :=
  if isUnreserved byte then [Char.ofNat byte.toNat]
  else '%' :: (Datum.hexadecimal 2 byte.toNat).map Char.toUpper

def encoded (text : String) : String :=
  String.ofList (text.toUTF8.toList.flatMap encodedByte)

def Response.isError (response : Response) : Bool :=
  400 ≤ response.status && response.status ≤ 599

def reasons : List (Nat × String) :=
  [(400, "Bad Request"), (401, "Unauthorized"), (402, "Payment Required"),
    (403, "Forbidden"), (404, "Not Found"), (405, "Method Not Allowed"),
    (406, "Not Acceptable"), (407, "Proxy Authentication Required"),
    (408, "Request Timeout"), (409, "Conflict"), (410, "Gone"), (411, "Length Required"),
    (412, "Precondition Failed"), (413, "Request Entity Too Large"),
    (414, "Request-URI Too Long"), (415, "Unsupported Media Type"),
    (416, "Requested Range Not Satisfiable"), (417, "Expectation Failed"),
    (418, "I'm a teapot"), (421, "Misdirected Request"), (422, "Unprocessable Entity"),
    (423, "Locked"), (424, "Failed Dependency"), (425, "Too Early"),
    (426, "Upgrade Required"), (428, "Precondition Required"), (429, "Too Many Requests"),
    (431, "Request Header Fields Too Large"), (451, "Unavailable For Legal Reasons"),
    (500, "Internal Server Error"), (501, "Not Implemented"), (502, "Bad Gateway"),
    (503, "Service Unavailable"), (504, "Gateway Timeout"),
    (505, "HTTP Version Not Supported"), (506, "Variant Also Negotiates"),
    (507, "Insufficient Storage"), (508, "Loop Detected"), (510, "Not Extended"),
    (511, "Network Authentication Required")]

/-- The meaning of a response's code, empty if it has none. -/
def Response.reason (response : Response) : String :=
  (reasons.lookup response.status).getD ""

def Response.datum? (response : Response) : Option Datum :=
  Datum.ofJson? response.body

end GridQuery.Http
