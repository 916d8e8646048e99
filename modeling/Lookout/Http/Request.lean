import Lookout.Config.Basic
import Lookout.Json.Value
import Lookout.Url.Parse
/-!
Requests for the targets of crawls. Names of header fields are compared in lower case, and of two
equal ones the later in order of the configured names counts.
-/
namespace Lookout.Http

/-- A request that can be sent. -/
structure Request where
  method : String
  url : Url
  /-- Lower-case names in increasing order, with their values. -/
  headers : List (String × String)
  body : String
  deriving DecidableEq, Repr

/-- Why a target cannot be turned into a request. -/
inductive RequestError where
  | method (text : String)
  | url (text : String) (e : Url.ParseError)
  | headerName (name : String)
  | headerValue (name : String)
  deriving DecidableEq, Repr

/-- The wording of an error. -/
def RequestError.message : RequestError → String
  | method text => "invalid http method '" ++ text ++ "'"
  | url text e => "parsing url '" ++ text ++ "': " ++ e.message
  | headerName name => "invalid header name '" ++ name ++ "'"
  | headerValue name => "invalid value of header '" ++ name ++ "'"

/-- The wording of an error from the outermost part to the innermost. -/
def RequestError.chain (error : RequestError) : List String :=
  match error with
  | url _ e => [error.message, e.message]
  | _ => [error.message]

/-- The characters of methods and of names of header fields. -/
def isTokenChar (c : Char) : Bool := c.isAlphanum || "!#$%&'*+-.^_\x60|~".toList.contains c

/-- Whether a text is a token: at least one character, all of them allowed. -/
def isToken (s : String) : Bool := !s.isEmpty && s.toList.all isTokenChar

/-- Whether a character can stand in the value of a header field: a tab and all but controls. -/
def isValueChar (c : Char) : Bool := c == '\t' || (c.toNat ≥ 32 && c.toNat != 127)

/-- The length that a name of a header field does not reach. -/
def nameLimit : Nat := 65536

/-- Whether a text can be the name of a header field. -/
def isHeaderName (s : String) : Bool := isToken s && s.utf8ByteSize < nameLimit

/-- Whether a text can be the value of a header field. -/
def isHeaderValue (s : String) : Bool := s.toList.all isValueChar

/-- A text in lower case, for tokens. -/
def lowerName (s : String) : String := String.ofList (s.toList.map Char.toLower)

/-- Header fields added one by one in the order of their configured names. -/
def addHeaders (done : List (String × String)) :
    List (String × String) → Except RequestError (List (String × String))
  | [] => .ok done
  | (name, value) :: rest =>
    if !isHeaderName name then .error (.headerName name)
    else if !isHeaderValue value then .error (.headerValue name)
    else addHeaders (Json.insertField (lowerName name) value done) rest

/-- The request for a target. The method is looked at first, then the address, then the header
fields. -/
def Request.ofTarget (t : Config.HttpTarget) : Except RequestError Request :=
  if !isToken t.method then .error (.method t.method)
  else
    match Url.parse t.url with
    | .error e => .error (.url t.url e)
    | .ok url =>
      match addHeaders [] t.header with
      | .error e => .error e
      | .ok headers => .ok ⟨t.method, url, headers, t.body⟩

end Lookout.Http
