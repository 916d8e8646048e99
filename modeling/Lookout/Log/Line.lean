import Lookout.Json.Writer
import Lookout.Log.Filter
/-!
Log lines, as plain text and as JSON.
-/
namespace Lookout.Log

/-- A log line. -/
structure Line where
  level : Level
  /-- The part of the program that writes it. -/
  target : String
  message : String
  details : List (String × String) := []
  deriving DecidableEq, Repr

namespace Line

/-- A line as plain text. Levels take five columns. -/
def text (l : Line) (time : String) : String :=
  let indent := String.ofList (List.replicate (5 - l.level.name.length) ' ')
  let details := l.details.map fun (k, v) => " " ++ k ++ "=" ++ v
  time ++ " " ++ indent ++ l.level.name ++ " " ++ l.target ++ ": " ++ l.message ++ String.join details

/-- The fields of a line. -/
def fields (l : Line) : Json.Value :=
  .ofFields (("message", .string l.message) :: l.details.map fun (k, v) => (k, .string v))

/-- A line as a JSON document, without its time. -/
def toJson (l : Line) : Json.Value :=
  .ofFields [("level", .string l.level.name), ("fields", l.fields), ("target", .string l.target)]

/-- A line as JSON text. -/
def jsonText (l : Line) (time : String) : String :=
  (Json.Value.ofFields [("timestamp", .string time), ("level", .string l.level.name),
    ("fields", l.fields), ("target", .string l.target)]).render

/-- Whether a filter lets a line through. -/
def passes (f : Filter) (l : Line) : Bool := f.allows l.target l.level

end Line

end Lookout.Log
