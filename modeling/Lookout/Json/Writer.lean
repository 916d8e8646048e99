import Lookout.Decimal.Shortest
import Lookout.Json.Value
/-!
JSON values as compact text: no blanks, the shortest text of each number that reads back, and
backslashes before quotes, backslashes and control characters only.
-/
namespace Lookout.Json

/-- A hexadecimal digit, in lower case. -/
def hexDigit (n : Nat) : Char :=
  if n < 10 then Char.ofNat (48 + n) else Char.ofNat (87 + n)

/-- One character as it stands between quotes. -/
def escapeChar (c : Char) : List Char :=
  if c == '"' then ['\\', '"']
  else if c == '\\' then ['\\', '\\']
  else if c == '\n' then ['\\', 'n']
  else if c == '\r' then ['\\', 'r']
  else if c == '\t' then ['\\', 't']
  else if c == '\x08' then ['\\', 'b']
  else if c == '\x0c' then ['\\', 'f']
  else if c.toNat < 32 then ['\\', 'u', '0', '0', hexDigit (c.toNat / 16), hexDigit (c.toNat % 16)]
  else [c]

/-- A text between quotes, as characters. -/
def quoteChars (cs : List Char) : List Char := '"' :: cs.flatMap escapeChar ++ ['"']

/-- A text between quotes. -/
def quote (s : String) : String := String.ofList (quoteChars s.toList)

/-- The text of a number. -/
def Number.render : Number → String
  | .int n => toString n
  | .float x => Decimal.Style.json.ofFloat x

mutual

/-- A value as compact text. -/
def Value.render : Value → String
  | .null => "null"
  | .bool b => if b then "true" else "false"
  | .number n => n.render
  | .string s => quote s
  | .array items => "[" ++ renderItems true items ++ "]"
  | .object fields => "\x7b" ++ renderFields true fields ++ "\x7d"

/-- The items of an array, with commas between them. -/
def renderItems : (first : Bool) → List Value → String
  | _, [] => ""
  | first, v :: rest => (if first then "" else ",") ++ v.render ++ renderItems false rest

/-- The fields of an object, with commas between them. -/
def renderFields : (first : Bool) → List (String × Value) → String
  | _, [] => ""
  | first, (k, v) :: rest =>
    (if first then "" else ",") ++ quote k ++ ":" ++ v.render ++ renderFields false rest

end

end Lookout.Json
