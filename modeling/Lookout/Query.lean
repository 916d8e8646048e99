import Lookout.Json.Reader
import Lookout.Query.Library
/-!
Queries over JSON documents: compiled once, then applied to documents. Only the first output of a
query is of interest.
-/
namespace Lookout

/-- A compiled query, with the text that it was made from. -/
structure Query where
  source : String
  filter : Query.Filter

namespace Query

/-- Why a text is no query. -/
inductive CompileError where
  /-- It is not well-formed. -/
  | parse
  /-- It uses a name that is not bound, or gives it a wrong number of arguments. -/
  | compile
  deriving DecidableEq, Repr

/-- The wording of an error. Where the text is malformed is not told. -/
def CompileError.message : CompileError → String
  | parse => "parsing jq query"
  | compile => "compiling jq query"

/-- Compiles a query. -/
def compile (source : String) : Except CompileError Query :=
  match Term.parse? source with
  | none => .error .parse
  | some term =>
    match Filter.ofTerm? Library.scope term with
    | none => .error .compile
    | some filter => .ok ⟨source, filter⟩

/-- The bound on the depth of evaluation. -/
def fuel : Nat := 1000000000000000000

namespace Value

/-- The text of a number as documents have it. -/
def ofNumber : Json.Number → Value
  | .int n => if fits n then .int n else .numeral (toString n)
  | .float x => .numeral (Json.Number.render (.float x))

mutual

/-- A document as a value. -/
def ofJson : Json.Value → Value
  | .null => .null
  | .bool b => .bool b
  | .number n => ofNumber n
  | .string s => .string s
  | .array items => .array (ofJsonItems items)
  | .object fields => .object (ofJsonFields fields)

/-- The items of an array as values. -/
def ofJsonItems : List Json.Value → List Value
  | [] => []
  | v :: rest => ofJson v :: ofJsonItems rest

/-- The fields of an object as values. -/
def ofJsonFields : List (String × Json.Value) → List (String × Value)
  | [] => []
  | (k, v) :: rest => (k, ofJson v) :: ofJsonFields rest

end

/-- The number that a numeral stands for in a document. -/
def numberOf (text : String) : Result Json.Value :=
  match Json.ofString text with
  | .ok v => .ok v
  | .error e =>
    .error (.panic ("called \x60Result::unwrap()\x60 on an \x60Err\x60 value: Error(\"" ++
      e.fault.message ++ "\", line: " ++ toString e.line ++ ", column: " ++ toString e.column ++ ")"))

mutual

/-- A value as a document. A number that is not finite becomes `null`. -/
def toJson : Value → Result Json.Value
  | .null => .ok .null
  | .bool b => .ok (.bool b)
  | .int n => .ok (.number (.int n))
  | .float x => .ok (if x.isFinite then .number (.float x) else .null)
  | .numeral text => numberOf text
  | .string s => .ok (.string s)
  | .array items => (toJsonItems items).map .array
  | .object fields => (toJsonFields fields).map .ofFields

/-- The items of an array as documents. -/
def toJsonItems : List Value → Result (List Json.Value)
  | [] => .ok []
  | v :: rest => do return (← toJson v) :: (← toJsonItems rest)

/-- The values of fields as documents. -/
def toJsonFields : List (String × Value) → Result (List (String × Json.Value))
  | [] => .ok []
  | (k, v) :: rest => do return (k, ← toJson v) :: (← toJsonFields rest)

end

end Value

/-- The outputs of a query over a document. -/
def outputs (q : Query) (document : Json.Value) : Stream Json.Value :=
  (run fuel q.filter Library.env (.ofJson document)).mapResult Value.toJson

/-- The first output of a query over a document, when there is one. -/
def first (q : Query) (document : Json.Value) : Except Stop (Option Json.Value) :=
  match (q.outputs document).first? with
  | none => .ok none
  | some (.ok v) => .ok (some v)
  | some (.error e) => .error e

end Query

end Lookout
