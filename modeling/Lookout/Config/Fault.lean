import Lookout.Config.Tree
import Lookout.Text.Quoted
/-!
What can be wrong with a tree that settings are read from, and how it is told.
-/
namespace Lookout.Config

/-- How values and types are matched. -/
inductive Strictness where
  /-- A value has the type of its field. -/
  | exact
  /-- Scalars are converted to the type of their field. -/
  | lenient
  deriving DecidableEq, Repr

/-- What stands in a place. -/
inductive Found where
  | scalar (s : Scalar)
  | sequence
  | mapping
  deriving Inhabited

/-- What a tree is at its root. -/
def Tree.found : Tree → Found
  | .leaf _ s => .scalar s
  | .items _ _ => .sequence
  | .fields _ _ => .mapping

/-- The name of what stands in a place. -/
def Found.name : Strictness → Found → String
  | .exact, .scalar .null => "null"
  | .lenient, .scalar .null => "unit value"
  | _, .scalar (.bool b) => "boolean \x60" ++ (if b then "true" else "false") ++ "\x60"
  | _, .scalar (.int n) => "integer \x60" ++ toString n ++ "\x60"
  | .exact, .scalar (.float x) => "floating point \x60" ++ Decimal.Style.json.ofFloat x ++ "\x60"
  | .lenient, .scalar (.float x) =>
    "floating point \x60" ++ Decimal.Style.pointed.ofFloat x ++ "\x60"
  | _, .scalar (.text s) => "string " ++ Text.quoted s
  | _, .sequence => "sequence"
  | _, .mapping => "map"

/-- What is wrong. -/
inductive Cause where
  /-- Something of another type. -/
  | type (found : Found) (expected : String)
  /-- A value out of the range of its type. -/
  | value (found : Found) (expected : String)
  /-- A field that has to be there. -/
  | missing (field : String)
  /-- A wrong number of items. -/
  | length (n : Nat) (expected : String)
  /-- None of the names that may stand here. -/
  | unknownName (type name : String) (known : List String)
  /-- Neither a name nor a mapping of one name. -/
  | noName (type : String)

/-- Something wrong at a place in a tree. -/
structure Fault where
  cause : Cause
  /-- Where the value came from, if that is told. -/
  origin : Option String := none
  path : List Step := []

namespace Fault

/-- The fault seen from one step further up. -/
def under (step : Step) (f : Fault) : Fault := { f with path := step :: f.path }

/-- A list of names from which one is to be chosen. -/
def choice (names : List String) : String :=
  let quoted := names.map fun n => "\x60" ++ n ++ "\x60"
  match quoted with
  | [] => ""
  | [a] => a
  | [a, b] => a ++ " or " ++ b
  | list => "one of " ++ ", ".intercalate list

/-- The wording of a cause on its own. -/
def causeText (strictness : Strictness) : Cause → String
  | .type found expected =>
    "invalid type: " ++ found.name strictness ++ ", expected " ++ expected
  | .value found expected =>
    "invalid value: " ++ found.name strictness ++ ", expected " ++ expected
  | .missing field => "missing field \x60" ++ field ++ "\x60"
  | .length n expected => "invalid length " ++ toString n ++ ", expected " ++ expected
  | .unknownName type name known =>
    match strictness with
    | .exact => "unknown variant \x60" ++ name ++ "\x60, expected " ++ choice known
    | .lenient => "enum " ++ type ++ " does not have variant constructor " ++ name
  | .noName type =>
    "value of enum " ++ type ++
      " should be represented by either string or table with exactly one key"

/-- The wording of a fault. Only lenient reading tells the place and the source. -/
def message (strictness : Strictness) (f : Fault) : String :=
  match strictness, f.cause with
  | .exact, cause => causeText .exact cause
  | .lenient, .missing field =>
    "missing configuration field " ++ Text.quoted (Step.renderList (f.path ++ [.key field]))
  | .lenient, cause =>
    causeText .lenient cause ++
      (if f.path.isEmpty then "" else " for key \x60" ++ Step.renderList f.path ++ "\x60") ++
      (match f.origin with
        | some origin => " in " ++ origin
        | none => "")

end Fault

end Lookout.Config
