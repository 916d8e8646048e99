import Lookout.Query.Value
/-!
Why a query stops: failures that a query can catch, leaving a labelled expression, and faults of
evaluation itself, which nothing catches.
-/
namespace Lookout.Query

/-- What a value was expected to be. -/
inductive Kind where
  | integer | float | number | string | array | iterable | rangeable
  deriving DecidableEq, Repr

/-- The wording of a kind. -/
def Kind.describe : Kind → String
  | integer => "integer"
  | float => "floating-point number"
  | number => "number"
  | string => "string"
  | array => "array"
  | iterable => "iterable (array or object)"
  | rangeable => "rangeable (array or string)"

/-- Arithmetical operators. -/
inductive Arithmetic where
  | add | sub | mul | div | rem
  deriving DecidableEq, Repr

/-- The sign of an operator. -/
def Arithmetic.sign : Arithmetic → String
  | add => "+"
  | sub => "-"
  | mul => "*"
  | div => "/"
  | rem => "%"

/-- A failure that a query can catch. -/
inductive Failure where
  /-- A value raised by the query, or the text of a library failure. -/
  | raised (v : Value)
  | wrongKind (v : Value) (expected : Kind)
  | noIndex (container key : Value)
  | noResult (l : Value) (op : Arithmetic) (r : Value)
  | notAPath
  deriving Inhabited

namespace Failure

/-- A failure told by a text. -/
def told (s : String) : Failure := .raised (.string s)

/-- The wording of a failure; a raised value is written as JSON. -/
def message : Failure → String
  | .raised v => v.render
  | .wrongKind v expected => "cannot use " ++ v.render ++ " as " ++ expected.describe
  | .noIndex container key => "cannot index " ++ container.render ++ " with " ++ key.render
  | .noResult l op r => "cannot calculate " ++ l.render ++ " " ++ op.sign ++ " " ++ r.render
  | .notAPath => "invalid path expression"

/-- What a handler receives: the raised value, or else the wording. -/
def toValue : Failure → Value
  | .raised v => v
  | f => .string f.message

end Failure

/-- Why evaluation stops. -/
inductive Stop where
  | failure (f : Failure)
  /-- A labelled expression is left. -/
  | leave (label : Nat)
  /-- A fault of evaluation, which ends it. -/
  | panic (message : String)
  /-- The bound on evaluation steps is used up. -/
  | exhausted
  deriving Inhabited

/-- The wording of a reason to stop. -/
def Stop.message : Stop → String
  | .failure f => f.message
  | .leave _ => "break"
  | .panic message => "query panicked: " ++ message
  | .exhausted => "evaluation does not end"

/-- A result or a reason to stop. -/
abbrev Result (α : Type) := Except Stop α

/-- Stops with a failure. -/
def Result.fail {α : Type} (f : Failure) : Result α := .error (.failure f)

end Lookout.Query
