import Lookout.Condition.Normal
import Lookout.Condition.Truth
import Lookout.Query
/-!
Conditions on documents: a query that decides whether a document matches, and named queries whose
first outputs are kept as text. Only the first output of each query counts.
-/
namespace Lookout

/-- A condition with its queries compiled; variables are in increasing order of name. -/
structure Condition where
  check : Query
  bindings : List (String × Query)

namespace Condition

/-- What a condition finds in a document. -/
structure Outcome where
  isMatch : Bool
  bindings : List (String × String)
  deriving DecidableEq, Repr

/-- Why a condition cannot be set up. -/
inductive SetupError where
  | check (e : Query.CompileError)
  | ofVariable (name : String) (e : Query.CompileError)
  deriving DecidableEq, Repr

/-- The wording of an error. What is wrong within a query is not told. -/
def SetupError.message : SetupError → String
  | check e => "compiling check query: " ++ e.message
  | ofVariable name e => "compiling query of variable " ++ name ++ ": " ++ e.message

/-- Why a condition cannot be decided. -/
inductive ApplyError where
  | json (e : Json.ReadError)
  | check (stop : Query.Stop)
  | ofVariable (name : String) (stop : Query.Stop)

/-- The wording of an error. -/
def ApplyError.message : ApplyError → String
  | json e => "unmarshaling into json: " ++ e.message
  | check stop => "applying check query: " ++ stop.message
  | ofVariable name stop => "applying variable '" ++ name ++ "' query: " ++ stop.message

/-- Compiles named queries in turn. -/
def compileVariables : List (String × String) → Except SetupError (List (String × Query))
  | [] => .ok []
  | (name, source) :: rest =>
    match Query.compile source with
    | .error e => .error (.ofVariable name e)
    | .ok q =>
      match compileVariables rest with
      | .error e => .error e
      | .ok done => .ok ((name, q) :: done)

/-- Compiles the queries of a condition: the check first, then the variables in order of name. -/
def compile (check : String) (bindings : List (String × String)) : Except SetupError Condition :=
  match Query.compile check with
  | .error e => .error (.check e)
  | .ok q =>
    match compileVariables bindings with
    | .error e => .error e
    | .ok done => .ok ⟨q, done⟩

/-- The text of the first output of a query; there is none of no output. -/
def firstText (q : Query) (document : Json.Value) : Except Query.Stop String :=
  match q.first document with
  | .error stop => .error stop
  | .ok none => .ok ""
  | .ok (some v) => .ok v.normalized.render

/-- The texts of the variables in turn, up to the first failure. -/
def applyVariables (document : Json.Value) :
    List (String × Query) → Except ApplyError (List (String × String))
  | [] => .ok []
  | (name, q) :: rest =>
    match firstText q document with
    | .error stop => .error (.ofVariable name stop)
    | .ok text =>
      match applyVariables document rest with
      | .error e => .error e
      | .ok done => .ok ((name, text) :: done)

/-- Decides a condition on a document. -/
def applyTo (c : Condition) (document : Json.Value) : Except ApplyError Outcome :=
  match firstText c.check document with
  | .error stop => .error (.check stop)
  | .ok text =>
    match applyVariables document c.bindings with
    | .error e => .error e
    | .ok bindings => .ok ⟨isTruthy text.toList, bindings⟩

/-- Decides a condition on a response body. -/
def apply (c : Condition) (body : ByteArray) : Except ApplyError Outcome :=
  match Json.ofOctets body with
  | .error e => .error (.json e)
  | .ok document => c.applyTo document

end Condition

end Lookout
