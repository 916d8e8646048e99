import Lookout.Decimal.Shortest
import Lookout.Json.Value
/-!
Trees of settings: scalars, sequences and mappings, each with the source it came from, and the
steps that lead from the root to a place in a tree.
-/
namespace Lookout.Config

/-- A value that has no parts. -/
inductive Scalar where
  | null
  | bool (b : Bool)
  | int (n : Int)
  | float (x : Float)
  | text (s : String)
  deriving Inhabited

/-- A tree of settings. Fields are in increasing order of key. -/
inductive Tree where
  | leaf (origin : Option String) (value : Scalar)
  | items (origin : Option String) (list : List Tree)
  | fields (origin : Option String) (list : List (String × Tree))
  deriving Inhabited

/-- A step from a tree to a part of it. A negative index counts from the end. -/
inductive Step where
  | key (k : String)
  | index (i : Int)
  deriving DecidableEq, Repr

/-- Steps as text: indices stand in brackets, and a point stands before a key that follows a key. -/
def Step.renderList : List Step → String
  | [] => ""
  | .key k :: rest =>
    match rest with
    | .key _ :: _ => k ++ "." ++ renderList rest
    | _ => k ++ renderList rest
  | .index i :: rest => "[" ++ toString i ++ "]" ++ renderList rest

namespace Tree

/-- Where a tree came from. -/
def origin : Tree → Option String
  | leaf origin _ | items origin _ | fields origin _ => origin

/-- A place that holds nothing. -/
def nothing : Tree := .leaf none .null

/-- The tree at a key. -/
def child? (key : String) : Tree → Option Tree
  | fields _ list => list.lookup key
  | _ => none

/-- The tree at a place in a sequence. -/
def item? (i : Nat) : Tree → Option Tree
  | items _ list => list[i]?
  | _ => none

/-- A number as a scalar. -/
def ofNumber : Json.Number → Scalar
  | .int n => .int n
  | .float x => .float x

mutual

/-- A JSON document as a tree without a source. -/
def ofJson : Json.Value → Tree
  | .null => .leaf none .null
  | .bool b => .leaf none (.bool b)
  | .number n => .leaf none (ofNumber n)
  | .string s => .leaf none (.text s)
  | .array list => .items none (ofJsonItems list)
  | .object list => .fields none (ofJsonFields list)

/-- The items of an array as trees. -/
def ofJsonItems : List Json.Value → List Tree
  | [] => []
  | v :: rest => ofJson v :: ofJsonItems rest

/-- The values of fields as trees. -/
def ofJsonFields : List (String × Json.Value) → List (String × Tree)
  | [] => []
  | (k, v) :: rest => (k, ofJson v) :: ofJsonFields rest

end

end Tree

end Lookout.Config
