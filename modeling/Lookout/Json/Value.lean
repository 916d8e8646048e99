/-!
JSON documents. Objects keep their fields in strictly increasing order of key, which `insert`
maintains; a number is a whole number of the two 64-bit ranges, or a binary64 one.
-/
namespace Lookout.Json

/-- A JSON number. -/
inductive Number where
  /-- A whole number from `-2 ^ 63` to `2 ^ 64 - 1`. -/
  | int (n : Int)
  /-- Any other number, finite. -/
  | float (x : Float)
  deriving Inhabited

/-- A JSON value. -/
inductive Value where
  | null
  | bool (b : Bool)
  | number (n : Number)
  | string (s : String)
  | array (items : List Value)
  | object (fields : List (String × Value))
  deriving Inhabited

namespace Number

/-- The range that whole numbers are kept in. -/
def inRange (n : Int) : Bool := -(9223372036854775808) ≤ n && n < 18446744073709551616

/-- The nearest binary64 number. -/
def toFloat : Number → Float
  | int n => Float.ofInt n
  | float x => x

end Number

/-- Puts a field in its place among fields in increasing order of key; a field of the same key is
replaced. -/
def insertField {α : Type} (key : String) (value : α) : List (String × α) → List (String × α)
  | [] => [(key, value)]
  | (k, v) :: rest =>
    if key < k then (key, value) :: (k, v) :: rest
    else if k < key then (k, v) :: insertField key value rest
    else (key, value) :: rest

/-- Fields in increasing order of key, the last value of each key. -/
def sortFields {α : Type} (fields : List (String × α)) : List (String × α) :=
  fields.foldl (fun done (k, v) => insertField k v done) []

/-- The value of a field. -/
def field? (fields : List (String × Value)) (key : String) : Option Value :=
  (fields.find? (·.1 == key)).map (·.2)

namespace Value

/-- An object with the given fields; of equal keys the last one counts. -/
def ofFields (fields : List (String × Value)) : Value := .object (sortFields fields)

/-- A text. -/
def text (s : String) : Value := .string s

/-- A whole number. -/
def ofNat (n : Nat) : Value := .number (.int n)

/-- The value of a field of an object. -/
def get? : Value → String → Option Value
  | .object fields, key => field? fields key
  | _, _ => none

/-- The text of a string. -/
def string? : Value → Option String
  | .string s => some s
  | _ => none

/-- The items of an array. -/
def array? : Value → Option (List Value)
  | .array items => some items
  | _ => none

/-- The fields of an object. -/
def object? : Value → Option (List (String × Value))
  | .object fields => some fields
  | _ => none

/-- A whole number that is not negative. -/
def nat? : Value → Option Nat
  | .number (.int n) => if n ≥ 0 then some n.toNat else none
  | _ => none

/-- A truth value. -/
def bool? : Value → Option Bool
  | .bool b => some b
  | _ => none

end Value

end Lookout.Json
