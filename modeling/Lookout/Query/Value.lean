import Lookout.Decimal.Reading
import Lookout.Decimal.Shortest
import Lookout.Json.Writer
/-!
Values that queries compute with. A number is a 64-bit whole number, a binary64 number, or the text
of a numeral that has not been computed with yet. Objects keep the order in which their fields were
first written.
-/
namespace Lookout.Query

/-- A value of the query language. -/
inductive Value where
  | null
  | bool (b : Bool)
  /-- A whole number from `-2 ^ 63` to `2 ^ 63 - 1`. -/
  | int (n : Int)
  | float (x : Float)
  /-- A numeral that is no whole number of 64 bits, as it was written. -/
  | numeral (text : String)
  | string (s : String)
  | array (items : List Value)
  | object (fields : List (String × Value))
  deriving Inhabited

namespace Value

/-- Whether a whole number fits 64 bits. -/
def fits (n : Int) : Bool := -(9223372036854775808) ≤ n && n < 9223372036854775808

/-- A whole number, as a binary64 number when it does not fit. -/
def ofInt (n : Int) : Value := if fits n then .int n else .float (Float.ofInt n)

/-- A count. -/
def ofNat (n : Nat) : Value := .int n

/-- What a numeral stands for: a whole number when it is one of 64 bits. -/
def ofNumeral (text : String) : Value :=
  match Decimal.takeSigned text.toList with
  | some (n, []) => if fits n then .int n else .numeral text
  | _ => .numeral text

/-- The binary64 number nearest to a numeral. -/
def floatOfNumeral (text : String) : Float := (Decimal.floatOf? text).getD (0.0 / 0.0)

/-- Everything but `null` and `false` counts as true. -/
def truthy : Value → Bool
  | null => false
  | bool b => b
  | _ => true

/-! ### Text -/

/-- Binary64 numbers inside messages: positional from `0.0001` up to sixteen digits. -/
def floatStyle : Decimal.Style := ⟨-3, 16, true, false⟩

/-- The text of a binary64 number; there is none but `null` for one that is not finite. -/
def floatText (x : Float) : String := if x.isFinite then floatStyle.ofFloat x else "null"

/-- One character between quotes: line breaks and tabs have short escapes, other controls codes. -/
def escapeChar (c : Char) : List Char :=
  if c == '\x08' then "\\u0008".toList
  else if c == '\x0c' then "\\u000c".toList
  else Json.escapeChar c

/-- A text between quotes. -/
def quote (s : String) : String :=
  String.ofList ('"' :: s.toList.flatMap escapeChar ++ ['"'])

mutual

/-- A value as compact JSON text, fields in their own order. -/
def render : Value → String
  | .null => "null"
  | .bool b => if b then "true" else "false"
  | .int n => toString n
  | .float x => floatText x
  | .numeral text => text
  | .string s => quote s
  | .array items => "[" ++ renderItems true items ++ "]"
  | .object fields => "\x7b" ++ renderFields true fields ++ "\x7d"

/-- The items of an array, with commas between them. -/
def renderItems : (first : Bool) → List Value → String
  | _, [] => ""
  | first, v :: rest => (if first then "" else ",") ++ v.render ++ renderItems false rest

/-- The fields of an object, with commas between them. -/
def renderFields : (first : Bool) → List (String × Value) → String
  | _, [] => ""
  | first, (k, v) :: rest =>
    (if first then "" else ",") ++ quote k ++ ":" ++ v.render ++ renderFields false rest

end

/-- The text itself for a string, compact JSON for any other value. -/
def toText : Value → String
  | .string s => s
  | v => v.render

/-! ### Order -/

/-- Orders binary64 numbers: zeros are equal, and a NaN is below everything, itself included. -/
def compareFloats (x y : Float) : Ordering :=
  if x == 0.0 && y == 0.0 then .eq
  else if x.isNaN then .lt
  else if y.isNaN then .gt
  else if x < y then .lt
  else if y < x then .gt
  else .eq

/-- The kinds of values in increasing order. -/
def rank : Value → Nat
  | .null => 0
  | .bool _ => 1
  | .int _ | .float _ | .numeral _ => 2
  | .string _ => 3
  | .array _ => 4
  | .object _ => 5

/-- Lexicographic order of texts. -/
def compareStrings (a b : String) : Ordering :=
  if a < b then .lt else if b < a then .gt else .eq

/-- Lexicographic order of lists of texts. -/
def compareKeys : List String → List String → Ordering
  | [], [] => .eq
  | [], _ => .lt
  | _, [] => .gt
  | a :: as, b :: bs =>
    match compareStrings a b with
    | .eq => compareKeys as bs
    | o => o

/-- The order of numbers, of which whole ones are compared exactly. -/
def compareNumbers : Value → Value → Ordering
  | .int a, .int b => compare a b
  | .int a, .float y => compareFloats (Float.ofInt a) y
  | .float x, .int b => compareFloats x (Float.ofInt b)
  | .float x, .float y => compareFloats x y
  | .numeral s, .numeral t =>
    if s == t then .eq else compareFloats (floatOfNumeral s) (floatOfNumeral t)
  | .int a, .numeral t => compareFloats (Float.ofInt a) (floatOfNumeral t)
  | .float x, .numeral t => compareFloats x (floatOfNumeral t)
  | .numeral s, .int b => compareFloats (floatOfNumeral s) (Float.ofInt b)
  | .numeral s, .float y => compareFloats (floatOfNumeral s) y
  | _, _ => .eq

/-- Fields in increasing order of key. -/
def sortByKey (fields : List (String × Value)) : List (String × Value) :=
  fields.mergeSort fun a b => !(b.1 < a.1)

mutual

/-- The same value with the fields of every object in increasing order of key. -/
def sorted : Value → Value
  | .array items => .array (sortedItems items)
  | .object fields => .object (sortByKey (sortedFields fields))
  | v => v

/-- Every item sorted within. -/
def sortedItems : List Value → List Value
  | [] => []
  | v :: rest => v.sorted :: sortedItems rest

/-- Every field sorted within. -/
def sortedFields : List (String × Value) → List (String × Value)
  | [] => []
  | (k, v) :: rest => (k, v.sorted) :: sortedFields rest

end

mutual

/-- The order of values whose fields are sorted. -/
def compareSorted : Value → Value → Ordering
  | .bool x, .bool y => compare x.toNat y.toNat
  | .string s, .string t => compareStrings s t
  | .array xs, .array ys => compareItems xs ys
  | .object xs, .object ys =>
    if xs.isEmpty || ys.isEmpty then compare xs.length ys.length
    else
      match compareKeys (xs.map (·.1)) (ys.map (·.1)) with
      | .eq => compareFields xs ys
      | o => o
  | a, b => if a.rank == b.rank then compareNumbers a b else compare a.rank b.rank

/-- Item by item, the shorter list first. -/
def compareItems : List Value → List Value → Ordering
  | [], [] => .eq
  | [], _ => .lt
  | _, [] => .gt
  | x :: xs, y :: ys =>
    match compareSorted x y with
    | .eq => compareItems xs ys
    | o => o

/-- The values of fields, one by one. -/
def compareFields : List (String × Value) → List (String × Value) → Ordering
  | (_, x) :: xs, (_, y) :: ys =>
    match compareSorted x y with
    | .eq => compareFields xs ys
    | o => o
  | _, _ => .eq

end

/-- The order of values: by kind, then by content. Objects are compared by their sorted keys and
then by the values under them. -/
def order (a b : Value) : Ordering := compareSorted a.sorted b.sorted

/-- Equality in that order. -/
def same (a b : Value) : Bool := order a b == .eq

/-- Not above in that order. -/
def atMost (a b : Value) : Bool := order a b != .gt

end Value

end Lookout.Query
