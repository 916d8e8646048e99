import Lookout.Query.Arithmetic
import Lookout.Query.Stream
/-!
Parts of values: items, fields and slices, read and changed. A negative position counts from the
end.
-/
namespace Lookout.Query

namespace Value

/-- The value as a whole number of 64 bits. -/
def toInt (v : Value) : Result Int :=
  match v with
  | .int n => .ok n
  | v => Result.fail (.wrongKind v .integer)

/-- The value as a binary64 number. -/
def toFloat (v : Value) : Result Float :=
  match v with
  | .int n => .ok (Float.ofInt n)
  | .float x => .ok x
  | .numeral text => .ok (floatOfNumeral text)
  | v => Result.fail (.wrongKind v .float)

/-- The value as a text. -/
def toStr (v : Value) : Result String :=
  match v with
  | .string s => .ok s
  | v => Result.fail (.wrongKind v .string)

/-- The value as a list. -/
def toItems (v : Value) : Result (List Value) :=
  match v with
  | .array items => .ok items
  | v => Result.fail (.wrongKind v .array)

/-- All items of an array, or all values of an object. -/
def children (v : Value) : Result (List Value) :=
  match v with
  | .array items => .ok items
  | .object fields => .ok (fields.map (·.2))
  | v => Result.fail (.wrongKind v .iterable)

/-- The place that a position means among `count` items. -/
def place? (i : Int) (count : Nat) : Option Nat :=
  let j := if i < 0 then i + count else i
  if 0 ≤ j && j < count then some j.toNat else none

/-- The bound that a position means among `count` items. -/
def bound (i : Option Int) (count default : Nat) : Nat :=
  match i with
  | none => default
  | some i =>
    let j := if i < 0 then i + count else i
    min j.toNat count

/-- The item at a position or the field of a name; `null` when there is none. -/
def index (v key : Value) : Result Value :=
  match v, key with
  | .array items, .int i => .ok (((place? i items.length).bind (items[·]?)).getD .null)
  | .object fields, .string k => .ok ((getField? k fields).getD .null)
  | .array items, key => Result.fail (.noIndex (.array items) key)
  | .object fields, key => Result.fail (.noIndex (.object fields) key)
  | v, _ => Result.fail (.wrongKind v .iterable)

/-- A bound of a slice. -/
def sliceBound : Option Value → Result (Option Int)
  | none => .ok none
  | some v => (v.toInt).map some

/-- The first place and the number of items of a slice. -/
def sliceRange (count : Nat) (start stop : Option Int) : Nat × Nat :=
  let lo := bound start count 0
  let hi := bound stop count count
  (lo, hi - lo)

/-- The items or characters between two positions. -/
def slice (v : Value) (start stop : Option Value) : Result Value := do
  match v with
  | .array items =>
    let a ← sliceBound start
    let b ← sliceBound stop
    let (lo, n) := sliceRange items.length a b
    return .array ((items.drop lo).take n)
  | .string s =>
    let a ← sliceBound start
    let b ← sliceBound stop
    let cs := s.toList
    let (lo, n) := sliceRange cs.length a b
    return .string (String.ofList ((cs.drop lo).take n))
  | v => Result.fail (.wrongKind v .rangeable)

/-- Removes a field; the last field takes its place. -/
def removeField (key : String) (fields : List (String × Value)) : List (String × Value) :=
  match fields.findIdx? (·.1 == key), fields.getLast? with
  | some i, some final =>
    if i + 1 == fields.length then fields.dropLast else (fields.dropLast).set i final
  | _, _ => fields

/-- A change of one part yields at most one value; none removes the part. -/
def changed (s : Stream Value) : Result (Option Value) :=
  match s.first? with
  | none => .ok none
  | some (.ok v) => .ok (some v)
  | some (.error e) => .error e

/-- What a change that does not apply yields: an optional one leaves the value. -/
def unchangedIf (isOptional : Bool) (v : Value) (f : Failure) : Result Value :=
  if isOptional then .ok v else Result.fail f

/-- Changes the values of fields in turn. -/
def changeFields (change : Value → Stream Value) :
    List (String × Value) → Result (List (String × Value))
  | [] => .ok []
  | (k, v) :: rest => do
    let v? ← changed (change v)
    let rest ← changeFields change rest
    return match v? with
      | some v => (k, v) :: rest
      | none => rest

/-- Changes all items or all values of fields. An item may become several ones. -/
def changeChildren (isOptional : Bool) (change : Value → Stream Value) (v : Value) : Result Value :=
  match v with
  | .array items => do
    let lists ← items.mapM fun x => (change x).collect
    return .array lists.flatten
  | .object fields => (changeFields change fields).map .object
  | v => unchangedIf isOptional v (.wrongKind v .iterable)

/-- Changes the item at a position or the field of a name. A field that is missing is changed from
`null`; a position must exist. -/
def changeIndex (isOptional : Bool) (key : Value) (change : Value → Stream Value) (v : Value) :
    Result Value :=
  match v, key with
  | .object fields, .string k =>
    match getField? k fields with
    | some old => do
      match ← changed (change old) with
      | some new => return .object (setField k new fields)
      | none => return .object (removeField k fields)
    | none => do
      match ← changed (change .null) with
      | some new => return .object (fields ++ [(k, new)])
      | none => return .object fields
  | .object fields, key => unchangedIf isOptional (.object fields) (.noIndex (.object fields) key)
  | .array items, .int i =>
    match place? i items.length with
    | some j => do
      match ← changed (change ((items[j]?).getD .null)) with
      | some new => return .array (items.set j new)
      | none => return .array (items.eraseIdx j)
    | none =>
      unchangedIf isOptional (.array items) (.told ("index " ++ toString i ++ " out of bounds"))
  | .array items, key => unchangedIf isOptional (.array items) (.wrongKind key .integer)
  | v, _ => unchangedIf isOptional v (.wrongKind v .iterable)

/-- Changes a slice of an array as one array. -/
def changeSlice (isOptional : Bool) (start stop : Option Value) (change : Value → Stream Value)
    (v : Value) : Result Value :=
  match v with
  | .array items =>
    match (do let a ← sliceBound start; let b ← sliceBound stop; return (a, b) : Result _) with
    | .error e => if isOptional then .ok v else .error e
    | .ok (a, b) => do
      let (lo, n) := sliceRange items.length a b
      let new ← match ← changed (change (.array ((items.drop lo).take n))) with
        | some (.array new) => pure new
        | some other => Result.fail (.wrongKind other .array)
        | none => pure []
      return .array (items.take lo ++ new ++ items.drop (lo + n))
  | v => unchangedIf isOptional v (.wrongKind v .array)

end Value

end Lookout.Query
