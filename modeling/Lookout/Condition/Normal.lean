import Lookout.Decimal.Shortest
import Lookout.Json.Value
/-!
Numbers in documents written as plainly as possible: a binary64 number that is whole and below
`2 ^ 53` in magnitude becomes a whole number.
-/
namespace Lookout.Decimal

/-- The magnitude of a finite number, if it is whole. -/
def Binary.magnitude? (b : Binary) : Option Nat :=
  if 0 ≤ b.exponent then some (b.mantissa * Nat.pow 2 b.exponent.toNat)
  else if b.mantissa % Nat.pow 2 (-b.exponent).toNat = 0 then
    some (b.mantissa / Nat.pow 2 (-b.exponent).toNat)
  else none

/-- The whole number that a finite number is, if it is one. -/
def Binary.whole? (b : Binary) : Option Int :=
  b.magnitude?.map fun (n : Nat) => if b.negative then -(n : Int) else n

end Lookout.Decimal

namespace Lookout.Json

/-- The whole number that a binary64 number is, if it is one and small enough for all whole numbers
around it to be binary64 numbers. -/
def plainWhole? (x : Float) : Option Int :=
  if x.isFinite then
    (Decimal.Binary.ofFloat x).whole?.filter fun n => n.natAbs < 9007199254740992
  else none

/-- The number in its plainest form. -/
def Number.normalized : Number → Number
  | .int n => .int n
  | .float x =>
    match plainWhole? x with
    | some n => .int n
    | none => .float x

mutual

/-- The value with every number in its plainest form. -/
def Value.normalized : Value → Value
  | .number n => .number n.normalized
  | .array items => .array (normalizedItems items)
  | .object fields => .object (normalizedFields fields)
  | v => v

/-- All items with plain numbers. -/
def normalizedItems : List Value → List Value
  | [] => []
  | v :: rest => v.normalized :: normalizedItems rest

/-- All fields with plain numbers. -/
def normalizedFields : List (String × Value) → List (String × Value)
  | [] => []
  | (k, v) :: rest => (k, v.normalized) :: normalizedFields rest

end

end Lookout.Json
