import Lookout.Query.Failure
/-!
Arithmetic on values. Whole numbers that leave 64 bits go on as binary64 numbers; division always
gives a binary64 number.
-/
namespace Lookout.Query

/-- The remainder of binary64 numbers with the sign of the dividend, computed exactly. -/
def floatRemainder (x y : Float) : Float :=
  if x.isNaN || y.isNaN || x.isInf || y == 0.0 then 0.0 / 0.0
  else if y.isInf then x
  else
    let a := Decimal.Binary.ofFloat x
    let b := Decimal.Binary.ofFloat y
    let low := min a.exponent b.exponent
    let r := a.mantissa * Nat.pow 2 (a.exponent - low).toNat % (b.mantissa * Nat.pow 2 (b.exponent - low).toNat)
    -- the remainder is a binary64 number, so the bits shifted out are zeros
    let spare := Nat.log2 r - 52
    let z := (Float.ofNat (r / Nat.pow 2 spare)).scaleB (low + spare)
    if a.negative then -z else z

/-- Cuts a text at every separator. The empty separator cuts between all characters. -/
def splitText (s separator : String) : List String :=
  if s.isEmpty then []
  else if separator.isEmpty then s.toList.map Char.toString
  else s.splitOn separator

/-- Sets a field; a new one comes last. -/
def setField (key : String) (value : Value) : List (String × Value) → List (String × Value)
  | [] => [(key, value)]
  | (k, v) :: rest => if k == key then (k, value) :: rest else (k, v) :: setField key value rest

/-- The value of a field. -/
def getField? (key : String) : List (String × Value) → Option Value
  | [] => none
  | (k, v) :: rest => if k == key then some v else getField? key rest

/-- Puts the fields of the second list over those of the first one. -/
def extendFields (l r : List (String × Value)) : List (String × Value) :=
  if l.isEmpty then r else r.foldl (fun done (k, v) => setField k v done) l

/-- Puts fields over others, objects within objects field by field. -/
def mergeFields : Nat → List (String × Value) → List (String × Value) → List (String × Value)
  | 0, l, _ => l
  | fuel + 1, l, r =>
    r.foldl (fun done (k, v) =>
      match getField? k done, v with
      | some (.object old), .object new => setField k (.object (mergeFields fuel old new)) done
      | _, _ => setField k v done) l

mutual

/-- How deep a value nests. -/
def Value.depth : Value → Nat
  | .array items => depthOfItems items + 1
  | .object fields => depthOfFields fields + 1
  | _ => 0

/-- The depth of the deepest item. -/
def depthOfItems : List Value → Nat
  | [] => 0
  | v :: rest => max v.depth (depthOfItems rest)

/-- The depth of the deepest field. -/
def depthOfFields : List (String × Value) → Nat
  | [] => 0
  | (_, v) :: rest => max v.depth (depthOfFields rest)

end

namespace Value

/-- A numeral as the binary64 number that it stands for; other values as they are. -/
def evaluated : Value → Value
  | .numeral text => .float (floatOfNumeral text)
  | v => v

/-- The whole number when it fits 64 bits, otherwise a binary64 number. -/
def wholeOr (n : Int) (x : Float) : Value := if fits n then .int n else .float x

/-- A text repeated; there is none of no copies. -/
def repeated (s : String) (n : Int) : Value :=
  if n > 0 then .string (String.join (List.replicate n.toNat s)) else .null

/-- The sum of two values that are no numerals. -/
def plus : Value → Value → Result Value
  | .null, v => .ok v
  | v, .null => .ok v
  | .int a, .int b => .ok (wholeOr (a + b) (Float.ofInt a + Float.ofInt b))
  | .int a, .float y => .ok (.float (Float.ofInt a + y))
  | .float x, .int b => .ok (.float (x + Float.ofInt b))
  | .float x, .float y => .ok (.float (x + y))
  | .string s, .string t => .ok (.string (s ++ t))
  | .array xs, .array ys => .ok (.array (xs ++ ys))
  | .object xs, .object ys => .ok (.object (extendFields xs ys))
  | l, r => Result.fail (.noResult l .add r)

/-- The difference of two values that are no numerals. -/
def minus : Value → Value → Result Value
  | .int a, .int b => .ok (wholeOr (a - b) (Float.ofInt a - Float.ofInt b))
  | .int a, .float y => .ok (.float (Float.ofInt a - y))
  | .float x, .int b => .ok (.float (x - Float.ofInt b))
  | .float x, .float y => .ok (.float (x - y))
  | .array xs, .array ys => .ok (.array (xs.filter fun x => !ys.any (same x)))
  | l, r => Result.fail (.noResult l .sub r)

/-- The product of two values that are no numerals. -/
def times : Value → Value → Result Value
  | .int a, .int b => .ok (wholeOr (a * b) (Float.ofInt a * Float.ofInt b))
  | .int a, .float y => .ok (.float (Float.ofInt a * y))
  | .float x, .int b => .ok (.float (x * Float.ofInt b))
  | .float x, .float y => .ok (.float (x * y))
  | .string s, .int n => .ok (repeated s n)
  | .int n, .string s => .ok (repeated s n)
  | .object xs, .object ys => .ok (.object (mergeFields (depthOfFields ys + 1) xs ys))
  | l, r => Result.fail (.noResult l .mul r)

/-- The quotient of two values that are no numerals. -/
def dividedBy : Value → Value → Result Value
  | .int a, .int b => .ok (.float (Float.ofInt a / Float.ofInt b))
  | .int a, .float y => .ok (.float (Float.ofInt a / y))
  | .float x, .int b => .ok (.float (x / Float.ofInt b))
  | .float x, .float y => .ok (.float (x / y))
  | .string s, .string t => .ok (.array ((splitText s t).map .string))
  | l, r => Result.fail (.noResult l .div r)

/-- The remainder of two values that are no numerals. -/
def modulo : Value → Value → Result Value
  | .int a, .int b =>
    if b == 0 then Result.fail (.noResult (.int a) .rem (.int b))
    else if a == -(9223372036854775808) && b == -1 then
      .error (.panic "attempt to calculate the remainder with overflow")
    else .ok (.int (a.tmod b))
  | .int a, .float y => .ok (.float (floatRemainder (Float.ofInt a) y))
  | .float x, .int b => .ok (.float (floatRemainder x (Float.ofInt b)))
  | .float x, .float y => .ok (.float (floatRemainder x y))
  | l, r => Result.fail (.noResult l .rem r)

/-- The result of an operator. -/
def calculate (op : Arithmetic) (l r : Value) : Result Value :=
  match op with
  | .add =>
    match l, r with
    | .null, v => .ok v
    | v, .null => .ok v
    | l, r => plus l.evaluated r.evaluated
  | .sub => minus l.evaluated r.evaluated
  | .mul => times l.evaluated r.evaluated
  | .div => dividedBy l.evaluated r.evaluated
  | .rem => modulo l.evaluated r.evaluated

/-- The negative of a number. -/
def negated (v : Value) : Result Value :=
  match v with
  | .int n => .ok (wholeOr (-n) (-(Float.ofInt n)))
  | .float x => .ok (.float (-x))
  | .numeral text => .ok (.float (-(floatOfNumeral text)))
  | v => Result.fail (.wrongKind v .number)

end Value

end Lookout.Query
