import Lookout.Query.Access
import Lookout.Query.Operation
/-!
Functions of binary64 numbers. Rounding, remainders and the parts of a number are exact; the
transcendental functions are those of the machine.
-/
namespace Lookout.Query.Numbers

open Decimal (Binary)

/-- Not a number. -/
def nan : Float := 0.0 / 0.0

/-- The number `± n · 2 ^ e` rounded to nearest, ties to even. -/
def ofParts (negative : Bool) (n : Nat) (e : Int) : Float :=
  let shift : Int := max ((Nat.log2 n : Int) - 52) (-1074 - e)
  let x :=
    if n == 0 then 0.0
    else if shift ≤ 0 then (Float.ofNat n).scaleB e
    else
      let unit := Nat.pow 2 shift.toNat
      let q := n / unit
      let r := n % unit
      let q := if 2 * r > unit || (2 * r == unit && q % 2 == 1) then q + 1 else q
      (Float.ofNat q).scaleB (e + shift)
  if negative then -x else x

/-- The whole number nearest to zero between a number and zero. -/
def truncate (x : Float) : Float := if x < 0.0 then x.ceil else x.floor

/-- The nearest whole number, of two equally near ones the even one. -/
def roundEven (x : Float) : Float :=
  if !x.isFinite || x.abs ≥ 4503599627370496.0 then x
  else
    let low := x.floor
    let part := x - low
    let y :=
      if part < 0.5 then low
      else if part > 0.5 then low + 1.0
      else if (low / 2.0).floor * 2.0 == low then low else low + 1.0
    if y == 0.0 && x.toBits ≥ 0x8000000000000000 then -0.0 else y

/-- The first number with the sign of the second. -/
def copySign (x y : Float) : Float :=
  let negative (z : Float) : Bool := z.toBits ≥ 0x8000000000000000
  if negative x == negative y then x else -x

/-- A fraction from one half to one, and a power of two. -/
def fractionAndPower (x : Float) : Float × Int :=
  if x == 0.0 || !x.isFinite then (x, 0)
  else
    let b := Binary.ofFloat x
    let size : Int := (Nat.log2 b.mantissa : Int) + 1
    (ofParts b.negative b.mantissa (-size), b.exponent + size)

/-- The power of two of the leading bit. -/
def leadingBit (x : Float) : Int :=
  if x == 0.0 || x.isNaN then -2147483648
  else if x.isInf then 2147483647
  else (fractionAndPower x).2 - 1

/-- The part after the point, and the part before it. -/
def parts (x : Float) : Float × Float :=
  if x.isInf then (copySign 0.0 x, x)
  else
    let whole := copySign (truncate x) x
    (copySign (x - whole) x, whole)

/-- The difference to the nearest multiple, of two equally near ones the even one. -/
def remainderNearest (x y : Float) : Float :=
  if x.isNaN || y.isNaN || x.isInf || y == 0.0 then nan
  else if y.isInf then x
  else
    let a := Binary.ofFloat x
    let b := Binary.ofFloat y
    let low := min a.exponent b.exponent
    let m := a.mantissa * Nat.pow 2 (a.exponent - low).toNat
    let n := b.mantissa * Nat.pow 2 (b.exponent - low).toNat
    let q := m / n
    let r := m % n
    if 2 * r > n || (2 * r == n && q % 2 == 1) then ofParts (!a.negative) (n - r) low
    else ofParts a.negative r low

/-- The neighbour of the first number towards the second. -/
def nextAfter (x y : Float) : Float :=
  if x.isNaN || y.isNaN then nan
  else if x == y then y
  else if x == 0.0 then copySign (Float.ofBits 1) y
  else if (x < y) == (0.0 < x) then Float.ofBits (x.toBits + 1)
  else Float.ofBits (x.toBits - 1)

/-- `x · y + z` rounded once. -/
def multiplyAdd (x y z : Float) : Float :=
  if !x.isFinite || !y.isFinite || !z.isFinite then x * y + z
  else
    let a := Binary.ofFloat x
    let b := Binary.ofFloat y
    let c := Binary.ofFloat z
    let low := min (a.exponent + b.exponent) c.exponent
    let signed (negative : Bool) (n : Nat) (e : Int) : Int :=
      let m : Int := ((n * Nat.pow 2 (e - low).toNat : Nat) : Int)
      if negative then -m else m
    let sum := signed (a.negative != b.negative) (a.mantissa * b.mantissa) (a.exponent + b.exponent)
      + signed c.negative c.mantissa c.exponent
    if sum == 0 then x * y + z else ofParts (sum < 0) sum.natAbs low

/-- `e ^ x - 1`, also near zero. -/
def expMinusOne (x : Float) : Float :=
  let u := x.exp
  if u == 1.0 then x
  else if u - 1.0 == -1.0 || u.isInf then u - 1.0
  else (u - 1.0) * x / u.log

/-- `log (1 + x)`, also near zero. -/
def logOnePlus (x : Float) : Float :=
  let u := 1.0 + x
  if u == 1.0 then x
  else if u.isInf || u.isNaN || u ≤ 0.0 then u.log
  else u.log * x / (u - 1.0)

/-- The coefficients of Lanczos' series for the gamma function. -/
def gammaSeries : List Float := [
  676.5203681218851, -1259.1392167224028, 771.32342877765313, -176.61502916214059,
  12.507343278686905, -0.13857109526572012, 9.9843695780195716e-6, 1.5056327351493116e-7]

/-- The sum of that series. -/
def gammaSum (x : Float) : Float :=
  (gammaSeries.foldl (fun (sum, i) c => (sum + c / (x + i), i + 1.0)) (0.99999999999980993, 1.0)).1

/-- The ratio of a circle to its diameter. -/
def pi : Float := 3.141592653589793

/-- The product of the whole numbers up to the given one. -/
def factorial : Nat → Nat
  | 0 => 1
  | n + 1 => (n + 1) * factorial n

/-- The gamma function from one half on. -/
def gammaAbove (x : Float) : Float :=
  let x := x - 1.0
  let t := x + 7.5
  (2.0 * pi).sqrt * t.pow (x + 0.5) * (-t).exp * gammaSum x

/-- The gamma function. -/
def gamma (x : Float) : Float :=
  if x.isNaN then x
  else if x == 0.0 then 1.0 / x
  else if x.floor == x && x.abs ≤ 171.0 then
    if x > 0.0 then Float.ofNat (factorial (x.toUInt64.toNat - 1)) else nan
  else if x > 172.0 then 1.0 / 0.0
  else if x < 0.5 then pi / ((pi * x).sin * gammaAbove (1.0 - x))
  else gammaAbove x

/-- The logarithm of the magnitude of the gamma function. -/
def logGamma (x : Float) : Float :=
  if x.abs < 100.0 then (gamma x).abs.log
  else if x < 0.0 then (pi / (pi * x).sin.abs).log - above (1.0 - x)
  else above x
where
  /-- Stirling's series. -/
  above (x : Float) : Float :=
    (x - 0.5) * x.log - x + 0.5 * (2.0 * pi).log + 1.0 / (12.0 * x) - 1.0 / (360.0 * x * x * x)

/-- The value of a function of one number. -/
def unary (f : UnaryMath) (x : Float) : Float :=
  match f with
  | .acos => x.acos
  | .acosh => x.acosh
  | .asin => x.asin
  | .asinh => x.asinh
  | .atan => x.atan
  | .atanh => x.atanh
  | .cbrt => x.cbrt
  | .cos => x.cos
  | .cosh => x.cosh
  | .exp => x.exp
  | .exp10 => Float.pow 10.0 x
  | .exp2 => x.exp2
  | .expm1 => expMinusOne x
  | .fabs => x.abs
  | .gamma => gamma x
  | .lgamma => logGamma x
  | .log => x.log
  | .log10 => x.log10
  | .log1p => logOnePlus x
  | .log2 => x.log2
  | .logb =>
    if x == 0.0 then -1.0 / 0.0 else if x.isInf then x.abs else if x.isNaN then x
    else Float.ofInt (leadingBit x)
  | .nearbyint => roundEven x
  | .pow10 => Float.pow 10.0 x
  | .rint => roundEven x
  | .significand => if x == 0.0 || !x.isFinite then x else (fractionAndPower x).1 * 2.0
  | .sin => x.sin
  | .sinh => x.sinh
  | .sqrt => x.sqrt
  | .tan => x.tan
  | .tanh => x.tanh
  | .tgamma => gamma x
  | .trunc => copySign (truncate x) x

/-- The value of a function of two numbers. -/
def binary (f : BinaryMath) (x y : Float) : Float :=
  match f with
  | .atan2 => Float.atan2 x y
  | .copysign => copySign x y
  | .drem => remainderNearest x y
  | .fdim => if x.isNaN || y.isNaN then nan else if x > y then x - y else 0.0
  | .fmax => if x.isNaN then y else if y.isNaN then x else if x < y then y else x
  | .fmin => if x.isNaN then y else if y.isNaN then x else if y < x then y else x
  | .fmod => floatRemainder x y
  | .nextafter => nextAfter x y
  | .nexttoward => nextAfter x y
  | .pow => x.pow y
  | .scalb => x * y.exp2
  | .hypot => (x * x + y * y).sqrt

/-- The whole number of 64 bits nearest to a number that is whole; zero for what is no number. -/
def toWhole (x : Float) : Int :=
  if x.isNaN then 0
  else if x ≥ 9223372036854775807.0 then 9223372036854775808 - 1
  else if x ≤ -9223372036854775808.0 then -(9223372036854775808)
  else if x < 0.0 then -((-x).toUInt64.toNat : Int)
  else (x.toUInt64.toNat : Int)

/-- A number rounded to a whole one; a half goes away from zero. -/
def round (direction : Rounding) (v : Value) : Result Value :=
  match v with
  | .int n => .ok (.int n)
  | .float x => .ok (.int (toWhole (along x)))
  | .numeral text => .ok (.int (toWhole (along (Value.floatOfNumeral text))))
  | v => Result.fail (.wrongKind v .float)
where
  /-- The whole number, still as a binary64 one. -/
  along (x : Float) : Float :=
    match direction with
    | .down => x.floor
    | .nearest => x.round
    | .up => x.ceil

end Lookout.Query.Numbers
