/-!
Decimal numerals as binary64 numbers, rounded to nearest.
-/
namespace Lookout.Decimal

/-- A numeral taken apart: sign, digits without the point, and the power of ten of the last digit. -/
structure Numeral where
  negative : Bool
  digits : Nat
  exponent : Int
  deriving DecidableEq, Repr

/-- The number that decimal digits stand for, and the rest of the text. -/
def takeNat : List Char → Nat × Nat × List Char :=
  go 0 0
where
  go (value count : Nat) : List Char → Nat × Nat × List Char
    | c :: rest =>
      if c.isDigit then go (value * 10 + (c.toNat - 48)) (count + 1) rest
      else (value, count, c :: rest)
    | [] => (value, count, [])

/-- A whole number with an optional sign. -/
def takeSigned (cs : List Char) : Option (Int × List Char) :=
  let (negative, cs) : Bool × List Char := match cs with
    | '-' :: rest => (true, rest)
    | '+' :: rest => (false, rest)
    | _ => (false, cs)
  let (n, count, rest) := takeNat cs
  if count == 0 then none else some (if negative then -(n : Int) else n, rest)

/-- Reads `digits[.digits][e[sign]digits]` after an optional sign. At least one digit stands before
the exponent. -/
def Numeral.ofChars? (cs : List Char) : Option Numeral := do
  let (negative, cs) : Bool × List Char := match cs with
    | '-' :: rest => (true, rest)
    | '+' :: rest => (false, rest)
    | _ => (false, cs)
  let (whole, wholeCount, cs) := takeNat cs
  let (digits, fractionCount, cs) := match cs with
    | '.' :: rest =>
      let (fraction, count, rest) := takeNat rest
      (whole * Nat.pow 10 count + fraction, count, rest)
    | _ => (whole, 0, cs)
  if wholeCount + fractionCount == 0 then none
  match cs with
  | [] => some ⟨negative, digits, -fractionCount⟩
  | c :: rest =>
    if c == 'e' || c == 'E' then
      match takeSigned rest with
      | some (e, []) => some ⟨negative, digits, e - fractionCount⟩
      | _ => none
    else none

/-- The nearest binary64 number; infinite when the numeral is too large. -/
def Numeral.toFloat (n : Numeral) : Float :=
  let size : Int := ((Nat.toDigits 10 n.digits).length : Int) + n.exponent
  let x :=
    if n.digits == 0 || size < -400 then 0.0
    else if size > 400 then 1.0 / 0.0
    else if n.exponent ≥ 0 then Float.ofScientific (n.digits * Nat.pow 10 n.exponent.toNat) false 0
    else Float.ofScientific n.digits true n.exponent.natAbs
  if n.negative then -x else x

/-- The number that a numeral stands for. -/
def floatOf? (text : String) : Option Float := (Numeral.ofChars? text.toList).map Numeral.toFloat

end Lookout.Decimal
