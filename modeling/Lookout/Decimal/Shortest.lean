/-!
Decimal text of binary64 numbers: the fewest digits that read back, found in exact arithmetic on
natural numbers, and the styles they are written in.
-/
namespace Lookout.Decimal

/-- A positive number `digits · 10 ^ exponent`. -/
structure Decimal where
  digits : Nat
  exponent : Int
  deriving DecidableEq, Repr, Inhabited

/-- The parts of a finite binary64 number: its sign and `mantissa · 2 ^ exponent`. -/
structure Binary where
  negative : Bool
  mantissa : Nat
  exponent : Int
  /-- The neighbour below is half as far away as the one above. -/
  narrowBelow : Bool
  deriving DecidableEq, Repr, Inhabited

/-- Takes a finite number apart. -/
def Binary.ofFloat (x : Float) : Binary :=
  let bits : Nat := x.toBits.toNat
  let fraction : Nat := bits % 4503599627370496
  let biased : Nat := bits / 4503599627370496 % 2048
  let negative := bits / 9223372036854775808 == 1
  if biased == 0 then ⟨negative, fraction, -1074, false⟩
  else ⟨negative, 4503599627370496 + fraction, (biased : Int) - 1075, fraction == 0 && biased > 1⟩

/-- How many decimal digits a number has; zero has one. -/
def digitCount (n : Nat) : Nat := (Nat.toDigits 10 n).length

/-- The power of ten of the leading digit of `num / den`, where `den` is positive and the quotient
is at least `10 ^ -400`. -/
def leadingPower (num den : Nat) : Int :=
  (digitCount (num * Nat.pow 10 400 / den) : Int) - 401

/-- The fraction `num · 10 ^ power / den` as numerator and denominator. -/
def scale (num den : Nat) (power : Int) : Nat × Nat :=
  if power ≥ 0 then (num * Nat.pow 10 power.toNat, den) else (num, den * Nat.pow 10 (-power).toNat)

/-- The decimal with unit `10 ^ unit` that lies between the bounds, nearest to the value; of two
equally near ones the even one. All of `low`, `value` and `high` are over `den`. -/
def onGrid? (low value high den : Nat) (closed : Bool) (unit : Int) : Option Nat :=
  let (v, d) := scale value den (-unit)
  let (l, _) := scale low den (-unit)
  let (h, _) := scale high den (-unit)
  let below := v / d
  let above := below + 1
  let inside := fun (c : Nat) =>
    if closed then decide (l ≤ c * d ∧ c * d ≤ h) else decide (l < c * d ∧ c * d < h)
  let nearBelow := v - below * d
  let nearAbove := above * d - v
  let first :=
    if nearBelow < nearAbove then below
    else if nearAbove < nearBelow then above
    else if below % 2 == 0 then below else above
  let second := if first == below then above else below
  if first > 0 && inside first then some first
  else if second > 0 && inside second then some second
  else none

/-- Tries one digit, then two, and so on. -/
def searchGrids (low value high den : Nat) (closed : Bool) (top : Int) : Nat → Nat → Decimal
  | 0, _ => ⟨value / den, 0⟩
  | fuel + 1, count =>
    let unit := top - (count : Int) + 1
    match onGrid? low value high den closed unit with
    | some digits => ⟨digits, unit⟩
    | none => searchGrids low value high den closed top fuel (count + 1)

/-- Without trailing zeros. -/
def Decimal.trim : Nat → Decimal → Decimal
  | 0, d => d
  | fuel + 1, d =>
    if d.digits != 0 && d.digits % 10 == 0 then Decimal.trim fuel ⟨d.digits / 10, d.exponent + 1⟩
    else d

/-- The decimal with the fewest digits that reads back as the given nonzero number, and of those
the nearest one. Seventeen digits always suffice. -/
def shortest (b : Binary) : Decimal :=
  let value := 4 * b.mantissa
  let low := if b.narrowBelow then value - 1 else value - 2
  let high := value + 2
  let (factor, den) : Nat × Nat :=
    if b.exponent ≥ 0 then (Nat.pow 2 b.exponent.toNat, 4) else (1, 4 * Nat.pow 2 (-b.exponent).toNat)
  let value := value * factor
  let top := leadingPower value den
  (searchGrids (low * factor) value (high * factor) den (b.mantissa % 2 == 0) top 18 1).trim 400

/-- How finite numbers are written. -/
structure Style where
  /-- Positional notation is used while the decimal point stands before this place. -/
  lowest : Int
  /-- Positional notation is used while the decimal point stands at or before this place. -/
  highest : Int
  /-- Whole numbers are written with a zero after the point. -/
  keepsPoint : Bool
  /-- A positive exponent has a sign. -/
  signsExponent : Bool
  deriving Repr

/-- JSON text: positional from `0.00001` up to seventeen digits, exponents with their sign. -/
def Style.json : Style := ⟨-4, 16, true, true⟩

/-- Positional at any size, with no point for whole numbers. -/
def Style.plain : Style := ⟨-400, 400, false, false⟩

/-- Positional at any size, with a zero after the point of a whole number. -/
def Style.pointed : Style := ⟨-400, 400, true, false⟩

/-- `n` zeros. -/
def zeros (n : Nat) : String := String.ofList (List.replicate n '0')

/-- A positive decimal in the given style. -/
def Style.write (style : Style) (d : Decimal) : String :=
  let digits := toString d.digits
  let count := digits.length
  -- the place of the decimal point, counted from before the first digit
  let point : Int := (count : Int) + d.exponent
  if style.lowest ≤ point && point ≤ style.highest then
    if d.exponent ≥ 0 then
      digits ++ zeros d.exponent.toNat ++ (if style.keepsPoint then ".0" else "")
    else if point > 0 then
      String.ofList (digits.toList.take point.toNat) ++ "." ++
        String.ofList (digits.toList.drop point.toNat)
    else "0." ++ zeros (-point).toNat ++ digits
  else
    let exponent := point - 1
    let mantissa := match digits.toList with
      | [] => ""
      | [c] => c.toString
      | c :: rest => c.toString ++ "." ++ String.ofList rest
    let sign := if exponent < 0 then "-" else if style.signsExponent then "+" else ""
    mantissa ++ "e" ++ sign ++ toString exponent.natAbs

/-- The text of a finite number. -/
def Style.ofFloat (style : Style) (x : Float) : String :=
  let b := Binary.ofFloat x
  let sign := if b.negative then "-" else ""
  if b.mantissa == 0 then sign ++ (if style.keepsPoint then "0.0" else "0")
  else sign ++ style.write (shortest b)

end Lookout.Decimal
