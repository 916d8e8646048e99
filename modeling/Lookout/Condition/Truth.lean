import Lookout.Text.Blank
/-!
Which texts count as true: the word `true` in any mix of ASCII cases, and decimal whole numbers
above zero that fit 64 bits with a sign. Blanks around them do not matter.
-/
namespace Lookout.Condition

/-- The greatest whole number of 64 bits with a sign. -/
def maxWhole : Nat := 9223372036854775808 - 1

/-- The number of decimal digits read after a number, unless it leaves 64 bits with a sign. -/
def digitsFrom? (value : Nat) : List Char → Option Nat
  | [] => some value
  | c :: rest =>
    if c.isDigit then
      let next := value * 10 + (c.toNat - 48)
      if next ≤ maxWhole then digitsFrom? next rest else none
    else none

/-- A decimal number without a sign or with a plus sign. -/
def unsigned? (cs : List Char) : Option Nat :=
  match cs with
  | [] => none
  | '+' :: [] => none
  | '+' :: rest => digitsFrom? 0 rest
  | cs => digitsFrom? 0 cs

/-- The word in any mix of ASCII cases. -/
def isTrueWord (cs : List Char) : Bool := cs.map Char.toLower == ['t', 'r', 'u', 'e']

/-- Whether a text counts as true. -/
def isTruthy (cs : List Char) : Bool :=
  let inner := Text.trim cs
  isTrueWord inner || (unsigned? inner).any (0 < ·)

end Lookout.Condition
