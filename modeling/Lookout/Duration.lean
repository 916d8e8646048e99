import Lookout.Text.Blank
/-!
Lengths of time to the nanosecond and their text: numbers with units such as `1h 30m`, written
from the greatest unit down. A year has 365.25 days and a month a twelfth of that.
-/
namespace Lookout

/-- A length of time of less than `2 ^ 64` seconds. -/
structure Duration where
  nanoseconds : Nat
  bounded : nanoseconds < 18446744073709551616 * 1000000000
  deriving DecidableEq, Repr

namespace Duration

/-- No time at all. -/
def zero : Duration := ⟨0, by decide⟩

instance : Inhabited Duration := ⟨zero⟩

/-- A number of nanoseconds, when it is small enough. -/
def ofNanoseconds? (n : Nat) : Option Duration :=
  if h : n < 18446744073709551616 * 1000000000 then some ⟨n, h⟩ else none

/-- The whole seconds. -/
def seconds (d : Duration) : Nat := d.nanoseconds / 1000000000

/-- The nanoseconds beyond whole seconds. -/
def remainder (d : Duration) : Nat := d.nanoseconds % 1000000000

/-- The whole milliseconds. -/
def milliseconds (d : Duration) : Nat := d.nanoseconds / 1000000

/-! ### Units -/

/-- A unit of time. -/
inductive Unit where
  | nanosecond | microsecond | millisecond | second | minute | hour | day | week | month | year
  deriving DecidableEq, Repr

namespace Unit

/-- The nanoseconds in a unit. -/
def nanoseconds : Unit → Nat
  | nanosecond => 1
  | microsecond => 1000
  | millisecond => 1000000
  | second => 1000000000
  | minute => 60 * 1000000000
  | hour => 3600 * 1000000000
  | day => 86400 * 1000000000
  | week => 7 * 86400 * 1000000000
  | month => 2630016 * 1000000000
  | year => 31557600 * 1000000000

/-- The names that a unit is read by. -/
def names : Unit → List String
  | nanosecond => ["nanos", "nsec", "ns"]
  | microsecond => ["usec", "us", "µs"]
  | millisecond => ["millis", "msec", "ms"]
  | second => ["seconds", "second", "secs", "sec", "s"]
  | minute => ["minutes", "minute", "min", "mins", "m"]
  | hour => ["hours", "hour", "hrs", "hr", "h"]
  | day => ["days", "day", "d"]
  | week => ["weeks", "week", "wks", "wk", "w"]
  | month => ["months", "month", "M"]
  | year => ["years", "year", "yrs", "yr", "y"]

/-- All units. -/
def all : List Unit :=
  [nanosecond, microsecond, millisecond, second, minute, hour, day, week, month, year]

/-- The unit of a name. -/
def ofName? (name : String) : Option Unit := all.find? fun u => u.names.contains name

/-- The nanoseconds that one step of a number or fraction of the unit counts: fractions of units
above a minute are cut to whole seconds. -/
def fractionStep : Unit → Nat
  | nanosecond | microsecond | millisecond | second | minute => 1
  | hour | day | week | month | year => 1000000000

end Unit

/-! ### Reading -/

/-- The bound on every number while a text is read. -/
def wordLimit : Nat := 18446744073709551616

/-- A fraction of a unit, `numerator / 10 ^ places`. -/
structure Fraction where
  numerator : Nat
  places : Nat
  deriving DecidableEq, Repr

/-- Whether a character can stand in the name of a unit. -/
def isUnitChar (c : Char) : Bool := c.isAlpha || c == 'µ'

/-- The places of a fraction up to the name of its unit. Blanks between them do not count; there is
at least one place and at most nineteen. -/
def readFraction (f : Fraction) : List Char → Option (Fraction × List Char)
  | [] => if f.places == 0 then none else some (f, [])
  | c :: rest =>
    if c.isDigit then
      if f.places < 19 then readFraction ⟨f.numerator * 10 + (c.toNat - 48), f.places + 1⟩ rest
      else none
    else if Text.isBlank c then readFraction f rest
    else if isUnitChar c && f.places != 0 then some (f, c :: rest)
    else none

/-- The digits of a number and of its fraction up to the name of the unit. Blanks between digits do
not count. -/
def readNumber (n : Nat) : List Char → Option (Nat × Option Fraction × List Char)
  | [] => some (n, none, [])
  | c :: rest =>
    if c.isDigit then
      let next := n * 10 + (c.toNat - 48)
      if next < wordLimit then readNumber next rest else none
    else if Text.isBlank c then readNumber n rest
    else if isUnitChar c then some (n, none, c :: rest)
    else if c == '.' then (readFraction ⟨0, 0⟩ rest).map fun (f, rest) => (n, some f, rest)
    else none

/-- A product, when it stays below the bound. -/
def times? (a b : Nat) : Option Nat := if a * b < wordLimit then some (a * b) else none

/-- A duration and more nanoseconds, of which those below a second or a minute's fraction are
counted apart in a number of 64 bits. -/
def add? (d : Duration) (seconds nanoseconds : Nat) : Option Duration :=
  if d.remainder + nanoseconds < wordLimit then
    ofNanoseconds? (d.nanoseconds + seconds * 1000000000 + nanoseconds)
  else none

/-- A duration and a number of units. -/
def addUnits? (d : Duration) (n : Nat) (u : Unit) : Option Duration :=
  if u.nanoseconds < 1000000000 then do d.add? 0 (← times? n u.nanoseconds)
  else do d.add? (← times? n (u.nanoseconds / 1000000000)) 0

/-- A duration and a fraction of a unit. Nanoseconds have no fractions. -/
def addFraction? (d : Duration) (f : Fraction) (u : Unit) : Option Duration :=
  if u == .nanosecond then none
  else do
    let n := (← times? f.numerator (u.nanoseconds / u.fractionStep)) / Nat.pow 10 f.places
    if u.fractionStep == 1 then d.add? 0 n else d.add? n 0

/-- Reads the name of a unit, adds the number of them, and goes on with the next number. The name
ends before a digit or a blank. -/
def readItems (fuel : Nat) (d : Duration) (n : Nat) (cs : List Char) : Option Duration :=
  match fuel with
  | 0 => none
  | fuel + 1 => do
    let (n, fraction, cs) ← readNumber n cs
    let name := cs.takeWhile isUnitChar
    let rest := cs.drop name.length
    let u ← Unit.ofName? (String.ofList name)
    let d ← d.addUnits? n u
    let d ← match fraction with
      | none => some d
      | some f => d.addFraction? f u
    match rest with
    | [] => some d
    | c :: rest =>
      if c.isDigit then readItems fuel d (c.toNat - 48) rest
      else if Text.isBlank c then
        match Text.trimStart rest with
        | [] => some d
        | c :: rest => if c.isDigit then readItems fuel d (c.toNat - 48) rest else none
      else none

/-- Reads a duration: numbers with units, or zero without a unit. -/
def read? (cs : List Char) : Option Duration :=
  if cs = ['0'] then some zero
  else
    match Text.trimStart cs with
    | [] => none
    | c :: rest =>
      if c.isDigit then readItems cs.length zero (c.toNat - 48) rest else none

/-! ### Writing -/

/-- A number with a short unit, unless it is zero. -/
def item (n : Nat) (name : String) : List String := if n = 0 then [] else [toString n ++ name]

/-- A number with a unit that has a plural, unless it is zero. -/
def itemPlural (n : Nat) (name : String) : List String :=
  item n (if n = 1 then name else name ++ "s")

/-- The numbers of each unit in a duration, the greatest first. -/
def items (d : Duration) : List String :=
  let seconds := d.seconds
  let inYear := seconds % 31557600
  let inMonth := inYear % 2630016
  let inDay := inMonth % 86400
  itemPlural (seconds / 31557600) "year" ++ itemPlural (inYear / 2630016) "month" ++
    itemPlural (inMonth / 86400) "day" ++ item (inDay / 3600) "h" ++
    item (inDay % 3600 / 60) "m" ++ item (inDay % 60) "s" ++
    item (d.remainder / 1000000) "ms" ++ item (d.remainder / 1000 % 1000) "us" ++
    item (d.remainder % 1000) "ns"

/-- The text of a duration. -/
def render (d : Duration) : String :=
  if d.nanoseconds = 0 then "0s" else " ".intercalate d.items

/-! ### One unit -/

/-- A number with a fraction of the given number of digits, without zeros at its end. -/
def decimal (whole fraction digits : Nat) : String :=
  let text := (Nat.toDigits 10 fraction)
  let padded := List.replicate (digits - text.length) '0' ++ text
  let kept := (padded.reverse.dropWhile (· == '0')).reverse
  toString whole ++ (if kept.isEmpty then "" else "." ++ String.ofList kept)

/-- The text of a duration in the largest of seconds, milliseconds, microseconds and nanoseconds
that it reaches. -/
def compact (d : Duration) : String :=
  let n := d.nanoseconds
  if n ≥ 1000000000 then decimal (n / 1000000000) (n % 1000000000) 9 ++ "s"
  else if n ≥ 1000000 then decimal (n / 1000000) (n % 1000000) 6 ++ "ms"
  else if n ≥ 1000 then decimal (n / 1000) (n % 1000) 3 ++ "µs"
  else toString n ++ "ns"

end Duration

end Lookout
