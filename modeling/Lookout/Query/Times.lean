import Lookout.Calendar.Reading
import Lookout.Query.Numbers
/-!
Times as values: seconds since the start of 1970, or arrays of year, month, day, hour, minute,
second, day of the week and day of the year, where months and both kinds of days but the first
count from zero.
-/
namespace Lookout.Query.Times

open Calendar (Moment)

/-- A whole number in 64 bits, the rest cut off. -/
def wrap (n : Int) : Int := (n + 9223372036854775808) % 18446744073709551616 - 9223372036854775808

/-- The moment of a number of seconds. -/
def ofEpoch (v : Value) : Result Moment := do
  let micros ← match v with
    | .int n => pure (wrap (n * 1000000))
    | v => v.toFloat.map fun x => Numbers.toWhole (x * 1000000.0)
  match Moment.ofMicros? micros with
  | some m => return m
  | none => Result.fail (.told ("cannot parse " ++ v.render ++ " as epoch timestamp"))

/-- A count within 32 bits. -/
def count? (v : Value) : Option Nat :=
  match v with
  | .int n => if 0 ≤ n && n < 4294967296 then some n.toNat else none
  | _ => none

/-- The moment of an array. -/
def ofItems? (items : List Value) : Option Moment :=
  match items with
  | year :: month :: day :: hour :: minute :: second :: _ => do
    let seconds ← match second.toFloat with
      | .ok x => some x
      | .error _ => none
    let year ← match year with
      | .int n => some n
      | _ => none
    let month ← count? month
    let day ← count? day
    let hour ← count? hour
    let minute ← count? minute
    let whole := Numbers.toWhole seconds.floor
    if whole < 0 || 59 < whole || 23 < hour || 59 < minute then none
    let date ← Calendar.Date.of? year (month + 1) day
    let nano := ((seconds - Numbers.truncate seconds) * 1000000000.0).toUInt64.toNat
    some ⟨date, hour, minute, whole.toNat, nano⟩
  | _ => none

/-- The moment of an array, with the failure that a query sees. -/
def ofItems (items : List Value) : Result Moment :=
  match ofItems? items with
  | some m => .ok m
  | none => Result.fail (.told ("cannot convert " ++ (Value.array items).render ++ " to time"))

/-- The array of a moment. -/
def toItems (m : Moment) : List Value :=
  let t := m.time
  let micros := t.nanosecond / 1000
  [.int m.date.year, .ofNat (m.date.month - 1), .ofNat m.date.day, .ofNat t.hour, .ofNat t.minute,
    if t.nanosecond > 0 then .float (Float.ofNat t.second + Float.ofNat micros / 1000000.0)
    else .ofNat t.second,
    .ofNat m.date.weekday, .ofNat m.date.dayOfYear]

/-- The seconds of a moment, with their fraction when it is wanted. -/
def toEpoch (m : Moment) (fraction : Bool) : Value :=
  if fraction then .float (Float.ofInt m.toMicros / 1000000.0) else .int m.toSeconds

/-- The array of a number of seconds. -/
def breakDown (v : Value) : Result Value := do return .array (toItems (← ofEpoch v))

/-- The number of seconds of an array. -/
def ofArray (v : Value) : Result Value := do
  let m ← ofItems (← v.toItems)
  return toEpoch m (m.time.nanosecond % 1000000000 / 1000 > 0)

/-- A time by a format. -/
def format (v format : Value) : Result Value := do
  let format ← format.toStr
  let m ← match v with
    | .array items => ofItems items
    | v => ofEpoch v
  match m.format? format with
  | some s => return .string s
  | none =>
    .error (.panic "a Display implementation returned an error unexpectedly: Error")

/-- The array of a text read by a format. -/
def parse (v format : Value) : Result Value := do
  let text ← v.toStr
  let format ← format.toStr
  match Moment.parse format text with
  | .ok m => return .array (toItems m)
  | .error fault =>
    Result.fail (.told ("cannot parse " ++ text ++ " using " ++ format ++ ": " ++ fault.message))

/-- The standard text of a number of seconds. -/
def toStandard (v : Value) : Result Value := do
  let fail : Result Value :=
    Result.fail (.told ("cannot format " ++ v.render ++ " as ISO-8601 timestamp"))
  match v with
  | .int n =>
    match Moment.ofSeconds? n 0 with
    | some m => return .string (Calendar.standardText m ++ "Z")
    | none => fail
  | v =>
    match Moment.ofMicros? (Numbers.toWhole ((← v.toFloat) * 1000000.0)) with
    | some m =>
      return .string (Calendar.standardText m ++ Calendar.markText m (.pointDigits 6) ++ "Z")
    | none => fail

/-- The number of seconds of a standard text. -/
def ofStandard (v : Value) : Result Value := do
  let text ← v.toStr
  match Calendar.readStandard text with
  | .ok (m, offset) =>
    let seconds := m.toSeconds - offset
    if text.toList.contains '.' then
      return .float (Float.ofInt (m.toMicros - offset * 1000000) / 1000000.0)
    else return .int seconds
  | .error fault =>
    Result.fail (.told ("cannot parse " ++ text ++ " as ISO-8601 timestamp: " ++ fault.message))

end Lookout.Query.Times
