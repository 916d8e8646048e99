import Lookout.Calendar.Format
import Lookout.Text.Blank
/-!
Reading moments. The items of a format take what they stand for from the text; the parts found must
make up exactly one date and time and must agree with each other.
-/
namespace Lookout.Calendar

/-- Why a text is no moment. -/
inductive Fault where
  | outOfRange | impossible | notEnough | invalid | tooShort | tooLong | badFormat
  deriving DecidableEq, Repr

/-- The wording of a fault. -/
def Fault.message : Fault → String
  | outOfRange => "input is out of range"
  | impossible => "no possible date and time matching input"
  | notEnough => "input is not enough for unique date and time"
  | invalid => "input contains invalid characters"
  | tooShort => "premature end of input"
  | tooLong => "trailing input"
  | badFormat => "bad or unsupported format string"

/-- The parts that have been read. -/
structure Parts where
  year : Option Int := none
  century : Option Int := none
  yearOfCentury : Option Int := none
  isoYear : Option Int := none
  isoYearOfCentury : Option Int := none
  quarter : Option Int := none
  month : Option Int := none
  day : Option Int := none
  weekFromSunday : Option Int := none
  weekFromMonday : Option Int := none
  isoWeek : Option Int := none
  /-- From zero for Sunday on. -/
  weekday : Option Int := none
  dayOfYear : Option Int := none
  half : Option Int := none
  hourOfHalf : Option Int := none
  minute : Option Int := none
  second : Option Int := none
  nanosecond : Option Int := none
  timestamp : Option Int := none

/-- A part set to a value in its range; a second value must be the same. -/
def agree (old : Option Int) (low high value : Int) : Except Fault (Option Int) :=
  if value < low || high < value then .error .outOfRange
  else match old with
    | some v => if v == value then .ok old else .error .impossible
    | none => .ok (some value)

/-- Digits, at least one and at most as many as given. -/
def readNumber (limit : Option Nat) (cs : List Char) : Except Fault (Int × List Char) :=
  match cs with
  | [] => .error .tooShort
  | c :: _ =>
    if !c.isDigit then .error .invalid
    else
      let all := cs.takeWhile Char.isDigit
      let digits := match limit with
        | some n => all.take n
        | none => all
      let n := digits.foldl (fun n d => n * 10 + (d.toNat - 48)) 0
      if n ≥ 9223372036854775808 then .error .outOfRange else .ok (n, cs.drop digits.length)

/-- Digits with an optional sign; a signed number has no limit of digits. -/
def readSigned (limit : Option Nat) (cs : List Char) : Except Fault (Int × List Char) :=
  match cs with
  | '-' :: rest => (readNumber none rest).map fun (n, rest) => (-n, rest)
  | '+' :: rest => readNumber none rest
  | cs => readNumber limit cs

/-- How many digits a field has, and whether it may have a sign. -/
def Field.width : Field → Option Nat × Bool
  | year => (some 4, true)
  | isoYear => (some 4, true)
  | quarter => (some 1, false)
  | weekday => (some 1, false)
  | weekdayFromMonday => (some 1, false)
  | dayOfYear => (some 3, false)
  | nanosecond => (some 9, false)
  | timestamp => (none, true)
  | _ => (some 2, false)

namespace Parts

/-- Sets the hour of a whole day. -/
def setHour (p : Parts) (v : Int) : Except Fault Parts :=
  if v < 0 || 23 < v then .error .outOfRange
  else do
    return { p with half := ← agree p.half 0 1 (v / 12), hourOfHalf := ← agree p.hourOfHalf 0 11 (v % 12) }

/-- Sets the part that a field stands for. -/
def set (p : Parts) (f : Field) (v : Int) : Except Fault Parts := do
  let big : Int := 2147483648
  match f with
  | .year => return { p with year := ← agree p.year (-big) (big - 1) v }
  | .century => return { p with century := ← agree p.century 0 (big - 1) v }
  | .yearOfCentury => return { p with yearOfCentury := ← agree p.yearOfCentury 0 99 v }
  | .isoYear => return { p with isoYear := ← agree p.isoYear (-big) (big - 1) v }
  | .isoYearOfCentury => return { p with isoYearOfCentury := ← agree p.isoYearOfCentury 0 99 v }
  | .quarter => return { p with quarter := ← agree p.quarter 1 4 v }
  | .month => return { p with month := ← agree p.month 1 12 v }
  | .day => return { p with day := ← agree p.day 1 31 v }
  | .weekFromSunday => return { p with weekFromSunday := ← agree p.weekFromSunday 0 53 v }
  | .weekFromMonday => return { p with weekFromMonday := ← agree p.weekFromMonday 0 53 v }
  | .isoWeek => return { p with isoWeek := ← agree p.isoWeek 1 53 v }
  | .weekday => return { p with weekday := ← agree p.weekday 0 6 v }
  | .weekdayFromMonday =>
    if v < 1 || 7 < v then .error .outOfRange
    return { p with weekday := ← agree p.weekday 0 6 (v % 7) }
  | .dayOfYear => return { p with dayOfYear := ← agree p.dayOfYear 1 366 v }
  | .hour => setHour p v
  | .hourOfHalf =>
    if v < 1 || 12 < v then .error .outOfRange
    return { p with hourOfHalf := ← agree p.hourOfHalf 0 11 (v % 12) }
  | .minute => return { p with minute := ← agree p.minute 0 59 v }
  | .second => return { p with second := ← agree p.second 0 60 v }
  | .nanosecond => return { p with nanosecond := ← agree p.nanosecond 0 999999999 v }
  | .timestamp => return { p with timestamp := ← agree p.timestamp (-(9223372036854775808)) (9223372036854775808 - 1) v }

end Parts

/-- The rest after a word in any mix of ASCII cases. -/
def afterWord? (word : String) (cs : List Char) : Option (List Char) :=
  let n := word.length
  if (cs.take n).map Char.toLower == word.toList.map Char.toLower then some (cs.drop n) else none

/-- The place of the name that a text begins with, by the first three letters or, when `long`, by
as much as there is of it. -/
def readName (names : List String) (long : Bool) (cs : List Char) :
    Except Fault (Nat × List Char) :=
  if cs.length < 3 then .error .tooShort
  else
    let found := names.findIdx? fun name =>
      (afterWord? (String.ofList (name.toList.take 3)) cs).isSome
    match found with
    | none => .error .invalid
    | some i =>
      let rest := cs.drop 3
      let tail := String.ofList ((names.getD i "").toList.drop 3)
      .ok (i, if long then (afterWord? tail rest).getD rest else rest)

/-- A fraction of a second in nanoseconds; digits beyond the ninth are dropped. -/
def readFraction (cs : List Char) : Except Fault (Int × List Char) :=
  match cs with
  | [] => .error .tooShort
  | c :: _ =>
    if !c.isDigit then .error .invalid
    else
      let digits := (cs.takeWhile Char.isDigit).take 9
      let n := digits.foldl (fun n d => n * 10 + (d.toNat - 48)) 0
      .ok (((n * Nat.pow 10 (9 - digits.length) : Nat) : Int), cs.dropWhile Char.isDigit)

/-- A fixed number of digits of a fraction. -/
def readDigits (count : Nat) (cs : List Char) : Except Fault (Int × List Char) :=
  if cs.length < count then .error .tooShort
  else if !(cs.take count).all Char.isDigit then .error .invalid
  else
    let n := (cs.take count).foldl (fun n d => n * 10 + (d.toNat - 48)) 0
    .ok (((n * Nat.pow 10 (9 - count) : Nat) : Int), cs.drop count)

/-- Two digits. -/
def twoDigits (cs : List Char) : Except Fault (Nat × List Char) :=
  match cs with
  | a :: b :: rest =>
    if a.isDigit && b.isDigit then .ok ((a.toNat - 48) * 10 + (b.toNat - 48), rest)
    else .error .invalid
  | [c] => if c.toNat < 128 then .error .tooShort else .error .invalid
  | [] => .error .tooShort

/-- What follows a mark. -/
def afterMark (mark : Char) (cs : List Char) : Except Fault (List Char) :=
  match cs with
  | c :: rest => if c == mark then .ok rest else .error .invalid
  | [] => .error .tooShort

/-- The minutes of a distance from universal time. -/
def offsetMinutes (cs : List Char) : Except Fault (Nat × List Char) :=
  match twoDigits cs with
  | .ok (minutes, rest) => if minutes > 59 then .error .outOfRange else .ok (minutes, rest)
  | .error fault => .error fault

/-- A distance from universal time in seconds: a sign, hours, a separator and minutes. A letter may
stand for none at all when `letter`, and minutes may be missing when `short`. -/
def readOffset (letter short : Bool) (separator : List Char → Except Fault (List Char))
    (cs : List Char) : Except Fault (Int × List Char) :=
  match cs with
  | [] => .error .tooShort
  | c :: rest =>
    if letter && (c == 'z' || c == 'Z') then .ok (0, rest)
    else if c != '+' && c != '-' && c != '\u2212' then .error .invalid
    else do
      let (hours, rest) ← twoDigits rest
      let rest ← separator rest
      let (minutes, rest) ← if short && rest.isEmpty then pure (0, rest) else offsetMinutes rest
      let seconds : Int := hours * 3600 + minutes * 60
      return (if c == '+' then seconds else -seconds, rest)

/-- Skips colons and blanks. -/
def skipColons (cs : List Char) : Except Fault (List Char) :=
  .ok (cs.dropWhile fun c => c == ':' || Text.isBlank c)

/-- The bytes that a text in the standard form has at least. -/
def standardSize : Nat := 19

/-- Reads the standard form at the start of a text, with the distance from universal time in
seconds. The date and the time may have a letter of either case or a blank between them. -/
def takeStandard (cs : List Char) : Except Fault (Moment × Int × List Char) := do
  if (String.ofList cs).utf8ByteSize < standardSize then .error .tooShort
  let (century, cs) ← twoDigits cs
  let (year, cs) ← twoDigits cs
  let (month, cs) ← twoDigits (← afterMark '-' cs)
  let (day, cs) ← twoDigits (← afterMark '-' cs)
  let date ← match Date.of? (century * 100 + year : Nat) month day with
    | some date => pure date
    | none => .error .outOfRange
  let cs ← match cs with
    | c :: rest => if c == 'T' || c == 't' || c == ' ' then pure rest else .error .invalid
    | [] => .error .tooShort
  let (hour, cs) ← twoDigits cs
  let (minute, cs) ← twoDigits (← afterMark ':' cs)
  let (second, cs) ← twoDigits (← afterMark ':' cs)
  let (nano, cs) ← match cs with
    | '.' :: rest => readFraction rest
    | cs => pure (0, cs)
  if hour > 23 || minute > 59 || second > 60 then .error .outOfRange
  let time : Time :=
    if second = 60 then ⟨hour, minute, 59, 1000000000 + nano.toNat⟩
    else ⟨hour, minute, second, nano.toNat⟩
  let (offset, cs) ← readOffset true false (afterMark ':') cs
  return (⟨date, time⟩, offset, cs)

/-- Reads the standard form, with the distance from universal time in seconds. -/
def readStandard (text : String) : Except Fault (Moment × Int) := do
  let (moment, offset, rest) ← takeStandard text.toList
  if !rest.isEmpty then .error .tooLong
  if offset.natAbs ≥ 86400 then .error .outOfRange
  return (moment, offset)

/-- Reads what one item stands for. -/
def readItem (item : Item) (p : Parts) (cs : List Char) : Except Fault (Parts × List Char) :=
  match item with
  | .unknown => .error .badFormat
  | .literal s =>
    if cs.length < s.length then .error .tooShort
    else if s.toList.isPrefixOf cs then .ok (p, cs.drop s.length) else .error .invalid
  | .space _ => .ok (p, Text.trimStart cs)
  | .field f _ => do
    let cs := Text.trimStart cs
    let (limit, signed) := f.width
    let (v, rest) ← if signed then readSigned limit cs else readNumber limit cs
    return (← p.set f v, rest)
  | .mark m =>
    let name (names : List String) (long : Bool) (f : Field) (first : Int) := do
      let (i, rest) ← readName names long cs
      return (← p.set f (i + first), rest)
    let nano (r : Except Fault (Int × List Char)) := do
      let (n, rest) ← r
      return (← p.set .nanosecond n, rest)
    let offset (loose : Bool) := do
      let (_, rest) ← readOffset loose loose skipColons (Text.trimStart cs)
      return (p, rest)
    match m with
    | .monthShort => name monthNames false .month 1
    | .monthLong => name monthNames true .month 1
    | .weekdayShort => name weekdayNames false .weekday 0
    | .weekdayLong => name weekdayNames true .weekday 0
    | .halfLower => half cs
    | .halfUpper => half cs
    | .fraction =>
      match cs with
      | '.' :: rest => nano (readFraction rest)
      | cs => .ok (p, cs)
    | .pointDigits _ =>
      match cs with
      | '.' :: rest => nano (readFraction rest)
      | cs => .ok (p, cs)
    | .digits count => nano (readDigits count cs)
    | .zone => .ok (p, cs.dropWhile fun c => !isSpace c)
    | .offset => offset false
    | .offsetColon => offset false
    | .offsetSeconds => offset false
    | .offsetHours => offset false
    | .offsetLoose => offset true
    | .standard => do
      let (m, _, rest) ← takeStandard cs
      let leap : Nat := m.time.nanosecond / 1000000000
      let p ← p.set .year m.date.year
      let p ← p.set .month m.date.month
      let p ← p.set .day m.date.day
      let p ← p.set .hour m.time.hour
      let p ← p.set .minute m.time.minute
      let p ← p.set .second (m.time.second + leap : Nat)
      let p ← p.set .nanosecond (m.time.nanosecond % 1000000000 : Nat)
      return (p, rest)
where
  /-- Reads which half of the day it is. -/
  half (cs : List Char) : Except Fault (Parts × List Char) := do
    if cs.length < 2 then .error .tooShort
    let v ← match (cs.take 2).map Char.toLower with
      | ['a', 'm'] => pure 0
      | ['p', 'm'] => pure 1
      | _ => .error .invalid
    return ({ p with half := ← agree p.half 0 1 v }, cs.drop 2)

/-- A year from its parts. -/
def resolveYear (year century yearOfCentury : Option Int) : Except Fault (Option Int) :=
  match year, century, yearOfCentury with
  | some y, none, none => .ok (some y)
  | some y, c, r =>
    if y < 0 then .error .impossible
    else if (c.all (· == y / 100)) && (r.all (· == y % 100)) then .ok (some y) else .error .impossible
  | none, some c, some r => .ok (some (c * 100 + r))
  | none, none, some r => .ok (some (if r < 70 then 2000 + r else 1900 + r))
  | none, some _, none => .error .notEnough
  | none, none, none => .ok none

/-- The date of a week of a year: weeks begin at the given day of the week, from the first such day
of the year on. -/
def dateOfWeek? (year week weekday first : Int) : Option Date :=
  let start : Date := ⟨year, 1, 1⟩
  let firstDay := (first - start.weekday) % 7
  let day := firstDay + (week - 1) * 7 + (weekday - first) % 7
  if day < 0 then none else Date.ofDayOfYear? year (day.toNat + 1)

/-- The date of a day of a week that belongs to the year of its Thursday. -/
def dateOfIsoWeek? (year week weekday : Int) : Option Date :=
  let fourth : Date := ⟨year, 1, 4⟩
  let monday := fourth.toDays - fourth.weekdayFromMonday
  let date := Date.ofDays (monday + (week - 1) * 7 + (weekday + 6) % 7)
  if date.isoWeek == (year, week.toNat) && yearInRange date.year then some date else none

namespace Parts

/-- The date that the parts determine. -/
def date (p : Parts) : Except Fault Date := do
  let year ← resolveYear p.year p.century p.yearOfCentury
  let isoYear ← resolveYear p.isoYear none p.isoYearOfCentury
  let found (d : Option Date) : Except Fault Date :=
    match d with
    | some d => .ok d
    | none => .error .outOfRange
  let d ←
    match year, p.month, p.day, p.dayOfYear, p.weekday with
    | some y, some m, some d, _, _ => found (Date.of? y m.toNat d.toNat)
    | some y, _, _, some n, _ => found (Date.ofDayOfYear? y n.toNat)
    | some y, _, _, _, some w =>
      match p.weekFromSunday, p.weekFromMonday, isoYear, p.isoWeek with
      | some week, _, _, _ => found (dateOfWeek? y week w 0)
      | none, some week, _, _ => found (dateOfWeek? y week w 1)
      | none, none, some i, some week => found (dateOfIsoWeek? i week w)
      | _, _, _, _ => .error .notEnough
    | _, _, _, _, some w =>
      match isoYear, p.isoWeek with
      | some i, some week => found (dateOfIsoWeek? i week w)
      | _, _ => .error .notEnough
    | _, _, _, _, _ => .error .notEnough
  let agrees (part : Option Int) (v : Int) : Bool := part.all (· == v)
  let iso := d.isoWeek
  if agrees year d.year && agrees p.month d.month && agrees p.day d.day &&
      agrees p.weekday d.weekday && agrees p.dayOfYear (d.dayOfYear + 1) &&
      agrees p.weekFromSunday d.weekFromSunday && agrees p.weekFromMonday d.weekFromMonday &&
      agrees isoYear iso.1 && agrees p.isoWeek iso.2 &&
      agrees p.quarter (((d.month - 1) / 3 + 1 : Nat) : Int) then return d
  else .error .impossible

/-- The time of day that the parts determine. -/
def time (p : Parts) : Except Fault Time := do
  match p.half, p.hourOfHalf, p.minute with
  | some h, some r, some m =>
    let hour := (h * 12 + r).toNat
    let second := (p.second.getD 0).toNat
    if p.nanosecond.isSome && p.second.isNone then .error .notEnough
    let nano := (p.nanosecond.getD 0).toNat
    if second == 60 then return ⟨hour, m.toNat, 59, 1000000000 + nano⟩
    else return ⟨hour, m.toNat, second, nano⟩
  | _, _, _ => .error .notEnough

/-- The moment that the parts determine. -/
def moment (p : Parts) : Except Fault Moment :=
  match p.date, p.time with
  | .ok date, .ok time =>
    let m : Moment := ⟨date, time⟩
    match p.timestamp with
    | some t => if m.toSeconds == t then .ok m else .error .impossible
    | none => .ok m
  | date, time =>
    match p.timestamp with
    | some t =>
      match Moment.ofSeconds? t (p.nanosecond.getD 0).toNat with
      | some m => .ok m
      | none => .error .outOfRange
    | none =>
      match date, time with
      | .error e, _ => .error e
      | _, .error e => .error e
      | _, _ => .error .notEnough

end Parts

/-- Reads the items of a format in turn. -/
def readItems : List Item → Parts → List Char → Except Fault Parts
  | [], p, [] => .ok p
  | [], _, _ => .error .tooLong
  | item :: rest, p, cs =>
    match readItem item p cs with
    | .ok (p, cs) => readItems rest p cs
    | .error e => .error e

/-- Reads a moment by a format. -/
def Moment.parse (format text : String) : Except Fault Moment :=
  match readItems (items format) {} text.toList with
  | .ok p => p.moment
  | .error e => .error e

end Lookout.Calendar
