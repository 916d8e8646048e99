import Lookout.Calendar.Moment
/-!
Formats of moments: texts in which a percent sign and a letter stand for a part of the moment. A
format is taken apart into items, by which a moment is written and read.
-/
namespace Lookout.Calendar

/-- What numbers are filled up with. -/
inductive Padding where
  | none | zero | space
  deriving DecidableEq, Repr

/-- Parts of a moment that are numbers. -/
inductive Field where
  | year | century | yearOfCentury | isoYear | isoYearOfCentury | quarter | month | day
  | weekFromSunday | weekFromMonday | isoWeek | weekday | weekdayFromMonday | dayOfYear
  | hour | hourOfHalf | minute | second | nanosecond | timestamp
  deriving DecidableEq, Repr

/-- Parts of a moment that are texts. -/
inductive Mark where
  | monthShort | monthLong | weekdayShort | weekdayLong | halfLower | halfUpper
  /-- A point and as many digits as the fraction needs. -/
  | fraction
  /-- A point and the given number of digits. -/
  | pointDigits (count : Nat)
  /-- The given number of digits. -/
  | digits (count : Nat)
  | zone
  | offset | offsetColon | offsetSeconds | offsetHours | offsetLoose
  | standard
  deriving DecidableEq, Repr

/-- An item of a format. -/
inductive Item where
  | literal (s : String)
  | space (s : String)
  | field (f : Field) (padding : Padding)
  | mark (m : Mark)
  /-- A percent sign that nothing known follows. -/
  | unknown
  deriving DecidableEq, Repr

/-- The items of a letter that stands for several. -/
def combined? (c : Char) : Option (List Item) :=
  let n (f : Field) : Item := .field f .zero
  let lit (s : String) : Item := .literal s
  match c with
  | 'D' => some [n .month, lit "/", n .day, lit "/", n .yearOfCentury]
  | 'x' => some [n .month, lit "/", n .day, lit "/", n .yearOfCentury]
  | 'F' => some [n .year, lit "-", n .month, lit "-", n .day]
  | 'v' => some [.field .day .space, lit "-", .mark .monthShort, lit "-", n .year]
  | 'R' => some [n .hour, lit ":", n .minute]
  | 'T' => some [n .hour, lit ":", n .minute, lit ":", n .second]
  | 'X' => some [n .hour, lit ":", n .minute, lit ":", n .second]
  | 'r' => some [n .hourOfHalf, lit ":", n .minute, lit ":", n .second, .space " ", .mark .halfUpper]
  | 'c' => some [.mark .weekdayShort, .space " ", .mark .monthShort, .space " ", .field .day .space,
      .space " ", n .hour, lit ":", n .minute, lit ":", n .second, .space " ", n .year]
  | _ => none

/-- The item of a letter. -/
def single? (c : Char) : Option Item :=
  let n (f : Field) : Option Item := some (.field f .zero)
  let t (m : Mark) : Option Item := some (.mark m)
  match c with
  | 'Y' => n .year
  | 'C' => n .century
  | 'y' => n .yearOfCentury
  | 'q' => some (.field .quarter .none)
  | 'm' => n .month
  | 'd' => n .day
  | 'e' => some (.field .day .space)
  | 'w' => some (.field .weekday .none)
  | 'u' => some (.field .weekdayFromMonday .none)
  | 'U' => n .weekFromSunday
  | 'W' => n .weekFromMonday
  | 'G' => n .isoYear
  | 'g' => n .isoYearOfCentury
  | 'V' => n .isoWeek
  | 'j' => n .dayOfYear
  | 'H' => n .hour
  | 'k' => some (.field .hour .space)
  | 'I' => n .hourOfHalf
  | 'l' => some (.field .hourOfHalf .space)
  | 'M' => n .minute
  | 'S' => n .second
  | 'f' => n .nanosecond
  | 's' => some (.field .timestamp .none)
  | 'b' => t .monthShort
  | 'h' => t .monthShort
  | 'B' => t .monthLong
  | 'a' => t .weekdayShort
  | 'A' => t .weekdayLong
  | 'P' => t .halfLower
  | 'p' => t .halfUpper
  | 'Z' => t .zone
  | 'z' => t .offset
  | '+' => t .standard
  | 't' => some (.space "\t")
  | 'n' => some (.space "\n")
  | '%' => some (.literal "%")
  | _ => none

/-- The items after a percent sign, and the rest of the format. -/
def itemsAfterPercent (cs : List Char) : List Item × List Char :=
  match cs with
  | ':' :: ':' :: ':' :: 'z' :: rest => ([.mark .offsetHours], rest)
  | ':' :: ':' :: 'z' :: rest => ([.mark .offsetSeconds], rest)
  | ':' :: 'z' :: rest => ([.mark .offsetColon], rest)
  | '#' :: 'z' :: rest => ([.mark .offsetLoose], rest)
  | '.' :: 'f' :: rest => ([.mark .fraction], rest)
  | '.' :: '3' :: 'f' :: rest => ([.mark (.pointDigits 3)], rest)
  | '.' :: '6' :: 'f' :: rest => ([.mark (.pointDigits 6)], rest)
  | '.' :: '9' :: 'f' :: rest => ([.mark (.pointDigits 9)], rest)
  | '3' :: 'f' :: rest => ([.mark (.digits 3)], rest)
  | '6' :: 'f' :: rest => ([.mark (.digits 6)], rest)
  | '9' :: 'f' :: rest => ([.mark (.digits 9)], rest)
  | c :: rest =>
    let padding : Option Padding :=
      if c == '-' then some .none else if c == '_' then some .space
      else if c == '0' then some .zero else none
    match padding with
    | some padding =>
      match rest with
      | d :: rest =>
        match single? d with
        | some (.field f _) => ([.field f padding], rest)
        | _ => ([.unknown], rest)
      | [] => ([.unknown], [])
    | none =>
      match combined? c with
      | some items => (items, rest)
      | none => ([(single? c).getD .unknown], rest)
  | [] => ([.unknown], [])

/-- Blanks of formats. -/
def isSpace (c : Char) : Bool := c == ' ' || (9 ≤ c.toNat && c.toNat ≤ 13)

/-- The items of a format. -/
def itemsFrom : Nat → List Char → List Item
  | 0, _ => []
  | fuel + 1, cs =>
    match cs with
    | [] => []
    | '%' :: rest =>
      let (items, rest) := itemsAfterPercent rest
      items ++ itemsFrom fuel rest
    | c :: rest =>
      let stretch (p : Char → Bool) : List Char × List Char :=
        (c :: rest.takeWhile p, rest.dropWhile p)
      if isSpace c then
        let (cs, rest) := stretch isSpace
        .space (String.ofList cs) :: itemsFrom fuel rest
      else
        let (cs, rest) := stretch fun c => c != '%' && !isSpace c
        .literal (String.ofList cs) :: itemsFrom fuel rest

/-- The items of a format. -/
def items (format : String) : List Item := itemsFrom (format.length + 1) format.toList

/-! ### Writing -/

/-- A number filled up on the left. -/
def pad (padding : Padding) (width : Nat) (n : Nat) : String :=
  let s := toString n
  let fill (c : Char) : String := String.ofList (List.replicate (width - s.length) c) ++ s
  match padding with
  | .none => s
  | .zero => fill '0'
  | .space => fill ' '

/-- A year; one outside of four digits has its sign. -/
def yearText (padding : Padding) (year : Int) : String :=
  if 0 ≤ year && year ≤ 9999 then pad padding 4 year.toNat
  else
    let s := toString year.natAbs
    let sign := if year < 0 then "-" else "+"
    match padding with
    | .none => sign ++ s
    | .zero => sign ++ pad .zero 4 year.natAbs
    | .space => String.ofList (List.replicate (4 - s.length) ' ') ++ sign ++ s

/-- The text of a number of the moment. -/
def fieldText (m : Moment) (f : Field) (padding : Padding) : String :=
  let d := m.date
  let t := m.time
  match f with
  | .year => yearText padding d.year
  | .century => pad padding 2 (d.year.fdiv 100).toNat
  | .yearOfCentury => pad padding 2 (d.year.fmod 100).toNat
  | .isoYear => yearText padding d.isoWeek.1
  | .isoYearOfCentury => pad padding 2 (d.isoWeek.1.fmod 100).toNat
  | .quarter => pad padding 1 ((d.month - 1) / 3 + 1)
  | .month => pad padding 2 d.month
  | .day => pad padding 2 d.day
  | .weekFromSunday => pad padding 2 d.weekFromSunday
  | .weekFromMonday => pad padding 2 d.weekFromMonday
  | .isoWeek => pad padding 2 d.isoWeek.2
  | .weekday => pad padding 1 d.weekday
  | .weekdayFromMonday => pad padding 1 (d.weekdayFromMonday + 1)
  | .dayOfYear => pad padding 3 (d.dayOfYear + 1)
  | .hour => pad padding 2 t.hour
  | .hourOfHalf => pad padding 2 (if t.hour % 12 == 0 then 12 else t.hour % 12)
  | .minute => pad padding 2 t.minute
  | .second => pad padding 2 (t.second + t.nanosecond / 1000000000)
  | .nanosecond => pad padding 9 (t.nanosecond % 1000000000)
  | .timestamp => toString m.toSeconds

/-- A point and the digits of a fraction, in groups of three; nothing for a whole second. -/
def fractionText (nanosecond : Nat) : String :=
  let n := nanosecond % 1000000000
  if n == 0 then ""
  else if n % 1000000 == 0 then "." ++ pad .zero 3 (n / 1000000)
  else if n % 1000 == 0 then "." ++ pad .zero 6 (n / 1000)
  else "." ++ pad .zero 9 n

/-- The date and time with a letter between them, without a fraction. -/
def standardText (m : Moment) : String :=
  yearText .zero m.date.year ++ "-" ++ pad .zero 2 m.date.month ++ "-" ++ pad .zero 2 m.date.day ++
  "T" ++ pad .zero 2 m.time.hour ++ ":" ++ pad .zero 2 m.time.minute ++ ":" ++
  fieldText m .second .zero

/-- The text of a part of the moment. -/
def markText (m : Moment) (mark : Mark) : String :=
  let d := m.date
  let t := m.time
  let month := monthNames.getD (d.month - 1) ""
  let weekday := weekdayNames.getD d.weekday ""
  let short (s : String) : String := String.ofList (s.toList.take 3)
  let nano := t.nanosecond % 1000000000
  match mark with
  | .monthShort => short month
  | .monthLong => month
  | .weekdayShort => short weekday
  | .weekdayLong => weekday
  | .halfLower => if t.hour < 12 then "am" else "pm"
  | .halfUpper => if t.hour < 12 then "AM" else "PM"
  | .fraction => fractionText t.nanosecond
  | .pointDigits count => "." ++ pad .zero count (nano / Nat.pow 10 (9 - count))
  | .digits count => pad .zero count (nano / Nat.pow 10 (9 - count))
  | .zone => "UTC"
  | .offset => "+0000"
  | .offsetColon => "+00:00"
  | .offsetSeconds => "+00:00:00"
  | .offsetHours => "+00"
  | .offsetLoose => "+00"
  | .standard => standardText m ++ fractionText t.nanosecond ++ "+00:00"

/-- The text of a moment, when all of the format is known. -/
def Moment.format? (m : Moment) (format : String) : Option String :=
  (items format).foldlM (fun done item =>
    match item with
    | .literal s => some (done ++ s)
    | .space s => some (done ++ s)
    | .field f padding => some (done ++ fieldText m f padding)
    | .mark k => some (done ++ markText m k)
    | .unknown => none) ""

end Lookout.Calendar
