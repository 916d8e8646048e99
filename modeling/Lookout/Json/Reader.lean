import Lookout.Json.Value
import Lookout.Text.Utf8
/-!
Reading JSON text, with the place of the first fault. Lines count from one; a column is the number
of octets read on the line. Nesting is limited to 127 levels.
-/
namespace Lookout.Json

open Lookout.Text (Symbol)

/-- What is wrong with a text that is no JSON. -/
inductive Fault where
  | endInList | endInObject | endInString | endInValue
  | expectedColon | expectedListEnd | expectedObjectEnd | expectedIdent | expectedValue
  | invalidEscape | invalidNumber | numberOutOfRange | invalidCodePoint | controlCharacter
  | keyMustBeString | loneSurrogate | trailingComma | trailingCharacters | endOfHexEscape
  | tooDeep
  deriving DecidableEq, Repr

/-- The wording of a fault. -/
def Fault.message : Fault → String
  | endInList => "EOF while parsing a list"
  | endInObject => "EOF while parsing an object"
  | endInString => "EOF while parsing a string"
  | endInValue => "EOF while parsing a value"
  | expectedColon => "expected \x60:\x60"
  | expectedListEnd => "expected \x60,\x60 or \x60]\x60"
  | expectedObjectEnd => "expected \x60,\x60 or \x60\x7d\x60"
  | expectedIdent => "expected ident"
  | expectedValue => "expected value"
  | invalidEscape => "invalid escape"
  | invalidNumber => "invalid number"
  | numberOutOfRange => "number out of range"
  | invalidCodePoint => "invalid unicode code point"
  | controlCharacter =>
    "control character (\\u0000-\\u001F) found while parsing a string"
  | keyMustBeString => "key must be a string"
  | loneSurrogate => "lone leading surrogate in hex escape"
  | trailingComma => "trailing comma"
  | trailingCharacters => "trailing characters"
  | endOfHexEscape => "unexpected end of hex escape"
  | tooDeep => "recursion limit exceeded"

/-- A fault and where reading stopped. -/
structure ReadError where
  fault : Fault
  line : Nat
  column : Nat
  deriving DecidableEq, Repr

/-- The wording of an error, with its place. -/
def ReadError.message (e : ReadError) : String :=
  e.fault.message ++ " at line " ++ toString e.line ++ " column " ++ toString e.column

/-- The text still to be read and the place reached. -/
structure Cursor where
  rest : List Symbol
  line : Nat
  column : Nat

namespace Cursor

/-- The place before a whole text. -/
def start (symbols : List Symbol) : Cursor := ⟨symbols, 1, 0⟩

/-- The next character. -/
def peek? (c : Cursor) : Option Char :=
  match c.rest with
  | .char x :: _ => some x
  | _ => none

/-- Nothing is left. -/
def atEnd (c : Cursor) : Bool := c.rest.isEmpty

/-- Past the next symbol. -/
def advance (c : Cursor) : Cursor :=
  match c.rest with
  | [] => c
  | .char '\n' :: rest => ⟨rest, c.line + 1, 0⟩
  | s :: rest => ⟨rest, c.line, c.column + s.size⟩

/-- A fault at what has been read. -/
def fail {α : Type} (c : Cursor) (fault : Fault) : Except ReadError α :=
  .error ⟨fault, c.line, c.column⟩

/-- A fault at the next octet, which counts as read. -/
def failNext {α : Type} (c : Cursor) (fault : Fault) : Except ReadError α :=
  match c.rest with
  | [] => c.fail fault
  | .char '\n' :: _ => .error ⟨fault, c.line + 1, 0⟩
  | _ :: _ => .error ⟨fault, c.line, c.column + 1⟩

end Cursor

/-- The blanks between tokens. -/
def isBlank (c : Char) : Bool := c == ' ' || c == '\n' || c == '\t' || c == '\r'

/-- Past blanks. -/
def skipBlanksFrom : List Symbol → (line column : Nat) → Cursor
  | .char c :: rest, line, column =>
    if c == '\n' then skipBlanksFrom rest (line + 1) 0
    else if isBlank c then skipBlanksFrom rest line (column + 1)
    else ⟨.char c :: rest, line, column⟩
  | symbols, line, column => ⟨symbols, line, column⟩

/-- Past blanks. -/
def Cursor.skipBlanks (c : Cursor) : Cursor := skipBlanksFrom c.rest c.line c.column

/-- Reads the rest of a word whose first letter has been read. -/
def readWord (word : List Char) (value : Value) (c : Cursor) : Except ReadError (Value × Cursor) :=
  match word with
  | [] => .ok (value, c)
  | x :: more =>
    if c.atEnd then c.fail .endInValue
    else if c.peek? == some x then readWord more value c.advance
    else c.advance.fail .expectedIdent

/-! ### Numbers -/

/-- Powers of ten as binary64 numbers, up to `1e308`. -/
def powerOfTen (n : Nat) : Float := Float.ofScientific 1 false n

/-- The number `significand · 10 ^ exponent`, by one multiplication or by divisions. -/
def floatOfParts (c : Cursor) (positive : Bool) (exponent : Int) :
    Nat → Float → Except ReadError (Number × Cursor)
  | 0, f => .ok (.float (if positive then f else -f), c)
  | fuel + 1, f =>
    if exponent.natAbs ≤ 308 then
      if exponent ≥ 0 then
        let g := f * powerOfTen exponent.natAbs
        if g.isInf then c.fail .numberOutOfRange else .ok (.float (if positive then g else -g), c)
      else
        let g := f / powerOfTen exponent.natAbs
        .ok (.float (if positive then g else -g), c)
    else if f == 0.0 then .ok (.float (if positive then f else -f), c)
    else if exponent ≥ 0 then c.fail .numberOutOfRange
    else floatOfParts c positive (exponent + 308) fuel (f / powerOfTen 308)

/-- Reads decimal digits into `significand` while it fits 64 bits; gives the rest of the symbols
from the first digit that does not fit or from what is no digit, and the number of digits read. -/
def takeDigits (significand count : Nat) (c : Cursor) : List Symbol → Nat × Nat × Cursor
  | .char x :: rest =>
    if x.isDigit then
      let next := significand * 10 + (x.toNat - 48)
      if next < 18446744073709551616 then
        takeDigits next (count + 1) ⟨rest, c.line, c.column + 1⟩ rest
      else (significand, count, c)
    else (significand, count, c)
  | _ => (significand, count, c)

/-- Past decimal digits, with their number. -/
def skipDigits (count : Nat) (c : Cursor) : List Symbol → Nat × Cursor
  | .char x :: rest =>
    if x.isDigit then skipDigits (count + 1) ⟨rest, c.line, c.column + 1⟩ rest else (count, c)
  | _ => (count, c)

/-- The next character is a decimal digit. -/
def Cursor.atDigit (c : Cursor) : Bool :=
  match c.peek? with
  | some x => x.isDigit
  | none => false

/-- The next character starts an exponent. -/
def Cursor.atExponent (c : Cursor) : Bool := c.peek? == some 'e' || c.peek? == some 'E'

/-- How many divisions by `1e308` are tried before the quotient is zero. -/
def divisionLimit : Nat := 8

/-- The digits of an exponent as far as they fit 32 bits; `none` when they do not. -/
def exponentDigits (value : Nat) (c : Cursor) : List Symbol → Option Nat × Cursor
  | .char x :: rest =>
    if x.isDigit then
      let next := value * 10 + (x.toNat - 48)
      let past : Cursor := ⟨rest, c.line, c.column + 1⟩
      if next < 2147483648 then exponentDigits next past rest else (none, past)
    else (some value, c)
  | _ => (some value, c)

/-- Keeps an exponent within 32 bits. -/
def clampExponent (e : Int) : Int :=
  if e > 2147483647 then 2147483647 else if e < -2147483648 then -2147483648 else e

/-- Reads an exponent, at its letter. -/
def readExponent (positive : Bool) (significand : Nat) (start : Int) (c : Cursor) :
    Except ReadError (Number × Cursor) :=
  let c := c.advance
  let (up, c) :=
    if c.peek? == some '+' then (true, c.advance)
    else if c.peek? == some '-' then (false, c.advance)
    else (true, c)
  if c.atEnd then c.fail .endInValue
  else if !c.atDigit then c.advance.fail .invalidNumber
  else
    match exponentDigits 0 c c.rest with
    | (some e, c) =>
      let exponent := clampExponent (if up then start + e else start - e)
      floatOfParts c positive exponent divisionLimit (Float.ofNat significand)
    | (none, c) =>
      if significand != 0 && up then c.fail .numberOutOfRange
      else
        let (_, c) := skipDigits 0 c c.rest
        .ok (.float (if positive then 0.0 else -0.0), c)

/-- Reads a fraction, at its point, and an exponent after it. -/
def readFraction (positive : Bool) (significand : Nat) (start : Int) (c : Cursor) :
    Except ReadError (Number × Cursor) :=
  let c := c.advance
  let (digits, count, c) := takeDigits significand 0 c c.rest
  let exponent := start - count
  if c.atDigit then
    let (_, c) := skipDigits 0 c c.rest
    if c.atExponent then readExponent positive digits exponent c
    else floatOfParts c positive exponent divisionLimit (Float.ofNat digits)
  else if count == 0 then
    if c.atEnd then c.failNext .endInValue else c.failNext .invalidNumber
  else if c.atExponent then readExponent positive digits exponent c
  else floatOfParts c positive exponent divisionLimit (Float.ofNat digits)

/-- Reads a number whose sign has been read. -/
def readNumber (positive : Bool) (c : Cursor) : Except ReadError (Number × Cursor) :=
  if c.atEnd then c.fail .endInValue
  else if !c.atDigit then c.advance.fail .invalidNumber
  else
    let zero := c.peek? == some '0'
    let (digits, _, c) :=
      if zero then (0, 1, c.advance) else takeDigits 0 0 c c.rest
    if zero && c.atDigit then c.failNext .invalidNumber
    else if c.atDigit then
      -- more digits than 64 bits hold
      let (count, c) := skipDigits 0 c c.rest
      if c.peek? == some '.' then readFraction positive digits count c
      else if c.atExponent then readExponent positive digits count c
      else floatOfParts c positive count divisionLimit (Float.ofNat digits)
    else if c.peek? == some '.' then readFraction positive digits 0 c
    else if c.atExponent then readExponent positive digits 0 c
    else if positive then .ok (.int digits, c)
    else if digits == 0 || digits > 9223372036854775808 then .ok (.float (-(Float.ofNat digits)), c)
    else .ok (.int (-(digits : Int)), c)

/-! ### Strings -/

/-- The value of a hexadecimal digit. -/
def hexValue? (c : Char) : Option Nat :=
  if '0' ≤ c ∧ c ≤ '9' then some (c.toNat - 48)
  else if 'a' ≤ c ∧ c ≤ 'f' then some (c.toNat - 87)
  else if 'A' ≤ c ∧ c ≤ 'F' then some (c.toNat - 55)
  else none

/-- The number that four hexadecimal digits stand for. -/
def fourDigits : List Symbol → Option Nat
  | .char a :: .char b :: .char c :: .char d :: _ => do
    let a ← hexValue? a
    let b ← hexValue? b
    let c ← hexValue? c
    let d ← hexValue? d
    return ((a * 16 + b) * 16 + c) * 16 + d
  | _ => none

/-- Past four symbols of one line. -/
def Cursor.skipFour (c : Cursor) : Cursor := ⟨c.rest.drop 4, c.line, c.column + 4⟩

/-- Where an error stands after four octets, when they hold line ends. -/
def fourOctetsOn (line column : Nat) : Nat → List Symbol → Nat × Nat
  | 0, _ => (line, column)
  | n, .char '\n' :: rest => fourOctetsOn (line + 1) 0 (n - 1) rest
  | n, s :: rest =>
    if s.size ≥ n then (line, column + n) else fourOctetsOn line (column + s.size) (n - s.size) rest
  | n, [] => (line, column + n)

/-- How many octets are left. -/
def octetCount : List Symbol → Nat
  | [] => 0
  | s :: rest => s.size + octetCount rest

/-- Past everything. -/
def Cursor.toEnd (c : Cursor) : Cursor :=
  let at_ := fourOctetsOn c.line c.column (octetCount c.rest) c.rest
  ⟨[], at_.1, at_.2⟩

/-- Reads four hexadecimal digits. -/
def readHex (c : Cursor) : Except ReadError (Nat × Cursor) :=
  match fourDigits c.rest with
  | some n => .ok (n, c.skipFour)
  | none =>
    if octetCount (c.rest.take 4) < 4 then c.toEnd.fail .endInString
    else
      let at_ := fourOctetsOn c.line c.column 4 c.rest
      .error ⟨.invalidEscape, at_.1, at_.2⟩

/-- Reads a character given by its code, after the letter. A code above the first plane is a pair of
surrogates. -/
def readCode (c : Cursor) : Except ReadError (Char × Cursor) := do
  let (n, c) ← readHex c
  if 0xDC00 ≤ n && n ≤ 0xDFFF then c.fail .loneSurrogate
  else if n < 0xD800 || n > 0xDBFF then return (Char.ofNat n, c)
  else if c.atEnd then c.fail .endInString
  else if c.peek? != some '\\' then c.failNext .endOfHexEscape
  else
    let c := c.advance
    if c.atEnd then c.fail .endInString
    else if c.peek? != some 'u' then c.failNext .endOfHexEscape
    else
      let (m, c) ← readHex c.advance
      if m < 0xDC00 || m > 0xDFFF then c.fail .loneSurrogate
      else return (Char.ofNat ((n - 0xD800) * 1024 + (m - 0xDC00) + 0x10000), c)

/-- The character that a letter after a backslash stands for. -/
def escape? (c : Char) : Option Char :=
  if c == '"' then some '"'
  else if c == '\\' then some '\\'
  else if c == '/' then some '/'
  else if c == 'b' then some '\x08'
  else if c == 'f' then some '\x0c'
  else if c == 'n' then some '\n'
  else if c == 'r' then some '\r'
  else if c == 't' then some '\t'
  else none

/-- Reads a string after its opening quote. `valid` tells that no stray octet was met: they are
reported at the closing quote. -/
def readString : Nat → Cursor → (valid : Bool) → List Char →
    Except ReadError (String × Cursor)
  | 0, c, _, _ => c.fail .endInString
  | fuel + 1, c, valid, done =>
    match c.rest with
    | [] => c.fail .endInString
    | .stray :: _ => readString fuel c.advance false done
    | .char x :: rest =>
      if x == '"' then
        if valid then .ok (String.ofList done.reverse, c.advance)
        else c.advance.fail .invalidCodePoint
      else if x == '\\' then
        let c := c.advance
        match rest with
        | [] => c.fail .endInString
        | .char 'u' :: _ => do
          let (y, c) ← readCode c.advance
          readString fuel c valid (y :: done)
        | .char y :: _ =>
          match escape? y with
          | some z => readString fuel c.advance valid (z :: done)
          | none => c.failNext .invalidEscape
        | .stray :: _ => c.failNext .invalidEscape
      else if x.toNat < 32 then c.advance.fail .controlCharacter
      else readString fuel c.advance valid (x :: done)

/-! ### Values -/

/-- How deep arrays and objects may nest. -/
def depthLimit : Nat := 127

mutual

/-- Reads a value. `depth` is how many more levels of nesting are allowed. -/
def readValue : Nat → (depth : Nat) → Cursor → Except ReadError (Value × Cursor)
  | 0, _, c => c.fail .endInValue
  | fuel + 1, depth, c =>
    let c := c.skipBlanks
    if c.atEnd then c.failNext .endInValue
    else
      match c.peek? with
      | some 'n' => readWord ['u', 'l', 'l'] .null c.advance
      | some 't' => readWord ['r', 'u', 'e'] (.bool true) c.advance
      | some 'f' => readWord ['a', 'l', 's', 'e'] (.bool false) c.advance
      | some '"' => do
        let (s, c) ← readString fuel c.advance true []
        return (.string s, c)
      | some '[' =>
        if depth == 0 then c.failNext .tooDeep
        else do
          let (items, c) ← readItems fuel (depth - 1) c.advance true []
          return (.array items, c)
      | some '\x7b' =>
        if depth == 0 then c.failNext .tooDeep
        else do
          let (fields, c) ← readFields fuel (depth - 1) c.advance true []
          return (.object fields, c)
      | some x =>
        if x == '-' then do
          let (n, c) ← readNumber false c.advance
          return (.number n, c)
        else if x.isDigit then do
          let (n, c) ← readNumber true c
          return (.number n, c)
        else c.failNext .expectedValue
      | none => c.failNext .expectedValue

/-- Reads the items of an array up to its closing bracket. -/
def readItems : Nat → (depth : Nat) → Cursor → (first : Bool) → List Value →
    Except ReadError (List Value × Cursor)
  | 0, _, c, _, _ => c.fail .endInList
  | fuel + 1, depth, c, first, done =>
    let c := c.skipBlanks
    if c.atEnd then c.failNext .endInList
    else if c.peek? == some ']' then .ok (done.reverse, c.advance)
    else if first then do
      let (v, c) ← readValue fuel depth c
      readItems fuel depth c false (v :: done)
    else if c.peek? == some ',' then
      let c := c.advance.skipBlanks
      if c.atEnd then c.failNext .endInValue
      else if c.peek? == some ']' then c.failNext .trailingComma
      else do
        let (v, c) ← readValue fuel depth c
        readItems fuel depth c false (v :: done)
    else c.failNext .expectedListEnd

/-- Reads the fields of an object up to its closing brace. -/
def readFields : Nat → (depth : Nat) → Cursor → (first : Bool) → List (String × Value) →
    Except ReadError (List (String × Value) × Cursor)
  | 0, _, c, _, _ => c.fail .endInObject
  | fuel + 1, depth, c, first, done =>
    let c := c.skipBlanks
    if c.atEnd then c.failNext .endInObject
    else if c.peek? == some '\x7d' then .ok (done, c.advance)
    else if first then readField fuel depth c done
    else if c.peek? == some ',' then
      let c := c.advance.skipBlanks
      if c.atEnd then c.failNext .endInValue
      else if c.peek? == some '\x7d' then c.failNext .trailingComma
      else readField fuel depth c done
    else c.failNext .expectedObjectEnd

/-- Reads one field, at its key, and those after it. -/
def readField : Nat → (depth : Nat) → Cursor → List (String × Value) →
    Except ReadError (List (String × Value) × Cursor)
  | 0, _, c, _ => c.fail .endInObject
  | fuel + 1, depth, c, done =>
    if c.peek? != some '"' then c.failNext .keyMustBeString
    else do
      let (key, c) ← readString fuel c.advance true []
      let c := c.skipBlanks
      if c.atEnd then c.failNext .endInObject
      else if c.peek? != some ':' then c.failNext .expectedColon
      else do
        let (v, c) ← readValue fuel depth c.advance
        readFields fuel depth c false (insertField key v done)

end

/-- Reads a whole document from symbols. -/
def readSymbols (depth : Nat) (symbols : List Symbol) : Except ReadError Value := do
  let (v, c) ← readValue (3 * symbols.length + 3) depth (.start symbols)
  let c := c.skipBlanks
  if c.atEnd then return v else c.failNext .trailingCharacters

/-- Reads a whole document from octets. -/
def ofOctets (bytes : ByteArray) : Except ReadError Value :=
  readSymbols depthLimit (Symbol.ofOctets bytes)

/-- Reads a whole document from a text. -/
def ofString (s : String) : Except ReadError Value :=
  readSymbols depthLimit (Symbol.ofString s)

end Lookout.Json
