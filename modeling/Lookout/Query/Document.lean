import Lookout.Query.Access
import Lookout.Text.Utf8
/-!
Values written as JSON text inside a query. Numerals keep their digits; depth has no bound.
-/
namespace Lookout.Query.Document

/-- Why a text is no JSON value. -/
inductive Fault where
  | value | valueOrEnd | commaOrEnd | string | colon | ending | digit
  | control | unclosed | escape | hexadecimal | surrogate
  deriving DecidableEq, Repr

/-- The wording of a fault. -/
def Fault.message : Fault → String
  | value => "value expected"
  | valueOrEnd => "value or end of sequence expected"
  | commaOrEnd => "comma or end of sequence expected"
  | string => "string expected"
  | colon => "colon expected"
  | ending => "end of file expected"
  | digit => "digit expected"
  | control => "invalid control character"
  | unclosed => "unclosed string"
  | escape => "unknown escape sequence type"
  | hexadecimal => "invalid hexadecimal sequence"
  | surrogate => "expected low surrogate"

/-- Past blanks. -/
def skipBlanks (cs : List Char) : List Char :=
  cs.dropWhile fun c => c == ' ' || c == '\t' || c == '\n' || c == '\r'

/-- At least one digit. -/
def takeDigits (cs : List Char) : Except Fault (List Char × List Char) :=
  match cs.takeWhile Char.isDigit with
  | [] => .error .digit
  | digits => .ok (digits, cs.dropWhile Char.isDigit)

/-- The digits of a whole number; a zero stands alone. -/
def takeWhole (cs : List Char) : Except Fault (List Char × List Char) :=
  match cs with
  | '0' :: rest => .ok (['0'], rest)
  | cs => takeDigits cs

/-- The text of a number. -/
def takeNumber (cs : List Char) : Except Fault (String × List Char) := do
  let (sign, cs) : List Char × List Char := match cs with
    | '-' :: rest => (['-'], rest)
    | cs => ([], cs)
  let (whole, cs) ← takeWhole cs
  let (fraction, cs) ← match cs with
    | '.' :: rest => do
      let (digits, rest) ← takeDigits rest
      pure ('.' :: digits, rest)
    | cs => pure ([], cs)
  let (power, cs) ← match cs with
    | c :: rest =>
      if c == 'e' || c == 'E' then do
        let (sign, rest) : List Char × List Char := match rest with
          | '-' :: rest => (['-'], rest)
          | '+' :: rest => (['+'], rest)
          | rest => ([], rest)
        let (digits, rest) ← takeDigits rest
        pure (c :: (sign ++ digits), rest)
      else pure ([], c :: rest)
    | [] => pure ([], [])
  return (String.ofList (sign ++ whole ++ fraction ++ power), cs)

/-- The value of a hexadecimal digit. -/
def hexDigit? (c : Char) : Option Nat :=
  let n := c.toNat
  if 48 ≤ n && n ≤ 57 then some (n - 48)
  else if 65 ≤ n && n ≤ 70 then some (n - 55)
  else if 97 ≤ n && n ≤ 102 then some (n - 87)
  else none

/-- Four hexadecimal digits. -/
def takeUnit : List Char → Except Fault (Nat × List Char)
  | a :: b :: c :: d :: rest =>
    match hexDigit? a, hexDigit? b, hexDigit? c, hexDigit? d with
    | some w, some x, some y, some z => .ok (((w * 16 + x) * 16 + y) * 16 + z, rest)
    | _, _, _, _ => .error .hexadecimal
  | _ => .error .hexadecimal

/-- The character of a code after its mark; two codes make one character beyond U+FFFF. -/
def takeCode (cs : List Char) : Except Fault (Char × List Char) := do
  let (high, rest) ← takeUnit cs
  if 0xD800 ≤ high && high < 0xDC00 then
    match rest with
    | '\\' :: 'u' :: rest => do
      let (low, rest) ← takeUnit rest
      if 0xDC00 ≤ low && low < 0xE000 then
        return (Char.ofNat (0x10000 + (high - 0xD800) * 1024 + (low - 0xDC00)), rest)
      else .error .surrogate
    | _ => .error .surrogate
  else if 0xDC00 ≤ high && high < 0xE000 then .error .surrogate
  else return (Char.ofNat high, rest)

/-- The character of a one-letter escape. -/
def letter? (c : Char) : Option Char :=
  match c with
  | '"' | '\\' | '/' => some c
  | 'b' => some '\x08'
  | 'f' => some '\x0c'
  | 'n' => some '\n'
  | 'r' => some '\r'
  | 't' => some '\t'
  | _ => none

/-- The characters of a string after its opening quote, onto those read before. -/
def takeString : Nat → List Char → List Char → Except Fault (String × List Char)
  | 0, _, _ => .error .unclosed
  | fuel + 1, done, cs =>
    match cs with
    | [] => .error .unclosed
    | '"' :: rest => .ok (String.ofList done.reverse, rest)
    | '\\' :: 'u' :: rest => do
      let (c, rest) ← takeCode rest
      takeString fuel (c :: done) rest
    | '\\' :: c :: rest =>
      match letter? c with
      | some c => takeString fuel (c :: done) rest
      | none => .error .escape
    | c :: rest => if c.toNat < 32 then .error .control else takeString fuel (c :: done) rest

/-- The rest after a word. -/
def afterWord (word : String) (cs : List Char) : Except Fault (List Char) :=
  if word.toList.isPrefixOf cs then .ok (cs.drop word.length) else .error .value

mutual

/-- Reads a value that starts at the first character. -/
def takeValue : Nat → List Char → Except Fault (Value × List Char)
  | 0, _ => .error .value
  | fuel + 1, cs =>
    match cs with
    | 'n' :: _ => do return (.null, ← afterWord "null" cs)
    | 't' :: _ => do return (.bool true, ← afterWord "true" cs)
    | 'f' :: _ => do return (.bool false, ← afterWord "false" cs)
    | '"' :: rest => do
      let (s, rest) ← takeString (rest.length + 1) [] rest
      return (.string s, rest)
    | '[' :: rest => do
      let (items, rest) ← takeItems fuel rest
      return (.array items, rest)
    | '\x7b' :: rest => do
      let (fields, rest) ← takeFields fuel rest
      return (.object fields, rest)
    | c :: _ =>
      if c == '-' || c.isDigit then do
        let (text, rest) ← takeNumber cs
        return (.ofNumeral text, rest)
      else .error .value
    | [] => .error .value

/-- Reads the items of an array after its bracket. -/
def takeItems : Nat → List Char → Except Fault (List Value × List Char)
  | 0, _ => .error .value
  | fuel + 1, cs =>
    match skipBlanks cs with
    | [] => .error .valueOrEnd
    | ']' :: rest => .ok ([], rest)
    | cs => moreItems fuel [] cs

/-- Reads one item and those after it. -/
def moreItems : Nat → List Value → List Char → Except Fault (List Value × List Char)
  | 0, _, _ => .error .value
  | fuel + 1, done, cs => do
    let (v, rest) ← takeValue fuel cs
    match skipBlanks rest with
    | ']' :: rest => return ((v :: done).reverse, rest)
    | ',' :: rest => moreItems fuel (v :: done) (skipBlanks rest)
    | _ => .error .commaOrEnd

/-- Reads the fields of an object after its bracket. -/
def takeFields : Nat → List Char → Except Fault (List (String × Value) × List Char)
  | 0, _ => .error .value
  | fuel + 1, cs =>
    match skipBlanks cs with
    | [] => .error .valueOrEnd
    | '\x7d' :: rest => .ok ([], rest)
    | cs => moreFields fuel [] cs

/-- Reads one field and those after it. -/
def moreFields : Nat → List (String × Value) → List Char →
    Except Fault (List (String × Value) × List Char)
  | 0, _, _ => .error .value
  | fuel + 1, done, cs =>
    match cs with
    | [] => .error .value
    | '"' :: rest => do
      let (key, rest) ← takeString (rest.length + 1) [] rest
      let rest ← match skipBlanks rest with
        | ':' :: rest => pure (skipBlanks rest)
        | _ => .error .colon
      let (v, rest) ← takeValue fuel rest
      let done := setField key v done
      match skipBlanks rest with
      | '\x7d' :: rest => return (done, rest)
      | ',' :: rest => moreFields fuel done (skipBlanks rest)
      | _ => .error .commaOrEnd
    | _ => .error .string

end

/-- Reads exactly one value. -/
def read (text : String) : Except Fault Value := do
  let (v, rest) ← takeValue (2 * text.length + 2) (skipBlanks text.toList)
  if (skipBlanks rest).isEmpty then return v else .error .ending

/-- The value of a text, with the failure that a query sees. -/
def ofText (v : Value) : Result Value := do
  let text ← v.toStr
  match read text with
  | .ok v => return v
  | .error fault =>
    Result.fail (.told ("cannot parse " ++ text ++ " as JSON: " ++ fault.message))

end Lookout.Query.Document
