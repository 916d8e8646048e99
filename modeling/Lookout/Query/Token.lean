import Lookout.Text.Blank
/-!
The tokens of a query. Brackets hold the tokens between them, and a string holds the tokens of the
expressions interpolated into it. Comments run to the end of a line; one that ends in an odd number
of backslashes goes on to the next line.
-/
namespace Lookout.Query

/-- The kinds of brackets. -/
inductive Bracket where
  | round | square | curly
  deriving DecidableEq, Repr

mutual

/-- A token. -/
inductive Token where
  | word (name : String)
  | variable (name : String)
  | format (name : String)
  | number (text : String)
  | symbol (s : String)
  | text (pieces : List Piece)
  | group (bracket : Bracket) (inside : List Token)

/-- A piece of a string. -/
inductive Piece where
  | chars (s : String)
  | inner (tokens : List Token)

end

namespace Token

/-- The bracket that a character opens. -/
def opening? (c : Char) : Option Bracket :=
  if c == '(' then some .round
  else if c == '[' then some .square
  else if c == '\x7b' then some .curly
  else none

/-- The character that closes a bracket. -/
def closing : Bracket → Char
  | .round => ')'
  | .square => ']'
  | .curly => '\x7d'

/-- Letters that start a name. -/
def startsName (c : Char) : Bool := c.isAlpha || c == '_'

/-- Characters that continue a name. -/
def continuesName (c : Char) : Bool := c.isAlphanum || c == '_'

/-- A name at the head of a text. -/
def takeName (cs : List Char) : Option (String × List Char) :=
  match cs with
  | c :: _ =>
    if startsName c then
      some (String.ofList (cs.takeWhile continuesName), cs.dropWhile continuesName)
    else none
  | [] => none

/-- A name that may be qualified by the name of a module. -/
def takeQualified (cs : List Char) : Option (String × List Char) := do
  let (name, rest) ← takeName cs
  match rest with
  | ':' :: ':' :: more => do
    let (inner, rest) ← takeName more
    return (name ++ "::" ++ inner, rest)
  | _ => return (name, rest)

/-- Decimal digits, at least one. -/
def takeDigits (cs : List Char) : Option (List Char × List Char) :=
  let digits := cs.takeWhile Char.isDigit
  if digits.isEmpty then none else some (digits, cs.dropWhile Char.isDigit)

/-- The fraction of a numeral, when there is a point. -/
def takeFraction (cs : List Char) : Option (List Char × List Char) :=
  match cs with
  | '.' :: rest => do
    let (digits, rest) ← takeDigits rest
    return ('.' :: digits, rest)
  | _ => some ([], cs)

/-- The exponent of a numeral, when there is one. -/
def takeExponent (cs : List Char) : Option (List Char × List Char) :=
  match cs with
  | [] => some ([], [])
  | c :: rest =>
    if c == 'e' || c == 'E' then
      match rest with
      | s :: more =>
        if s == '+' || s == '-' then do
          let (digits, rest) ← takeDigits more
          return (c :: s :: digits, rest)
        else do
          let (digits, rest) ← takeDigits rest
          return (c :: digits, rest)
      | [] => none
    else some ([], cs)

/-- A numeral. A point or an exponent letter must be followed by digits. -/
def takeNumber (cs : List Char) : Option (String × List Char) := do
  let (whole, cs) ← takeDigits cs
  let (fraction, cs) ← takeFraction cs
  let (exponent, cs) ← takeExponent cs
  return (String.ofList (whole ++ fraction ++ exponent), cs)

/-- The operators, longer ones before those that they start with. -/
def operators : List String :=
  ["//=", "//", "/=", "|=", "==", "!=", "<=", ">=", "+=", "-=", "*=", "%=",
   "|", "=", "<", ">", "+", "-", "*", "/", "%"]

/-- An operator at the head of a text. -/
def takeOperator (cs : List Char) : Option (String × List Char) :=
  (operators.find? fun op => op.toList.isPrefixOf cs).map fun op => (op, cs.drop op.length)

/-- Past a comment, whose sign has been read. `odd` tells that an odd number of backslashes has
just been read. -/
def skipComment : (odd : Bool) → List Char → List Char
  | _, [] => []
  | odd, '\r' :: '\n' :: rest => if odd then skipComment false rest else rest
  | odd, '\n' :: rest => if odd then skipComment false rest else rest
  | odd, '\\' :: rest => skipComment (!odd) rest
  | _, _ :: rest => skipComment false rest

/-- Past blanks and comments. -/
def skipSpace : Nat → List Char → List Char
  | 0, cs => cs
  | fuel + 1, cs =>
    match Text.trimStart cs with
    | '#' :: rest => skipSpace fuel (skipComment false rest)
    | cs => cs

/-- The value of four hexadecimal digits. -/
def takeCode (cs : List Char) : Option (Char × List Char) :=
  match cs with
  | a :: b :: c :: d :: rest => do
    let a ← hex? a
    let b ← hex? b
    let c ← hex? c
    let d ← hex? d
    let n := ((a * 16 + b) * 16 + c) * 16 + d
    if n < 0xD800 || 0xDFFF < n then return (Char.ofNat n, rest) else none
  | _ => none
where
  /-- The value of a hexadecimal digit. -/
  hex? (c : Char) : Option Nat :=
    if '0' ≤ c ∧ c ≤ '9' then some (c.toNat - 48)
    else if 'a' ≤ c ∧ c ≤ 'f' then some (c.toNat - 87)
    else if 'A' ≤ c ∧ c ≤ 'F' then some (c.toNat - 55)
    else none

/-- The character that a letter after a backslash stands for. -/
def escape? (c : Char) : Option Char :=
  if c == '\\' || c == '/' || c == '"' then some c
  else if c == 'b' then some '\x08'
  else if c == 'f' then some '\x0c'
  else if c == 'n' then some '\n'
  else if c == 'r' then some '\r'
  else if c == 't' then some '\t'
  else none

/-- Adds the characters read so far, in reverse, to the pieces. -/
def flush (chars : List Char) (pieces : List Piece) : List Piece :=
  if chars.isEmpty then pieces else .chars (String.ofList chars.reverse) :: pieces

mutual

/-- Reads tokens up to the given closing character, or to the end of the text. -/
def scanAll : Nat → (closer : Option Char) → List Char → List Token →
    Option (List Token × List Char)
  | 0, _, _, _ => none
  | fuel + 1, closer, cs, done =>
    let cs := skipSpace fuel cs
    match cs with
    | [] => if closer.isNone then some (done.reverse, []) else none
    | c :: rest =>
      if some c == closer then some (done.reverse, rest)
      else do
        let (token, rest) ← scanOne fuel c rest
        scanAll fuel closer rest (token :: done)

/-- Reads the token that starts with `c`. -/
def scanOne : Nat → Char → List Char → Option (Token × List Char)
  | 0, _, _ => none
  | fuel + 1, c, rest =>
    if startsName c then do
      let (name, rest) ← takeQualified (c :: rest)
      return (.word name, rest)
    else if c.isDigit then do
      let (numeral, rest) ← takeNumber (c :: rest)
      return (.number numeral, rest)
    else if c == '$' then do
      let (name, rest) ← takeQualified rest
      return (.variable name, rest)
    else if c == '@' then do
      let (name, rest) ← takeName rest
      return (.format name, rest)
    else if c == '"' then do
      let (pieces, rest) ← scanText fuel rest [] []
      return (.text pieces, rest)
    else if c == '.' then
      match rest with
      | d :: more =>
        if d == '.' then some (.symbol "..", more)
        else match takeName rest with
          | some (name, rest) => some (.symbol ("." ++ name), rest)
          | none => some (.symbol ".", rest)
      | [] => some (.symbol ".", [])
    else if c == ':' || c == ';' || c == ',' || c == '?' then some (.symbol c.toString, rest)
    else match opening? c with
      | some bracket => do
        let (inside, rest) ← scanAll fuel (some (closing bracket)) rest []
        return (.group bracket inside, rest)
      | none => do
        let (op, rest) ← takeOperator (c :: rest)
        return (.symbol op, rest)

/-- Reads a string after its opening quote. -/
def scanText : Nat → List Char → List Char → List Piece → Option (List Piece × List Char)
  | 0, _, _, _ => none
  | fuel + 1, cs, chars, pieces =>
    match cs with
    | [] => none
    | '"' :: rest => some ((flush chars pieces).reverse, rest)
    | '\\' :: 'u' :: rest => do
      let (c, rest) ← takeCode rest
      scanText fuel rest (c :: chars) pieces
    | '\\' :: '(' :: rest => do
      let (inside, rest) ← scanAll fuel (some ')') rest []
      scanText fuel rest [] (.inner inside :: flush chars pieces)
    | '\\' :: c :: rest => do
      let c ← escape? c
      scanText fuel rest (c :: chars) pieces
    | '\\' :: [] => none
    | c :: rest => scanText fuel rest (c :: chars) pieces

end

/-- The tokens of a query; `none` when some part of it is no token. -/
def scan? (source : String) : Option (List Token) :=
  let cs := source.toList
  (scanAll (2 * cs.length + 2) none cs []).map (·.1)

end Token

end Lookout.Query
