import Lookout.Text.Blank
import Lookout.Text.Word
/-!
Patterns of texts: literals, character classes, groups, repetitions and assertions. Classes and
case folding know ASCII letters only. `Pattern.parse` reads the usual notation; look-around,
backreferences and Unicode classes are refused.
-/
namespace Lookout

/-- What holds at a position, without taking a character. -/
inductive Assertion where
  | textStart | textEnd | lineStart | lineEnd | lineStartCrlf | lineEndCrlf
  | wordBoundary | notWordBoundary | wordStart | wordEnd | wordStartHalf | wordEndHalf
  deriving DecidableEq, Repr

/-- A pattern. -/
inductive Pattern where
  | empty
  /-- One character of the given ranges. -/
  | set (ranges : List (Nat × Nat))
  | assertion (a : Assertion)
  | sequence (l r : Pattern)
  | choice (l r : Pattern)
  /-- At least `least` and at most `most` copies, as many as possible when greedy. -/
  | repeated (least : Nat) (most : Option Nat) (greedy : Bool) (p : Pattern)
  | capture (index : Nat) (p : Pattern)
  deriving Inhabited

namespace Pattern

/-- A pattern of one character. -/
def one (c : Char) : Pattern := .set [(c.toNat, c.toNat)]

/-- Options of reading and matching. -/
structure Options where
  ignoreCase : Bool := false
  multiLine : Bool := false
  dotMatchesNewline : Bool := false
  swapGreed : Bool := false
  crlf : Bool := false
  ignoreBlanks : Bool := false
  deriving DecidableEq, Repr

/-! ### Classes -/

/-- The ranges without overlap, in increasing order. -/
def mergeRanges (ranges : List (Nat × Nat)) : List (Nat × Nat) :=
  let sorted := ranges.mergeSort fun a b => a.1 < b.1 || (a.1 == b.1 && a.2 ≤ b.2)
  (sorted.foldl (fun done (a, b) =>
    match done with
    | (c, d) :: rest => if a ≤ d + 1 then (c, max b d) :: rest else (a, b) :: done
    | [] => [(a, b)]) []).reverse

/-- All characters outside the ranges. -/
def negateRanges (ranges : List (Nat × Nat)) : List (Nat × Nat) :=
  go 0 (mergeRanges ranges)
where
  /-- The gaps from a number on. -/
  go (next : Nat) : List (Nat × Nat) → List (Nat × Nat)
    | [] => if next ≤ 0x10FFFF then [(next, 0x10FFFF)] else []
    | (a, b) :: rest => if next < a then (next, a - 1) :: go (b + 1) rest else go (b + 1) rest

/-- The letters of a range in the other case. -/
def foldRange (r : Nat × Nat) : List (Nat × Nat) :=
  let upper := (max r.1 65, min r.2 90)
  let lower := (max r.1 97, min r.2 122)
  (if upper.1 ≤ upper.2 then [(upper.1 + 32, upper.2 + 32)] else []) ++
    (if lower.1 ≤ lower.2 then [(lower.1 - 32, lower.2 - 32)] else [])

/-- The ranges with both cases of every ASCII letter. -/
def foldCase (ranges : List (Nat × Nat)) : List (Nat × Nat) := ranges ++ ranges.flatMap foldRange

/-- Decimal digits. -/
def digits : List (Nat × Nat) := [(48, 57)]

/-- Blanks of ASCII. -/
def blanks : List (Nat × Nat) := [(9, 13), (32, 32)]

/-- Letters, digits and the underscore. -/
def wordChars : List (Nat × Nat) := [(48, 57), (65, 90), (95, 95), (97, 122)]

/-- The classes with names. -/
def namedClass? (name : String) : Option (List (Nat × Nat)) :=
  match name with
  | "alnum" => some [(48, 57), (65, 90), (97, 122)]
  | "alpha" => some [(65, 90), (97, 122)]
  | "ascii" => some [(0, 127)]
  | "blank" => some [(9, 9), (32, 32)]
  | "cntrl" => some [(0, 31), (127, 127)]
  | "digit" => some digits
  | "graph" => some [(33, 126)]
  | "lower" => some [(97, 122)]
  | "print" => some [(32, 126)]
  | "punct" => some [(33, 47), (58, 64), (91, 96), (123, 126)]
  | "space" => some blanks
  | "upper" => some [(65, 90)]
  | "word" => some wordChars
  | "xdigit" => some [(48, 57), (65, 70), (97, 102)]
  | _ => none

/-! ### Reading -/

/-- Why a text is no pattern. -/
inductive Fault where
  | tooMuchNesting | duplicateName | unclosedGroup | unclosedQuestion | unopenedGroup | lookAround
  | emptyOptions | missingName | invalidName | unclosedName | emptyName
  | unknownOption | repeatedNegation | duplicateOption | optionsCutShort | danglingNegation
  | noDigits | decimalTooLarge
  | braceDigit | braceCutShort | braceEmpty | braceInvalid
  | hexCutShort | hexDigit | hexInvalid | hexMissing
  | escapeCutShort | backreference | unicodeClass | unknownEscape
  | nothingToRepeat | nothingToCount | countUnclosed | countMinUnclosed | countCommaUnclosed
  | countRangeUnclosed | countInvalid | countRangeInvalid
  | classUnclosedAfterItem | classRangeItem | classItem | classUnclosedAfterDash
  | classUnclosedAfterNegation | classUnclosedAfterClosing | classRange | classUnclosed
  | classNested | classIntersection | classDifference | classSymmetricDifference
  | boundaryUnclosed | boundaryUnknown | boundaryCutShort
  deriving DecidableEq, Repr

/-- The wording of a fault. -/
def Fault.message : Fault → String
  | tooMuchNesting => "pattern has too much nesting"
  | duplicateName => "duplicate capture group name"
  | unclosedGroup => "found open group without closing ')'"
  | unclosedQuestion => "expected closing ')', but got end of pattern"
  | unopenedGroup => "found closing ')' without opening '('"
  | lookAround => "look-around is not supported"
  | emptyOptions => "empty flag directive '(?)' is not allowed"
  | missingName => "expected capture group name, but got end of pattern"
  | invalidName => "invalid group name"
  | unclosedName => "expected end of capture group name, but got end of pattern"
  | emptyName => "empty capture group names are not allowed"
  | unknownOption => "unrecognized inline flag"
  | repeatedNegation => "inline flag negation cannot be repeated"
  | duplicateOption => "duplicate inline flag is not allowed"
  | optionsCutShort => "expected ':' or ')' to end inline flags, but got end of pattern"
  | danglingNegation => "inline flags cannot end with negation directive"
  | noDigits => "expected decimal number, but found no digits"
  | decimalTooLarge => "got invalid decimal number"
  | braceDigit => "expected hexadecimal number in braces, but got non-hex digit"
  | braceCutShort => "expected hexadecimal number, but saw end of pattern before closing brace"
  | braceEmpty => "expected hexadecimal number in braces, but got no digits"
  | braceInvalid => "got invalid hexadecimal number in braces"
  | hexCutShort => "expected fixed length hexadecimal number, but saw end of pattern first"
  | hexDigit => "expected fixed length hexadecimal number, but got non-hex digit"
  | hexInvalid => "got invalid fixed length hexadecimal number"
  | hexMissing => "expected hexadecimal number, but saw end of pattern first"
  | escapeCutShort =>
    "saw start of escape sequence, but saw end of pattern before it finished"
  | backreference => "backreferences are not supported"
  | unicodeClass => "Unicode character classes are not supported"
  | unknownEscape => "unrecognized escape sequence"
  | nothingToRepeat => "uncounted repetition operator must be applied to a sub-expression"
  | nothingToCount => "counted repetition operator must be applied to a sub-expression"
  | countUnclosed => "found unclosed counted repetition operator"
  | countMinUnclosed => "found incomplete and unclosed counted repetition operator"
  | countCommaUnclosed => "found counted repetition operator with a comma that is unclosed"
  | countRangeUnclosed => "found counted repetition with min and max that is unclosed"
  | countInvalid => "expected closing brace for counted repetition, but got something else"
  | countRangeInvalid => "found counted repetition with a min bigger than its max"
  | classUnclosedAfterItem => "non-empty character class has no closing bracket"
  | classRangeItem => "character class ranges must start and end with a single character"
  | classItem => "invalid escape sequence in character class"
  | classUnclosedAfterDash => "non-empty character class has no closing bracket after dash"
  | classUnclosedAfterNegation => "negated character class has no closing bracket"
  | classUnclosedAfterClosing =>
    "character class begins with literal ']' but has no closing bracket"
  | classRange => "invalid range in character class"
  | classUnclosed => "found unclosed character class"
  | classNested => "nested character classes are not supported"
  | classIntersection => "character class intersection is not supported"
  | classDifference => "character class difference is not supported"
  | classSymmetricDifference => "character class symmetric difference is not supported"
  | boundaryUnclosed =>
    "special word boundary assertion is unclosed or has an invalid character"
  | boundaryUnknown => "special word boundary assertion is unrecognized"
  | boundaryCutShort => "found start of special word boundary or repetition without an end"

/-- What has been read so far: the rest of the text, the options in force and the names of the
groups, the latest first. -/
structure Reading where
  rest : List Char
  options : Options
  names : List (Option String)

namespace Reading

/-- Past blanks and comments, when they are ignored. -/
def skipSpaceFrom : Nat → List Char → List Char
  | 0, cs => cs
  | fuel + 1, cs =>
    match cs with
    | '#' :: rest => skipSpaceFrom fuel ((rest.dropWhile (· != '\n')).drop 1)
    | c :: rest => if Text.isBlank c then skipSpaceFrom fuel rest else c :: rest
    | [] => []

/-- Past blanks and comments, when they are ignored. -/
def skipSpace (r : Reading) : Reading :=
  if r.options.ignoreBlanks then { r with rest := skipSpaceFrom (r.rest.length + 1) r.rest } else r

/-- Past one character. -/
def bump (r : Reading) : Reading := { r with rest := r.rest.drop 1 }

/-- Past one character and the blanks after it. -/
def bumpSpace (r : Reading) : Reading := r.bump.skipSpace

/-- The next character. -/
def char? (r : Reading) : Option Char := r.rest.head?

/-- The character after the next one and the blanks between them. -/
def peekSpace? (r : Reading) : Option Char := r.bumpSpace.char?

end Reading

/-- The pattern of a character under the options in force. -/
def literal (options : Options) (c : Char) : Pattern :=
  let range := (c.toNat, c.toNat)
  if options.ignoreCase then .set (foldCase [range]) else .set [range]

/-- The pattern of any character. -/
def anyChar (options : Options) : Pattern :=
  if options.dotMatchesNewline then .set [(0, 0x10FFFF)]
  else if options.crlf then .set (negateRanges [(10, 10), (13, 13)])
  else .set (negateRanges [(10, 10)])

/-- The start of the text, or of a line. -/
def startAssertion (options : Options) : Assertion :=
  if options.multiLine then (if options.crlf then .lineStartCrlf else .lineStart) else .textStart

/-- The end of the text, or of a line. -/
def endAssertion (options : Options) : Assertion :=
  if options.multiLine then (if options.crlf then .lineEndCrlf else .lineEnd) else .textEnd

/-- A hexadecimal digit. -/
def hexValue? (c : Char) : Option Nat :=
  let n := c.toNat
  if 48 ≤ n && n ≤ 57 then some (n - 48)
  else if 65 ≤ n && n ≤ 70 then some (n - 55)
  else if 97 ≤ n && n ≤ 102 then some (n - 87)
  else none

/-- The character of a number. -/
def charOf? (n : Nat) : Option Char := if n.isValidChar then some (Char.ofNat n) else none

/-- Reads as many hexadecimal digits as given. -/
def readHexDigits : Nat → (value : Nat) → Reading → Except Fault (Nat × Reading)
  | 0, value, r => .ok (value, r)
  | count + 1, value, r =>
    match r.char? with
    | none => .error .hexCutShort
    | some c =>
      match hexValue? c with
      | none => .error .hexDigit
      | some d => readHexDigits count (value * 16 + d) r.bumpSpace

/-- Reads hexadecimal digits up to a closing brace. -/
def readHexBrace : Nat → (value count : Nat) → Reading → Except Fault (Char × Reading)
  | 0, _, _, _ => .error .braceCutShort
  | fuel + 1, value, count, r =>
    match r.char? with
    | none => .error .braceCutShort
    | some c =>
      if c == '\x7d' then
        if count == 0 then .error .braceEmpty
        else match charOf? value with
          | some c => .ok (c, r.bumpSpace)
          | none => .error .braceInvalid
      else match hexValue? c with
        | none => .error .braceDigit
        | some d => readHexBrace fuel (value * 16 + d) (count + 1) r.bumpSpace

/-- Reads a character by its number, after the letter that begins it. -/
def readHex (count : Nat) (r : Reading) : Except Fault (Char × Reading) :=
  let r := r.bumpSpace
  match r.char? with
  | none => .error .hexMissing
  | some '\x7b' => readHexBrace (r.rest.length + 1) 0 0 r.bumpSpace
  | some _ => do
    let (n, r) ← readHexDigits count 0 r
    match charOf? n with
    | some c => return (c, r)
    | none => .error .hexInvalid

/-- Characters of word boundaries with names. -/
def isBoundaryChar (c : Char) : Bool := c.isAlpha || c == '-'

/-- Reads the name of a word boundary up to its brace. -/
def readBoundaryName : Nat → List Char → Reading → Except Fault (String × Reading)
  | 0, _, _ => .error .boundaryUnclosed
  | fuel + 1, done, r =>
    match r.char? with
    | some c =>
      if isBoundaryChar c then readBoundaryName fuel (c :: done) r.bumpSpace
      else if c == '\x7d' then .ok (String.ofList done.reverse, r.bump)
      else .error .boundaryUnclosed
    | none => .error .boundaryUnclosed

/-- Reads a word boundary with a name, when there is one after the letter. -/
def readBoundary (r : Reading) : Except Fault (Assertion × Reading) :=
  match r.char? with
  | some '\x7b' =>
    let inner := r.bumpSpace
    match inner.char? with
    | none => .error .boundaryCutShort
    | some c =>
      if isBoundaryChar c then do
        let (name, r) ← readBoundaryName (inner.rest.length + 1) [] inner
        match name with
        | "start" => return (.wordStart, r)
        | "end" => return (.wordEnd, r)
        | "start-half" => return (.wordStartHalf, r)
        | "end-half" => return (.wordEndHalf, r)
        | _ => .error .boundaryUnknown
      else .ok (.wordBoundary, r)
  | _ => .ok (.wordBoundary, r)

/-- Characters with a meaning of their own. -/
def isMeta (c : Char) : Bool := "\\.+*?()|[]\x7b\x7d^$#&-~".toList.contains c

/-- Reads what follows a backslash. -/
def readEscape (r : Reading) : Except Fault (Pattern × Reading) :=
  match r.char? with
  | none => .error .escapeCutShort
  | some c =>
    let options := r.options
    let set (ranges : List (Nat × Nat)) : Except Fault (Pattern × Reading) := .ok (.set ranges, r.bump)
    let look (a : Assertion) : Except Fault (Pattern × Reading) := .ok (.assertion a, r.bump)
    let char (c : Char) : Except Fault (Pattern × Reading) := .ok (literal options c, r.bump)
    if c.isDigit then .error .backreference
    else match c with
      | 'p' => .error .unicodeClass
      | 'P' => .error .unicodeClass
      | 'x' => do let (c, r) ← readHex 2 r; return (literal options c, r)
      | 'u' => do let (c, r) ← readHex 4 r; return (literal options c, r)
      | 'U' => do let (c, r) ← readHex 8 r; return (literal options c, r)
      | 'd' => set digits
      | 'D' => set (negateRanges digits)
      | 's' => set blanks
      | 'S' => set (negateRanges blanks)
      | 'w' => set wordChars
      | 'W' => set (negateRanges wordChars)
      | 'a' => char '\x07'
      | 'f' => char '\x0c'
      | 't' => char '\t'
      | 'n' => char '\n'
      | 'r' => char '\r'
      | 'v' => char '\x0b'
      | 'A' => look .textStart
      | 'z' => look .textEnd
      | 'b' => do let (a, r) ← readBoundary r.bump; return (.assertion a, r)
      | 'B' => look .notWordBoundary
      | '<' => look .wordStart
      | '>' => look .wordEnd
      | c => if isMeta c || (c.toNat < 128 && !c.isAlpha) then char c else .error .unknownEscape

/-- Reads a decimal number with blanks around it. -/
def readDecimal (r : Reading) : Except Fault (Nat × Reading) :=
  let r := { r with rest := r.rest.dropWhile Text.isBlank }
  go (r.rest.length + 1) 0 0 r
where
  /-- Reads the digits. -/
  go : Nat → (value count : Nat) → Reading → Except Fault (Nat × Reading)
    | 0, _, _, _ => .error .noDigits
    | fuel + 1, value, count, r =>
      match r.char? with
      | some c =>
        if c.isDigit then go fuel (value * 10 + (c.toNat - 48)) (count + 1) r.bumpSpace
        else finish value count { r with rest := r.rest.dropWhile Text.isBlank }
      | none => finish value count r
  /-- Checks the number read. -/
  finish (value count : Nat) (r : Reading) : Except Fault (Nat × Reading) :=
    if count == 0 then .error .noDigits
    else if value ≥ 4294967296 then .error .decimalTooLarge
    else .ok (value, r.skipSpace)

/-- Whether a repetition is greedy, by the mark after it. -/
def readGreed (r : Reading) : Bool × Reading :=
  let (lazyMark, r) := match r.char? with
    | some '?' => (true, r.bump)
    | _ => (false, r)
  (lazyMark == r.options.swapGreed, r)

/-- Reads a count between braces, and whether it is greedy. -/
def readCount (r : Reading) : Except Fault ((Nat × Option Nat × Bool) × Reading) := do
  let r := r.bumpSpace
  if r.rest.isEmpty then .error .countUnclosed
  let (least, r) ← readDecimal r
  let (most, r) ← match r.char? with
    | none => .error .countMinUnclosed
    | some ',' => do
      let r := r.bumpSpace
      match r.char? with
      | none => .error .countCommaUnclosed
      | some '\x7d' => pure (none, r)
      | some _ => do
        let (most, r) ← readDecimal r
        if r.rest.isEmpty then .error .countRangeUnclosed
        pure (some most, r)
    | some _ => pure (some least, r)
  if r.char? != some '\x7d' then .error .countInvalid
  let (greedy, r) := readGreed r.bumpSpace
  match most with
  | some m => if least > m then .error .countRangeInvalid else return ((least, most, greedy), r)
  | none => return ((least, most, greedy), r)

/-- Reads an item of a class: a character, or the ranges of an escape. -/
def readClassItem (r : Reading) : Except Fault ((Option Char × List (Nat × Nat)) × Reading) :=
  match r.char? with
  | none => .error .classUnclosed
  | some '\\' => do
    let (p, r) ← readEscape r.bump
    match p with
    | .set [(a, b)] =>
      return ((if a == b then some (Char.ofNat a) else none, [(a, b)]), r)
    | .set ranges => return ((none, ranges), r)
    | _ => .error .classItem
  | some c => .ok ((some c, [(c.toNat, c.toNat)]), r.bump)

/-- Reads a class with a name, such as `[:alpha:]`, when there is one. -/
def readNamedClass? (r : Reading) : Option (List (Nat × Nat) × Reading) :=
  match r.rest with
  | '[' :: ':' :: rest =>
    let (negated, rest) : Bool × List Char := match rest with
      | '^' :: rest => (true, rest)
      | rest => (false, rest)
    let name := rest.takeWhile (· != ':')
    match rest.dropWhile (· != ':') with
    | ':' :: ']' :: rest =>
      (namedClass? (String.ofList name)).map fun ranges =>
        (if negated then negateRanges ranges else ranges, { r with rest })
    | _ => none
  | _ => none

/-- Reads the items of a class up to its bracket. -/
def readClassItems : Nat → List (Nat × Nat) → Reading → Except Fault (List (Nat × Nat) × Reading)
  | 0, _, _ => .error .classUnclosed
  | fuel + 1, done, r =>
    let r := r.skipSpace
    match r.rest with
    | [] => .error .classUnclosed
    | ']' :: _ => .ok (done, r.bump)
    | '[' :: _ =>
      match readNamedClass? r with
      | some (ranges, r) => readClassItems fuel (done ++ ranges) r
      | none => .error .classNested
    | '&' :: '&' :: _ => .error .classIntersection
    | '-' :: '-' :: _ => .error .classDifference
    | '~' :: '~' :: _ => .error .classSymmetricDifference
    | _ => do
      let ((first, ranges), r) ← readClassItem r
      let r := r.skipSpace
      match r.char? with
      | none => .error .classUnclosedAfterItem
      | some '-' =>
        if r.peekSpace? == some ']' || r.peekSpace? == some '-' then
          readClassItems fuel (done ++ ranges) r
        else do
          let r := r.bumpSpace
          if r.rest.isEmpty then .error .classUnclosedAfterDash
          let ((last, _), r) ← readClassItem r
          match first, last with
          | some a, some b =>
            if a.toNat ≤ b.toNat then readClassItems fuel (done ++ [(a.toNat, b.toNat)]) r
            else .error .classRange
          | _, _ => .error .classRangeItem
      | some _ => readClassItems fuel (done ++ ranges) r

/-- Reads hyphens at the start of a class. -/
def readClassHyphens : Nat → (count : Nat) → Reading → Except Fault (Nat × Reading)
  | 0, count, r => .ok (count, r)
  | fuel + 1, count, r =>
    match r.char? with
    | some '-' =>
      let r := r.bumpSpace
      if r.rest.isEmpty then .error .classUnclosedAfterDash
      else readClassHyphens fuel (count + 1) r
    | _ => .ok (count, r)

/-- Reads a class from its opening bracket on. -/
def readClass (r : Reading) : Except Fault (Pattern × Reading) := do
  let r := r.bumpSpace
  if r.rest.isEmpty then .error .classUnclosed
  let negated := r.char? == some '^'
  let r := if negated then r.bumpSpace else r
  if r.rest.isEmpty then .error .classUnclosedAfterNegation
  let (count, r) ← readClassHyphens r.rest.length 0 r
  let hyphens := if count > 0 then [('-'.toNat, '-'.toNat)] else []
  let (start, r) ←
    if count == 0 && r.char? == some ']' then do
      let r := r.bumpSpace
      if r.rest.isEmpty then .error .classUnclosedAfterClosing
      pure ([(']'.toNat, ']'.toNat)], r)
    else pure (hyphens, r)
  let (ranges, r) ← readClassItems (r.rest.length + 1) start r
  let ranges := if r.options.ignoreCase then foldCase ranges else ranges
  return (.set (if negated then negateRanges ranges else ranges), r)

/-- Whether a character may stand in the name of a group. -/
def isNameChar (c : Char) (first : Bool) : Bool :=
  if first then c == '_' || c.isAlpha || (c.toNat > 127 && Text.isWord c)
  else c == '_' || c == '.' || c == '[' || c == ']' || c.isAlphanum || (c.toNat > 127 && Text.isWord c)

/-- Reads the name of a group up to its bracket. -/
def readName (r : Reading) : Except Fault (String × Reading) :=
  if r.rest.isEmpty then .error .missingName
  else go (r.rest.length + 1) [] r
where
  /-- Reads the characters. -/
  go : Nat → List Char → Reading → Except Fault (String × Reading)
    | 0, _, _ => .error .unclosedName
    | fuel + 1, done, r =>
      match r.char? with
      | none => .error .unclosedName
      | some '>' => if done.isEmpty then .error .emptyName else .ok (String.ofList done.reverse, r.bump)
      | some c => if isNameChar c done.isEmpty then go fuel (c :: done) r.bump else .error .invalidName

/-- Sets one option. -/
def Options.set? (options : Options) (c : Char) (value : Bool) : Option Options :=
  match c with
  | 'i' => some { options with ignoreCase := value }
  | 'm' => some { options with multiLine := value }
  | 's' => some { options with dotMatchesNewline := value }
  | 'U' => some { options with swapGreed := value }
  | 'R' => some { options with crlf := value }
  | 'x' => some { options with ignoreBlanks := value }
  | _ => none

/-- Reads options up to a colon or a bracket, which stays. -/
def readOptions : Nat → Options → (negated afterSign : Bool) → (seen : List Char) → Reading →
    Except Fault (Options × Reading)
  | 0, _, _, _, _, _ => .error .optionsCutShort
  | fuel + 1, options, negated, afterSign, seen, r =>
    match r.char? with
    | none => .error .optionsCutShort
    | some c =>
      if c == ':' || c == ')' then
        if afterSign then .error .danglingNegation else .ok (options, r)
      else if c == '-' then
        if negated then .error .repeatedNegation
        else readOptions fuel options true true seen r.bump
      else match options.set? c (!negated) with
        | none => .error .unknownOption
        | some options =>
          if seen.contains c then .error .duplicateOption
          else readOptions fuel options negated false (c :: seen) r.bump

/-- The rest of a text after a word. -/
def after? (word : String) (cs : List Char) : Option (List Char) :=
  if word.toList.isPrefixOf cs then some (cs.drop word.length) else none

/-- Several patterns in turn, the last one first. -/
def inTurn (reversed : List Pattern) : Pattern :=
  reversed.foldl (fun done p => match done with
    | .empty => p
    | done => .sequence p done) .empty

/-- The first of several patterns that fits, the last one first. -/
def firstOf (p : Pattern) (reversed : List Pattern) : Pattern :=
  reversed.foldl (fun done q => .choice q done) p

/-- How deep groups may nest. -/
def depthLimit : Nat := 50

mutual

/-- Reads alternatives up to the end of the group. Both lists hold the latest pattern first. -/
def readAlternatives : Nat → (depth : Nat) → (branches current : List Pattern) → Reading →
    Except Fault (Pattern × Reading)
  | 0, _, _, _, _ => .error .tooMuchNesting
  | fuel + 1, depth, branches, current, r =>
    let r := r.skipSpace
    match r.rest with
    | [] => .ok (firstOf (inTurn current) branches, r)
    | '(' :: _ => do
      let (p, r') ← readGroup fuel depth r
      match p with
      | some p =>
        readAlternatives fuel depth branches (p :: current) { r' with options := r.options }
      | none => readAlternatives fuel depth branches current r'
    | ')' :: _ =>
      if depth == 0 then .error .unopenedGroup else .ok (firstOf (inTurn current) branches, r)
    | '|' :: _ => readAlternatives fuel depth (inTurn current :: branches) [] r.bump
    | '[' :: _ => do
      let (p, r) ← readClass r
      readAlternatives fuel depth branches (p :: current) r
    | '\x7b' :: _ =>
      match current with
      | [] => .error .nothingToCount
      | p :: current => do
        let ((least, most, greedy), r) ← readCount r
        readAlternatives fuel depth branches (.repeated least most greedy p :: current) r
    | '\\' :: _ => do
      let (p, r) ← readEscape r.bump
      readAlternatives fuel depth branches (p :: current) r
    | '.' :: _ => readAlternatives fuel depth branches (anyChar r.options :: current) r.bump
    | '^' :: _ =>
      readAlternatives fuel depth branches (.assertion (startAssertion r.options) :: current) r.bump
    | '$' :: _ =>
      readAlternatives fuel depth branches (.assertion (endAssertion r.options) :: current) r.bump
    | c :: _ =>
      let bounds : Option (Nat × Option Nat) :=
        if c == '?' then some (0, some 1) else if c == '*' then some (0, none)
        else if c == '+' then some (1, none) else none
      match bounds with
      | none => readAlternatives fuel depth branches (literal r.options c :: current) r.bump
      | some (least, most) =>
        match current with
        | [] => .error .nothingToRepeat
        | p :: current =>
          let (greedy, r) := readGreed r.bump
          readAlternatives fuel depth branches (.repeated least most greedy p :: current) r

/-- Reads a group, or options that hold up to the end of the enclosing group. -/
def readGroup : Nat → (depth : Nat) → Reading → Except Fault (Option Pattern × Reading)
  | 0, _, _ => .error .tooMuchNesting
  | fuel + 1, depth, r =>
    if depth ≥ depthLimit then .error .tooMuchNesting
    else
      let r := r.bumpSpace
      let starts (word : String) : Bool := word.toList.isPrefixOf r.rest
      if starts "?=" || starts "?!" || starts "?<=" || starts "?<!" then .error .lookAround
      else
        match (after? "?P<" r.rest).or (after? "?<" r.rest) with
        | some rest => do
          let (name, r) ← readName { r with rest }
          if r.names.contains (some name) then .error .duplicateName
          readCapture fuel depth { r with names := some name :: r.names }
        | none =>
          match after? "?" r.rest with
          | some rest => do
            if rest.isEmpty then .error .unclosedQuestion
            let (options, r) ← readOptions (rest.length + 1) r.options false false [] { r with rest }
            match r.char? with
            | some ')' =>
              if rest.head? == some ')' then .error .emptyOptions
              return (none, { r.bump with options })
            | _ => do
              let (p, r) ← readAlternatives fuel (depth + 1) [] [] { r.bump with options }
              let r ← close r
              return (some p, r)
          | none => readCapture fuel depth { r with names := none :: r.names }

/-- Reads the inner part of a capturing group whose name is the latest one. -/
def readCapture : Nat → (depth : Nat) → Reading → Except Fault (Option Pattern × Reading)
  | 0, _, _ => .error .tooMuchNesting
  | fuel + 1, depth, r => do
    let index := r.names.length
    let (p, r) ← readAlternatives fuel (depth + 1) [] [] r
    let r ← close r
    return (some (.capture index p), r)

/-- Past the bracket that closes a group. -/
def close (r : Reading) : Except Fault Reading :=
  if r.char? == some ')' then .ok r.bump else .error .unclosedGroup

end

/-- Reads a pattern. Gives the names of its groups in order, too. -/
def parse (options : Options) (text : String) : Except Fault (Pattern × List (Option String)) := do
  let (p, r) ← readAlternatives (3 * text.length + 3) 0 [] [] ⟨text.toList, options, []⟩
  return (p, r.names.reverse)

end Pattern

end Lookout
