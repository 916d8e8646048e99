import Lookout.Yaml.Cursor
/-!
The texts of scalars: plain, between quotes, and in blocks. A single line break within a plain or
quoted text counts as a blank, and further ones stand for themselves.
-/
namespace Lookout.Yaml

/-- Line breaks as text. -/
def breaks (n : Nat) : List Char := List.replicate n '\n'

/-- What a gap becomes: blanks within a line stay, line breaks are folded. -/
structure Gap where
  /-- Blanks within a line, the last one first. -/
  blanks : List Char := []
  /-- Whether a line has ended. -/
  broken : Bool := false
  /-- The lines that have ended after that. -/
  further : Nat := 0

/-- The text of a gap, the last character first. -/
def Gap.folded (g : Gap) : List Char :=
  if g.broken then (if g.further == 0 then [' '] else breaks g.further) else g.blanks

/-! ### Plain texts -/

/-- Whether a character can stand in a plain text: no colon before a gap, and no marks within
brackets. -/
def isPlainAt (flow : Bool) (c : Cursor) : Bool :=
  match c.rest with
  | [] => false
  | ':' :: rest => !((rest.head?).all fun n => isBlank n || isBreak n || (flow && isFlowMark n))
  | x :: _ => !isBlank x && !isBreak x && !(flow && isFlowMark x)

/-- Passes the characters of a plain text up to a gap or a mark. -/
def plainRun (flow : Bool) : (fuel : Nat) → Cursor → List Char → Cursor × List Char
  | 0, c, text => (c, text)
  | fuel + 1, c, text =>
    match c.rest with
    | x :: _ => if isPlainAt flow c then plainRun flow fuel c.pass (x :: text) else (c, text)
    | [] => (c, text)

/-- Passes a gap within a plain text. Tabs may not stand for indentation. -/
def plainGap (indent : Int) : (fuel : Nat) → Cursor → Gap → Option (Cursor × Gap)
  | 0, _, _ => none
  | fuel + 1, c, g =>
    match c.rest with
    | x :: _ =>
      if isBlank x then
        if !c.leading then plainGap indent fuel c.passBlanks { g with blanks := x :: g.blanks }
        else if (c.column : Int) < indent && x == '\t' then
          match c.passGap? true with
          | some (_, c) => if c.atLineEnd then plainGap indent fuel c g else none
          | none => none
        else plainGap indent fuel c.passBlanks g
      else if isBreak x then
        if c.leading then plainGap indent fuel c.passBreak { g with further := g.further + 1 }
        else plainGap indent fuel c.passBreak { g with blanks := [], broken := true }
      else some (c, g)
    | [] => some (c, g)

/-- The characters of a plain text, the last one first. -/
def plainChars (indent : Int) (flow : Bool) :
    (fuel : Nat) → Cursor → Gap → List Char → Option (Cursor × List Char)
  | 0, _, _, _ => none
  | fuel + 1, c, g, text =>
    if c.atDocumentMark || c.peek? == some '#' then some (c, text)
    else if flow && c.peek? == some '-' && (c.peekAt? 1).any isFlowMark then none
    else
      let (c, g, text) :=
        if isPlainAt flow c then
          let (c, text) := plainRun flow c.size c (g.folded ++ text)
          (c, ({} : Gap), text)
        else (c, g, text)
      if !(c.atBlank || c.atBreak) then some (c, text)
      else
        match plainGap indent (c.size + 1) c g with
        | none => none
        | some (c, g) =>
          if !flow && (c.column : Int) < indent then some (c, text)
          else plainChars indent flow fuel c g text

/-- Reads a plain text, whose lines are indented by at least so much outside brackets. -/
def readPlain? (indent : Int) (flow : Bool) (c : Cursor) : Option (String × Cursor) :=
  if flow && (c.column : Int) < indent then none
  else
    match plainChars indent flow (c.size + 1) c {} [] with
    | some (c, text) => if text.isEmpty then none else some (String.ofList text.reverse, c)
    | none => none

/-! ### Quoted texts -/

/-- The value of a hexadecimal digit. -/
def hexValue? (c : Char) : Option Nat :=
  if c.isDigit then some (c.toNat - 48)
  else if 'a' ≤ c && c ≤ 'f' then some (c.toNat - 87)
  else if 'A' ≤ c && c ≤ 'F' then some (c.toNat - 55)
  else none

/-- The number of so many hexadecimal digits. -/
def hexNumber? : (count value : Nat) → List Char → Option Nat
  | 0, value, _ => some value
  | count + 1, value, c :: rest => do hexNumber? count (value * 16 + (← hexValue? c)) rest
  | _ + 1, _, [] => none

/-- The character of a code, if there is one. -/
def charOf? (n : Nat) : Option Char :=
  if n < 0xD800 || (0xDFFF < n && n < 0x110000) then some (Char.ofNat n) else none

/-- The character that a backslash and another character stand for. -/
def namedEscape? (c : Char) : Option Char :=
  match c with
  | '0' => some '\x00'
  | 'a' => some '\x07'
  | 'b' => some '\x08'
  | 't' => some '\t'
  | '\t' => some '\t'
  | 'n' => some '\n'
  | 'v' => some '\x0b'
  | 'f' => some '\x0c'
  | 'r' => some '\r'
  | 'e' => some '\x1b'
  | ' ' => some ' '
  | '"' => some '"'
  | '/' => some '/'
  | '\\' => some '\\'
  | 'N' => some '\u0085'
  | '_' => some '\u00a0'
  | 'L' => some '\u2028'
  | 'P' => some '\u2029'
  | _ => none

/-- The digits of a code after a backslash and a letter. -/
def codeLength? (c : Char) : Option Nat :=
  match c with
  | 'x' => some 2
  | 'u' => some 4
  | 'U' => some 8
  | _ => none

/-- Reads an escape sequence. -/
def readEscape? (c : Cursor) : Option (Char × Cursor) := do
  let x ← c.peekAt? 1
  match namedEscape? x with
  | some y => return (y, c.pass 2)
  | none =>
    let count ← codeLength? x
    let n ← hexNumber? count 0 (c.rest.drop 2)
    return (← charOf? n, c.pass (2 + count))

/-- Passes the characters of a quoted text up to a gap or the quote, and tells whether an escaped
line break ends them. -/
def quotedRun (quote : Char) : (fuel : Nat) → Cursor → List Char →
    Option (Cursor × List Char × Bool)
  | 0, _, _ => none
  | fuel + 1, c, text =>
    match c.rest with
    | [] => some (c, text, false)
    | x :: rest =>
      if isBlank x || isBreak x then some (c, text, false)
      else if x == quote then
        if quote == '\'' && rest.head? == some '\'' then
          quotedRun quote fuel (c.pass 2) ('\'' :: text)
        else some (c, text, false)
      else if x == '\\' && quote == '"' then
        if rest.head?.any isBreak then some (c.pass.passBreak, text, true)
        else
          match readEscape? c with
          | some (y, c) => quotedRun quote fuel c (y :: text)
          | none => none
      else quotedRun quote fuel c.pass (x :: text)

/-- Passes a gap within a quoted text. -/
def quotedGap (indent : Int) : (fuel : Nat) → Cursor → (leading : Bool) → Gap →
    Option (Cursor × Bool × Gap)
  | 0, _, _, _ => none
  | fuel + 1, c, leading, g =>
    match c.rest with
    | x :: _ =>
      if isBlank x then
        if !leading then
          quotedGap indent fuel c.passBlanks leading { g with blanks := x :: g.blanks }
        else if x == '\t' && (c.column : Int) < indent then none
        else quotedGap indent fuel c.passBlanks leading g
      else if isBreak x then
        if leading then
          quotedGap indent fuel c.passBreak leading { g with further := g.further + 1 }
        else quotedGap indent fuel c.passBreak true { g with blanks := [], broken := true }
      else some (c, leading, g)
    | [] => some (c, leading, g)

/-- What a gap in a quoted text becomes: after an escaped line break only further ones count. -/
def quotedGapText (leading : Bool) (g : Gap) : List Char :=
  if leading && !g.broken then breaks g.further else g.folded

/-- The characters of a quoted text, the last one first. -/
def quotedChars (indent : Int) (quote : Char) :
    (fuel : Nat) → Cursor → List Char → Option (Cursor × List Char)
  | 0, _, _ => none
  | fuel + 1, c, text =>
    if c.atDocumentMark || c.atEnd || (c.column : Int) < indent then none
    else
      match quotedRun quote (c.size + 1) c text with
      | none => none
      | some (c, text, escaped) =>
        if c.peek? == some quote then some (c, text)
        else
          match quotedGap indent (c.size + 1) c escaped {} with
          | none => none
          | some (c, leading, g) =>
            quotedChars indent quote fuel c (quotedGapText leading g ++ text)

/-- Whether what follows a quoted text is allowed there. -/
def mayFollowQuote (flow : Bool) (line : Nat) (c : Cursor) : Bool :=
  match c.peek? with
  | none => true
  | some x =>
    isBreak x || (flow && (x == ',' || x == '\x7d' || x == ']')) ||
      (x == ':' && (flow || line == c.line))

/-- Reads a quoted text and the gap behind it. -/
def readQuoted? (indent : Int) (flow : Bool) (c : Cursor) : Option (String × Cursor) := do
  let quote ← c.peek?
  let (after, text) ← quotedChars indent quote (c.size + 1) c.pass []
  let (_, after) ← after.pass.passGap? true
  if mayFollowQuote flow c.line after then return (String.ofList text.reverse, after) else none

/-! ### Blocks -/

/-- What becomes of the line breaks at the end of a block. -/
inductive Chomping where
  | strip | clip | keep
  deriving DecidableEq, Repr

/-- The header of a block: what becomes of its end, and the number of its indentation. -/
def blockHeader? (c : Cursor) : Option (Chomping × Nat × Cursor) :=
  let chomp? (x : Char) : Option Chomping :=
    if x == '+' then some .keep else if x == '-' then some .strip else none
  let digit? (x : Char) : Option Nat := if x.isDigit then some (x.toNat - 48) else none
  let indent? (c : Cursor) : Option (Nat × Cursor) :=
    match c.peek?.bind digit? with
    | some 0 => none
    | some n => some (n, c.pass)
    | none => some (0, c)
  match c.peek?.bind chomp? with
  | some chomping => (indent? c.pass).map fun (n, c) => (chomping, n, c)
  | none =>
    match indent? c with
    | none => none
    | some (0, c) => some (.clip, 0, c)
    | some (n, c) =>
      match c.peek?.bind chomp? with
      | some chomping => some (chomping, n, c.pass)
      | none => some (.clip, n, c)

/-- Passes blanks up to an indentation, and empty lines, which are counted. -/
def passIndent (indent : Nat) : (fuel : Nat) → Cursor → (count : Nat) → Cursor × Nat
  | 0, c, count => (c, count)
  | fuel + 1, c, count =>
    let blanks := (c.run (· == ' ')).length
    let c := c.passBlanks (min blanks (indent - c.column))
    if c.atBreak then passIndent indent fuel c.passBreak (count + 1) else (c, count)

/-- Passes blanks and empty lines, and tells the greatest indentation seen. -/
def findIndent : (fuel : Nat) → Cursor → (greatest count : Nat) → Cursor × Nat × Nat
  | 0, c, greatest, count => (c, greatest, count)
  | fuel + 1, c, greatest, count =>
    let c := c.passBlanks (c.run (· == ' ')).length
    let greatest := max greatest c.column
    if c.atBreak then findIndent fuel c.passBreak greatest (count + 1) else (c, greatest, count)

/-- The lines of a block being read. -/
structure Block where
  /-- The text so far, the last character first. -/
  text : List Char := []
  /-- Whether a line has ended since. -/
  broken : Bool := false
  /-- The empty lines after that. -/
  further : Nat := 0
  /-- Whether the last line began with a blank. -/
  blank : Bool := false

/-- Reads the lines of a block. -/
def blockLines (literal : Bool) (indent : Nat) : (fuel : Nat) → Cursor → Block → Cursor × Block
  | 0, c, b => (c, b)
  | fuel + 1, c, b =>
    if c.column != indent || c.atEnd || (indent == 0 && c.atDocumentMark) then (c, b)
    else
      let blank := c.atBlank
      let gap :=
        if !literal && b.broken && !b.blank && !blank then
          if b.further == 0 then [' '] else breaks b.further
        else breaks b.further ++ (if b.broken then ['\n'] else [])
      let line := c.run fun x => !isBreak x
      let text := line.reverse ++ gap ++ b.text
      let c := c.passBlanks line.length
      if c.atEnd then (c, ⟨text, false, 0, blank⟩)
      else
        let c := c.passBreak
        let (c, further) := passIndent indent (c.size + 1) c 0
        blockLines literal indent fuel c ⟨text, true, further, blank⟩

/-- Reads a block that stands in a block of the given indentation. -/
def readBlock? (parent : Int) (literal : Bool) (c : Cursor) : Option (String × Cursor) := do
  let first := c.line
  let (chomping, increment, c) ← blockHeader? c.pass
  let (_, c) ← c.passGap? true
  if !c.atLineEnd then none
  let opened := c.atBreak
  let c := if opened then c.passBreak else c
  if c.peek? == some '\t' then none
  let (c, indent, further) : Cursor × Nat × Nat :=
    if increment > 0 then
      let indent := if parent ≥ 0 then (parent + increment).toNat else increment
      let (c, further) := passIndent indent (c.size + 1) c 0
      (c, indent, further)
    else
      let (c, greatest, further) := findIndent (c.size + 1) c 0 0
      let indent := max greatest (parent + 1).toNat
      (c, (if parent > 0 then max indent 1 else indent), further)
  if c.atEnd then
    let text :=
      if chomping == .strip || c.line == first then []
      else if chomping == .clip || further == 0 then (if opened then ['\n'] else [])
      else breaks further
    return (String.ofList text, c)
  if c.column < indent && (c.column : Int) > parent then none
  let (c, b) := blockLines literal indent (c.size + 1) c { further }
  let text :=
    if chomping == .strip then b.text
    else
      (if c.atEnd && c.column ≥ max indent 1 then ['\n'] else []) ++
        (if b.broken then ['\n'] else []) ++ b.text
  let text := if chomping == .keep then breaks b.further ++ text else text
  return (String.ofList text.reverse, c)

end Lookout.Yaml
