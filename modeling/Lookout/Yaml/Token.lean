import Lookout.Yaml.Scalar
/-!
The tokens of a YAML document. Indentation becomes tokens of its own: every block has a start and
an end. That a text is a key is only known at the colon behind it; the token of the key is then put
in front of the text.
-/
namespace Lookout.Yaml

/-- A token. -/
inductive Token where
  | versionLine
  | tagLine (handle stem : String)
  | documentStart
  | documentEnd
  | blockSequence
  | blockMapping
  | blockEnd
  | flowSequence
  | flowSequenceEnd
  | flowMapping
  | flowMappingEnd
  | blockEntry
  | flowEntry
  | key
  | value
  | alias (name : String)
  | anchor (name : String)
  | tag (handle suffix : String)
  | scalar (plain : Bool) (text : String)
  deriving DecidableEq, Repr

/-- A token that may turn out to be a key. -/
structure KeyMark where
  isPossible : Bool := false
  /-- Nothing but a key can stand there. -/
  isRequired : Bool := false
  /-- The place of the token. -/
  place : Nat := 0
  line : Nat := 0
  column : Nat := 0
  index : Nat := 0

/-- An indentation that is left when a line begins further left. -/
structure Indent where
  /-- The one outside of it. -/
  outer : Int
  /-- Whether a block ends with it. -/
  isBlock : Bool

/-- The state of a text being cut into tokens. -/
structure Lexer where
  cursor : Cursor
  tokens : Array Token := #[]
  /-- Whether the last token is an anchor or a tag at the start of a line. -/
  marginMark : Bool := false
  keyAllowed : Bool := true
  /-- The mark of the innermost level, and of those outside of it. -/
  keyMark : KeyMark := {}
  outerKeys : List KeyMark := []
  indent : Int := -1
  indents : List Indent := []
  flowLevel : Nat := 0
  flowMappingStarted : Bool := false
  /-- For each sequence in brackets, whether a mapping without brackets is open in it. -/
  openMappings : List Bool := []
  /-- The place where a value may follow its key directly. -/
  adjacentAt : Nat := 0

namespace Lexer

/-- Adds a token. -/
def push (s : Lexer) (t : Token) : Lexer :=
  { s with tokens := s.tokens.push t, marginMark := false }

/-- Puts a token in a place. -/
def putAt (s : Lexer) (place : Nat) (t : Token) : Lexer :=
  { s with tokens := (s.tokens.extract 0 place).push t ++ s.tokens.extract place s.tokens.size }

/-- Whether the innermost indentation ends a block. -/
def inBlockIndent (s : Lexer) : Bool := s.indents.head?.any (·.isBlock)

/-! ### Keys -/

/-- Marks the next token as a possible key. -/
def saveKey (s : Lexer) : Lexer :=
  if s.keyAllowed then
    let c := s.cursor
    { s with keyMark :=
        { isPossible := true
          isRequired := s.flowLevel == 0 && s.indent == c.column && s.inBlockIndent
          place := s.tokens.size
          line := c.line
          column := c.column
          index := c.index } }
  else s

/-- Gives up the mark, unless a key has to stand there. -/
def dropKey? (s : Lexer) : Option Lexer :=
  if s.keyMark.isPossible && s.keyMark.isRequired then none
  else some { s with keyMark := { s.keyMark with isPossible := false } }

/-- The greatest distance between a key and its colon. -/
def keyLength : Nat := 1024

/-- Gives up marks that are too far behind. Outside brackets a key stands on one line. -/
def dropStale? (s : Lexer) : Option Lexer :=
  if s.flowLevel != 0 then some s
  else
    let c := s.cursor
    let isStale (k : KeyMark) : Bool :=
      k.isPossible && (k.line < c.line || k.index + keyLength < c.index)
    let drop (k : KeyMark) : KeyMark := if isStale k then { k with isPossible := false } else k
    if (s.keyMark :: s.outerKeys).any fun k => isStale k && k.isRequired then none
    else some { s with keyMark := drop s.keyMark, outerKeys := s.outerKeys.map drop }

/-! ### Indentation -/

/-- Leaves indentations down to a column. -/
def unrollFrom (column : Int) : List Indent → Lexer → Lexer
  | [], s => s
  | i :: rest, s =>
    if s.indent > column then
      let s := { s with indent := i.outer, indents := rest }
      unrollFrom column rest (if i.isBlock then s.push .blockEnd else s)
    else s

/-- Leaves indentations down to a column, outside brackets. -/
def unroll (s : Lexer) (column : Int) : Lexer :=
  if s.flowLevel > 0 then s else unrollFrom column s.indents s

/-- Leaves the innermost indentations that end no block. -/
def unrollLoose (s : Lexer) : Lexer :=
  let loose := s.indents.takeWhile fun i => !i.isBlock
  match loose.getLast? with
  | some i => { s with indent := i.outer, indents := s.indents.drop loose.length }
  | none => s

/-- Enters a block at a column, whose token stands at a place. -/
def roll (s : Lexer) (column : Int) (place : Nat) (t : Token) : Lexer :=
  if s.flowLevel > 0 then s
  else
    let s :=
      match s.indents with
      | i :: rest =>
        if s.indent ≤ column && !i.isBlock then { s with indent := i.outer, indents := rest } else s
      | [] => s
    if s.indent < column then
      let margin := s.marginMark && place < s.tokens.size
      let s := { s with indents := ⟨s.indent, true⟩ :: s.indents, indent := column }
      { s.putAt place t with marginMark := margin }
    else s

/-- Enters an indentation of one column that ends no block. -/
def rollLoose (s : Lexer) : Lexer :=
  if s.flowLevel == 0 && s.inBlockIndent then
    { s with indents := ⟨s.indent, false⟩ :: s.indents, indent := s.indent + 1 }
  else s

/-! ### Gaps -/

/-- Passes blanks, line breaks and comments. Tabs may not stand for indentation. -/
def passGaps? : (fuel : Nat) → Lexer → Option Lexer
  | 0, s => some s
  | fuel + 1, s =>
    let c := s.cursor
    match c.peek? with
    | none => some s
    | some x =>
      if x == '\t' && !s.indents.isEmpty && c.leading && (c.column : Int) < s.indent then
        match c.passGap? true with
        | some (_, c) => if c.atLineEnd then passGaps? fuel { s with cursor := c } else none
        | none => none
      else if isBlank x then passGaps? fuel { s with cursor := c.passBlanks }
      else if isBreak x then
        passGaps? fuel { s with
          cursor := c.passBreak, keyAllowed := s.keyAllowed || s.flowLevel == 0 }
      else if x == '#' then passGaps? fuel { s with cursor := c.passLine }
      else some s

/-- Passes at least one blank or line break, but no tabs, behind a question mark. -/
def passWide? : (fuel : Nat) → (passed : Bool) → Lexer → Option Lexer
  | 0, _, _ => none
  | fuel + 1, passed, s =>
    let c := s.cursor
    match c.peek? with
    | some ' ' => passWide? fuel true { s with cursor := c.passBlanks }
    | some '#' => passWide? fuel passed { s with cursor := c.passLine }
    | x =>
      if x.any isBreak then
        passWide? fuel true { s with
          cursor := c.passBreak, keyAllowed := s.keyAllowed || s.flowLevel == 0 }
      else if passed && x != some '\t' then some s else none

/-- Passes the rest of a gap on the line, which tells the blanks passed. -/
def passGap? (s : Lexer) (tabs : Bool) : Option (List Char × Lexer) :=
  (s.cursor.passGap? tabs).map fun (blanks, c) => (blanks, { s with cursor := c })

/-! ### Lines at the margin -/

/-- The characters of names of tags. -/
def isNameChar (c : Char) : Bool := c.isAlphanum || c == '_' || c == '-'

/-- The characters of addresses. -/
def isUriChar (c : Char) : Bool :=
  c.isAlphanum || "-#;/?:@&=+$,_.!~*'()[]%".toList.contains c

/-- The characters of tags. -/
def isTagChar (c : Char) : Bool := isUriChar c && !isFlowMark c && c != '!'

/-- Octets given as percent codes that make one character. -/
def uriOctets : (count : Nat) → List Char → Option (List Nat)
  | 0, _ => some []
  | count + 1, '%' :: a :: b :: rest => do
    return ((← hexValue? a) * 16 + (← hexValue? b)) :: (← uriOctets count rest)
  | _ + 1, _ => none

/-- The number of octets of a character that starts with the given one. -/
def octetCount? (lead : Nat) : Option Nat :=
  if lead < 0x80 then some 1
  else if lead / 32 == 6 then some 2
  else if lead / 16 == 14 then some 3
  else if lead / 8 == 30 then some 4
  else none

/-- The character of percent codes: the octets side by side. -/
def uriEscape? (cs : List Char) : Option (Char × Nat) := do
  let lead ← (← uriOctets 1 cs).head?
  let count ← octetCount? lead
  let octets ← uriOctets count cs
  if (octets.drop 1).any fun b => b / 64 != 2 then none
  let c ← charOf? (octets.foldl (fun n b => n * 256 + b) 0)
  return (c, 3 * count)

/-- Reads characters of an address that have a property, with percent codes replaced. -/
def uriRun? (p : Char → Bool) : (fuel : Nat) → Cursor → List Char → Option (Cursor × List Char)
  | 0, _, _ => none
  | fuel + 1, c, text =>
    match c.peek? with
    | none => some (c, text)
    | some x =>
      if !p x then some (c, text)
      else if x == '%' then
        match uriEscape? c.rest with
        | some (y, n) => uriRun? p fuel (c.pass n) (y :: text)
        | none => none
      else uriRun? p fuel c.pass (x :: text)

/-- Reads a handle: names between exclamation marks. -/
def tagHandle? (whole : Bool) (c : Cursor) : Option (String × Cursor) :=
  if c.peek? != some '!' then none
  else
    let name := c.pass.run isNameChar
    let after := c.pass (name.length + 1)
    if after.peek? == some '!' then some (String.ofList ('!' :: name ++ ['!']), after.pass)
    else if whole && !name.isEmpty then none
    else some (String.ofList ('!' :: name), after)

/-- Reads the digits of a version. -/
def versionNumber? (c : Cursor) : Option Cursor :=
  let digits := c.run Char.isDigit
  if digits.isEmpty || digits.length > 9 then none else some (c.pass digits.length)

/-- Reads a version. -/
def versionLine? (c : Cursor) : Option (Token × Cursor) := do
  let c ← versionNumber? (c.passBlanks (c.run isBlank).length)
  if c.peek? != some '.' then none
  return (.versionLine, ← versionNumber? c.pass)

/-- Reads what a handle stands for. -/
def tagLine? (c : Cursor) : Option (Token × Cursor) := do
  let (handle, c) ← tagHandle? true (c.passBlanks (c.run isBlank).length)
  let c := c.passBlanks (c.run isBlank).length
  let first ← c.peek?
  if first != '!' && !isTagChar first then none
  let (c, text) ←
    if first == '!' then uriRun? isUriChar (c.size + 1) c.pass ['!']
    else uriRun? isUriChar (c.size + 1) c []
  if c.gapAt 0 then return (.tagLine handle (String.ofList text.reverse), c) else none

/-- Reads a line of instructions for the whole document. -/
def readInstruction? (s : Lexer) : Option Lexer := do
  let s ← (s.unroll (-1)).dropKey?
  let c := s.cursor.pass
  let name := c.run isNameChar
  let c := c.pass name.length
  if name.isEmpty || !c.gapAt 0 then none
  let (t, c) ←
    if name == "YAML".toList then versionLine? c
    else if name == "TAG".toList then tagLine? c
    else some (.tagLine "" "", c.passLine)
  let (_, c) ← c.passGap? true
  if !c.atLineEnd then none
  return { s with cursor := c.passBreak, keyAllowed := false }.push t

/-- Reads the mark of a document's start or end. -/
def readDocumentMark? (s : Lexer) (t : Token) : Option Lexer := do
  let s ← (s.unroll (-1)).dropKey?
  return { s with cursor := s.cursor.pass 3, keyAllowed := false }.push t

/-! ### Brackets -/

/-- The greatest depth of brackets. -/
def flowLimit : Nat := 255

/-- Reads an opening bracket. -/
def openBracket? (s : Lexer) (t : Token) : Option Lexer := do
  let s := s.saveKey.rollLoose
  if s.flowLevel ≥ flowLimit then none
  let s := { s with
    outerKeys := s.keyMark :: s.outerKeys
    keyMark := {}
    flowLevel := s.flowLevel + 1
    keyAllowed := true
    cursor := s.cursor.pass }
  let s :=
    if t == .flowMapping then { s with flowMappingStarted := true }
    else { s with openMappings := false :: s.openMappings }
  let (_, s) ← s.passGap? true
  return s.push t

/-- Ends a mapping without brackets in a sequence. -/
def endOpenMapping (s : Lexer) : Lexer :=
  match s.openMappings with
  | true :: rest =>
    { s with flowMappingStarted := false, openMappings := false :: rest }.push .flowMappingEnd
  | _ => s

/-- Reads a closing bracket. -/
def closeBracket? (s : Lexer) (t : Token) : Option Lexer := do
  let s ← s.dropKey?
  let s :=
    match s.flowLevel, s.outerKeys with
    | level + 1, k :: rest => { s with flowLevel := level, keyMark := k, outerKeys := rest }
    | _, _ => s
  let s := { s with keyAllowed := false }
  let s :=
    if t == .flowSequenceEnd then
      let s := s.endOpenMapping
      { s with openMappings := s.openMappings.drop 1 }
    else s
  let (_, s) ← { s with cursor := s.cursor.pass }.passGap? true
  let s := if s.flowLevel > 0 then { s with adjacentAt := s.cursor.index } else s
  return s.push t

/-- Reads a comma. -/
def readComma? (s : Lexer) : Option Lexer := do
  let s ← s.dropKey?
  let s := { s with keyAllowed := true }.endOpenMapping
  let (_, s) ← { s with cursor := s.cursor.pass }.passGap? true
  return s.push .flowEntry

/-! ### Entries, keys and values -/

/-- Reads the dash before an item. -/
def readDash? (s : Lexer) : Option Lexer := do
  if s.flowLevel > 0 || !s.keyAllowed then none
  if s.marginMark && s.cursor.column == 0 && s.indent > -1 then none
  let column := s.cursor.column
  let s := { s with cursor := s.cursor.pass }
  let s := s.roll column s.tokens.size .blockSequence
  let (blanks, s) ← s.passGap? true
  if blanks.contains '\t' && s.cursor.hasAt 0 '-' && s.cursor.gapAt 1 then none
  let (_, s) ← s.passGap? false
  let s := if s.cursor.atBreak || s.cursor.peek?.any isFlowMark then s.rollLoose else s
  let s ← s.dropKey?
  return { s with keyAllowed := true }.push .blockEntry

/-- Reads the question mark before a key. -/
def readQuestion? (s : Lexer) : Option Lexer := do
  if s.flowLevel == 0 && !s.keyAllowed then none
  let s :=
    if s.flowLevel == 0 then s.roll s.cursor.column s.tokens.size .blockMapping
    else { s with flowMappingStarted := true }
  let s ← s.dropKey?
  let s := { s with keyAllowed := s.flowLevel == 0, cursor := s.cursor.pass }
  let s ← passWide? (s.cursor.size + 1) false s
  return s.push .key

/-- Reads the colon before a value. -/
def readColon? (s : Lexer) : Option Lexer := do
  let k := s.keyMark
  let column := s.cursor.column
  let line := s.cursor.line
  let isOpen := !s.openMappings.isEmpty && !s.flowMappingStarted
  let s := if isOpen then { s with openMappings := true :: s.openMappings.drop 1 } else s
  let s := { s with cursor := s.cursor.pass }
  let s ←
    if s.cursor.peek? == some '\t' then do
      let (blanks, s) ← s.passGap? true
      if !blanks.contains ' ' && s.cursor.peek?.any fun x => x == '-' || x.isAlphanum then none
      else some s
    else some s
  let s ←
    if k.isPossible then
      if isOpen && k.line < line then none
      else
        let s := s.putAt k.place .key
        let s := if isOpen then s.putAt k.place .flowMapping else s
        let s := (s.roll k.column k.place .blockMapping).rollLoose
        some { s with keyMark := { s.keyMark with isPossible := false }, keyAllowed := false }
    else
      let s := if isOpen then s.push .flowMapping else s
      if s.flowLevel == 0 && !s.keyAllowed then none
      else
        let s := (s.roll column s.tokens.size .blockMapping).rollLoose
        some { s with keyAllowed := s.flowLevel == 0 }
  return s.push .value

/-- Reads the colon before a value within brackets, where no gap has to follow. -/
def readFlowColon? (s : Lexer) : Option Lexer :=
  let next := s.cursor.peekAt? 1
  if s.cursor.index != s.adjacentAt && (next == some '[' || next == some '\x7b') then none
  else s.readColon?

/-! ### Nodes -/

/-- Adds an anchor or a tag that begins at the cursor, and goes on behind it. -/
def pushMark (s : Lexer) (t : Token) (after : Cursor) : Lexer :=
  let margin := s.cursor.column == 0
  { { s with cursor := after }.push t with marginMark := margin }

/-- Whether a character can stand in the name of an anchor. -/
def isAnchorChar (c : Char) : Bool :=
  !isBlank c && !isBreak c && !isFlowMark c && c != '\ufeff'

/-- Reads an anchor or an alias. -/
def readAnchor? (s : Lexer) (isAlias : Bool) : Option Lexer :=
  let s := { s.saveKey with keyAllowed := false }
  let name := s.cursor.pass.run isAnchorChar
  let after := s.cursor.pass (name.length + 1)
  if name.isEmpty then none
  else if isAlias then some ({ s with cursor := after }.push (.alias (String.ofList name)))
  else some (s.pushMark (.anchor (String.ofList name)) after)

/-- Reads the handle and the suffix of a tag. -/
def tagParts? (c : Cursor) : Option (String × String × Cursor) := do
  if c.hasAt 1 '<' then
    let (c, text) ← uriRun? isUriChar (c.size + 1) (c.pass 2) []
    if c.peek? != some '>' then none
    return ("", String.ofList text.reverse, c.pass)
  else
    let (handle, after) ← tagHandle? false c
    if handle.length ≥ 2 && handle.endsWith "!" then
      let (after, text) ← uriRun? isTagChar (c.size + 1) after []
      if text.isEmpty then none
      return (handle, String.ofList text.reverse, after)
    else
      let (after, text) ← uriRun? isTagChar (c.size + 1) after (handle.toList.drop 1).reverse
      if text.isEmpty then return ("", "!", after)
      return ("!", String.ofList text.reverse, after)

/-- Reads a tag. -/
def readTag? (s : Lexer) : Option Lexer := do
  let s := { s.saveKey with keyAllowed := false }
  let (handle, suffix, after) ← tagParts? s.cursor
  if after.gapAt 0 || (s.flowLevel > 0 && after.peek?.any isFlowMark) then
    return s.pushMark (.tag handle suffix) after
  else none

/-- Reads a plain text. -/
def readPlainScalar? (s : Lexer) : Option Lexer := do
  let s := { s.saveKey with keyAllowed := false }.unrollLoose
  let (text, c) ← readPlain? (s.indent + 1) (s.flowLevel > 0) s.cursor
  let s := { s with cursor := c, keyAllowed := s.keyAllowed || c.leading }
  return s.push (.scalar true text)

/-- Reads a quoted text. -/
def readQuotedScalar? (s : Lexer) : Option Lexer := do
  let s := { s.saveKey with keyAllowed := false }
  let (text, c) ← readQuoted? s.indent (s.flowLevel > 0) s.cursor
  let s ← passGaps? (c.size + 1) { s with cursor := c }
  return { s with adjacentAt := s.cursor.index }.push (.scalar false text)

/-- Reads a block. -/
def readBlockScalar? (s : Lexer) (literal : Bool) : Option Lexer := do
  let s := { s.saveKey with keyAllowed := true }.unrollLoose
  let (text, c) ← readBlock? s.indent literal s.cursor
  return { s with cursor := c }.push (.scalar false text)

/-- Reads what begins with a character, at a column that is not left of its block. -/
def readToken? (s : Lexer) (x : Char) : Option Lexer :=
  let gap := s.cursor.gapAt 1
  let flow := s.flowLevel > 0
  if x == '[' then s.openBracket? .flowSequence
  else if x == '\x7b' then s.openBracket? .flowMapping
  else if x == ']' then s.closeBracket? .flowSequenceEnd
  else if x == '\x7d' then s.closeBracket? .flowMappingEnd
  else if x == ',' then s.readComma?
  else if x == '-' && gap then s.readDash?
  else if x == '?' && gap then s.readQuestion?
  else if x == ':' && gap then s.readColon?
  else if x == ':' && flow &&
      ((s.cursor.peekAt? 1).any isFlowMark || s.cursor.index == s.adjacentAt) then
    s.readFlowColon?
  else if x == '*' then s.readAnchor? true
  else if x == '&' then s.readAnchor? false
  else if x == '!' then s.readTag?
  else if x == '|' && !flow then s.readBlockScalar? true
  else if x == '>' && !flow then s.readBlockScalar? false
  else if x == '\'' || x == '"' then s.readQuotedScalar?
  else if x == '%' || x == '@' || x == '\x60' then none
  else s.readPlainScalar?

/-- Ends all blocks at the end of the text. -/
def finish? (s : Lexer) : Option (List Token) :=
  if (s.keyMark :: s.outerKeys).any fun k => k.isRequired && k.isPossible then none
  else some ((s.unroll (-1)).tokens.toList)

/-- Reads tokens up to the end of the text. -/
def run? : (fuel : Nat) → Lexer → Option (List Token)
  | 0, _ => none
  | fuel + 1, s => do
    let s ← passGaps? (s.cursor.size + 1) s
    let s ← s.dropStale?
    let s := s.unroll s.cursor.column
    let c := s.cursor
    match c.peek? with
    | none => s.finish?
    | some x =>
      let next ←
        if c.column == 0 && x == '%' then s.readInstruction?
        else if c.atDocumentMark && x == '-' then s.readDocumentMark? .documentStart
        else if c.atDocumentMark then do
          let s ← s.readDocumentMark? .documentEnd
          let (_, s) ← s.passGap? true
          if s.cursor.atLineEnd then some s else none
        else if (c.column : Int) < s.indent then none
        else s.readToken? x
      run? fuel next

end Lexer

/-- The tokens of a text. -/
def tokens? (text : String) : Option (List Token) :=
  Lexer.run? (2 * text.length + 2) { cursor := .start text.toList }

end Lookout.Yaml
