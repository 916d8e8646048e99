/-!
Places in the text of a YAML document. A text ends at its first character zero.
-/
namespace Lookout.Yaml

/-- A place in a text, with what follows it. Lines, columns and places count from zero. -/
structure Cursor where
  rest : List Char
  line : Nat := 0
  column : Nat := 0
  index : Nat := 0
  /-- Whether only blanks stand before it on its line. -/
  leading : Bool := true

/-- Whether a character ends a line. -/
def isBreak (c : Char) : Bool := c == '\n' || c == '\r'

/-- Whether a character is a blank within a line. -/
def isBlank (c : Char) : Bool := c == ' ' || c == '\t'

/-- Whether a character is a mark of sequences or mappings in brackets. -/
def isFlowMark (c : Char) : Bool := c == ',' || c == '[' || c == ']' || c == '\x7b' || c == '\x7d'

namespace Cursor

/-- The start of a text. -/
def start (cs : List Char) : Cursor := { rest := cs.takeWhile (· != '\x00') }

/-- The next character. -/
def peek? (c : Cursor) : Option Char := c.rest.head?

/-- The character after as many others. -/
def peekAt? (c : Cursor) (n : Nat) : Option Char := c.rest[n]?

/-- Whether the character after `n` others is there and is the given one. -/
def hasAt (c : Cursor) (n : Nat) (x : Char) : Bool := c.peekAt? n == some x

/-- Whether a blank, the end of a line or the end of the text comes after `n` characters. -/
def gapAt (c : Cursor) (n : Nat) : Bool := (c.peekAt? n).all fun x => isBlank x || isBreak x

/-- Whether a line or the text ends here. -/
def atLineEnd (c : Cursor) : Bool := c.peek?.all isBreak

/-- Whether the text ends here. -/
def atEnd (c : Cursor) : Bool := c.rest.isEmpty

/-- Whether a blank comes next. -/
def atBlank (c : Cursor) : Bool := c.peek?.any isBlank

/-- Whether a line ends here, and not the text. -/
def atBreak (c : Cursor) : Bool := c.peek?.any isBreak

/-- Passes blanks. -/
def passBlanks (c : Cursor) (n : Nat := 1) : Cursor :=
  { c with rest := c.rest.drop n, column := c.column + n, index := c.index + n }

/-- Passes characters that are no blanks. -/
def pass (c : Cursor) (n : Nat := 1) : Cursor :=
  { c.passBlanks n with leading := c.leading && n == 0 }

/-- Passes the end of a line, which may have two characters. -/
def passBreak (c : Cursor) : Cursor :=
  match c.rest with
  | '\r' :: '\n' :: rest => ⟨rest, c.line + 1, 0, c.index + 2, true⟩
  | _ :: rest => ⟨rest, c.line + 1, 0, c.index + 1, true⟩
  | [] => c

/-- The characters that come next and have a property. -/
def run (c : Cursor) (p : Char → Bool) : List Char := c.rest.takeWhile p

/-- Passes the rest of a line. -/
def passLine (c : Cursor) : Cursor := c.pass (c.run fun x => !isBreak x).length

/-- Whether a line at its start has the mark of a document's start or end. -/
def atDocumentMark (c : Cursor) : Bool :=
  c.column == 0 && c.gapAt 3 &&
    (c.rest.take 3 == ['-', '-', '-'] || c.rest.take 3 == ['.', '.', '.'])

/-- Passes blanks up to the end of the line or to other characters, and a comment, which has a
blank before it. Tells the blanks passed. -/
def passGap? (c : Cursor) (tabs : Bool) : Option (List Char × Cursor) :=
  let blanks := c.run fun x => x == ' ' || (tabs && x == '\t')
  let after := c.passBlanks blanks.length
  if after.peek? == some '#' then
    if blanks.isEmpty then none else some (blanks, after.passLine)
  else some (blanks, after)

/-- The length of what follows. -/
def size (c : Cursor) : Nat := c.rest.length

end Cursor

end Lookout.Yaml
