/-!
Text for chats in which punctuation is markup. Every special character gets a backslash in front;
what does not fit a limit of characters is cut off, never between a backslash and its character.
-/
namespace Lookout.Alert.Markdown

/-- The characters that are markup unless a backslash stands in front. -/
def isSpecial (c : Char) : Bool := "_*[]()~\x60>#+-=|\x7b\x7d.!\\".toList.contains c

/-- How many characters one character takes when it is written. -/
def width (c : Char) : Nat := if isSpecial c then 2 else 1

/-- The written form of one character. -/
def escapeChar (c : Char) : List Char := if isSpecial c then ['\\', c] else [c]

/-- The written form of a text, up to the first character that would pass the limit. -/
def escape : (limit : Nat) → List Char → List Char
  | _, [] => []
  | limit, c :: rest =>
    if width c ≤ limit then escapeChar c ++ escape (limit - width c) rest else []

/-- Reads a written text back. There is none for a special character without its backslash and for
a backslash without a special character. -/
def unescape? : List Char → Option (List Char)
  | [] => some []
  | '\\' :: c :: rest => if isSpecial c then (unescape? rest).map (c :: ·) else none
  | c :: rest => if isSpecial c then none else (unescape? rest).map (c :: ·)

end Lookout.Alert.Markdown
