import Lookout.Query.Access
import Lookout.Text.Base64
import Lookout.Text.Blank
import Lookout.Text.Utf8
/-!
Operations on texts: characters and their codes, ends, and the encodings that formats use.
-/
namespace Lookout.Query.Texts

/-- The codes of the characters. -/
def explode (v : Value) : Result Value := do
  let s ← v.toStr
  return .array (s.toList.map fun c => .ofNat c.toNat)

/-- The character of a code. -/
def charOf (v : Value) : Result Char := do
  let n ← v.toInt
  if n < 0 || 4294967296 ≤ n then
    Result.fail (.told ("number too " ++ (if n < 0 then "small" else "large") ++
      " to fit in target type"))
  else if n.toNat < 0xD800 || (0xDFFF < n.toNat && n.toNat < 0x110000) then
    return Char.ofNat n.toNat
  else Result.fail (.told ("cannot use " ++ toString n ++ " as character"))

/-- The text of the characters of codes. -/
def implode (v : Value) : Result Value := do
  let items ← v.toItems
  let cs ← items.mapM charOf
  return .string (String.ofList cs)

/-- Applies a function to the characters of a text. -/
def onChars (f : List Char → List Char) (v : Value) : Result Value := do
  let s ← v.toStr
  return .string (String.ofList (f s.toList))

/-- Without a beginning, when the text has it. -/
def dropStart (v part : Value) : Result Value := do
  let s ← v.toStr
  let t ← part.toStr
  if t.toList.isPrefixOf s.toList then
    return .string (String.ofList (s.toList.drop t.length))
  else return v

/-- Without an end, when the text has it. -/
def dropEnd (v part : Value) : Result Value := do
  let s ← v.toStr
  let t ← part.toStr
  if t.toList.isSuffixOf s.toList then
    return .string (String.ofList (s.toList.take (s.length - t.length)))
  else return v

/-- Whether the text has a beginning. -/
def startsWith (v part : Value) : Result Value := do
  let s ← v.toStr
  let t ← part.toStr
  return .bool (t.toList.isPrefixOf s.toList)

/-- Whether the text has an end. -/
def endsWith (v part : Value) : Result Value := do
  let s ← v.toStr
  let t ← part.toStr
  return .bool (t.toList.isSuffixOf s.toList)

/-- The parts between occurrences of a separator. -/
def split (v separator : Value) : Result Value :=
  match v, separator with
  | .string s, .string t => .ok (.array ((splitText s t).map .string))
  | _, _ => Result.fail (.told "split input and separator must be strings")

/-- Texts with a separator between them. -/
def join (v separator : Value) : Result Value := do
  let items ← v.toItems
  let t ← separator.toStr
  let texts ← items.mapM Value.toStr
  return .string (t.intercalate texts)

/-- The text of octets, which have to be UTF-8. -/
def ofOctets (bytes : List UInt8) : Result Value :=
  match Text.decode? (ByteArray.mk bytes.toArray) with
  | some s => .ok (.string s)
  | none =>
    let wording := match Text.Utf8.firstBroken 0 0 bytes with
      | some (position, some n) =>
        "invalid utf-8 sequence of " ++ toString n ++ " bytes from index " ++ toString position
      | some (position, none) =>
        "incomplete utf-8 byte sequence from index " ++ toString position
      | none => "invalid utf-8"
    Result.fail (.told wording)

/-- The base64 text of a text. -/
def encodeBase64 (v : Value) : Result Value := do
  let s ← v.toStr
  return .string (Text.Base64.encode s.toUTF8.toList)

/-- The text of a base64 text. -/
def decodeBase64 (v : Value) : Result Value := do
  let s ← v.toStr
  match Text.Base64.decode s.toUTF8.toList with
  | .ok bytes => ofOctets bytes
  | .error fault => Result.fail (.told fault.message)

/-- A character as markup shows it. -/
def escapeMarkup (c : Char) : List Char :=
  if c == '<' then "&lt;".toList
  else if c == '>' then "&gt;".toList
  else if c == '&' then "&amp;".toList
  else if c == '\'' then "&apos;".toList
  else if c == '"' then "&quot;".toList
  else [c]

/-- An upper-case hexadecimal digit. -/
def upperHex (n : Nat) : Char := if n < 10 then Char.ofNat (48 + n) else Char.ofNat (55 + n)

/-- Octets that stand for themselves in an address. -/
def isUnreserved (b : UInt8) : Bool :=
  let n := b.toNat
  (48 ≤ n && n ≤ 57) || (65 ≤ n && n ≤ 90) || (97 ≤ n && n ≤ 122) ||
    n == 45 || n == 46 || n == 95 || n == 126

/-- The text with a percent sign and two digits for every octet that is not unreserved. -/
def encodeUri (v : Value) : Result Value := do
  let s ← v.toStr
  let cs := s.toUTF8.toList.flatMap fun b =>
    if isUnreserved b then [Char.ofNat b.toNat]
    else ['%', upperHex (b.toNat / 16), upperHex (b.toNat % 16)]
  return .string (String.ofList cs)

/-- The value of a hexadecimal digit. -/
def hexOctet? (b : UInt8) : Option Nat :=
  let n := b.toNat
  if 48 ≤ n && n ≤ 57 then some (n - 48)
  else if 65 ≤ n && n ≤ 70 then some (n - 55)
  else if 97 ≤ n && n ≤ 102 then some (n - 87)
  else none

/-- Octets with their percent codes replaced; a percent sign without two digits stays. -/
def percentDecode : List UInt8 → List UInt8
  | 37 :: a :: b :: rest =>
    match hexOctet? a, hexOctet? b with
    | some x, some y => UInt8.ofNat (x * 16 + y) :: percentDecode rest
    | _, _ => 37 :: percentDecode (a :: b :: rest)
  | b :: rest => b :: percentDecode rest
  | [] => []

/-- The text with its percent codes replaced. -/
def decodeUri (v : Value) : Result Value := do
  let s ← v.toStr
  ofOctets (percentDecode s.toUTF8.toList)

/-- The text between double quotes, those inside it doubled. -/
def escapeCsv (cs : List Char) : List Char :=
  '"' :: cs.flatMap (fun c => if c == '"' then ['"', '"'] else [c]) ++ ['"']

/-- The text between single quotes, those inside it closed, escaped and opened again. -/
def escapeShell (cs : List Char) : List Char :=
  '\'' :: cs.flatMap (fun c => if c == '\'' then ['\'', '\\', '\'', '\''] else [c]) ++ ['\'']

/-- A character between tabs. -/
def escapeTab (c : Char) : List Char :=
  if c == '\t' then ['\\', 't'] else if c == '\n' then ['\\', 'n']
  else if c == '\r' then ['\\', 'r'] else if c == '\\' then ['\\', '\\'] else [c]

end Lookout.Query.Texts
