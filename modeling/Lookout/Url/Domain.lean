import Lookout.Text.Quoted
import Lookout.Url.Mapping
import Lookout.Url.Punycode
/-!
Domain names as ASCII. Every label is brought to its plain form; one with characters beyond ASCII
is written in Punycode behind a mark.
-/
namespace Lookout.Url.Domain

/-- ASCII characters that no domain name has. -/
def isForbidden (c : Char) : Bool :=
  c.toNat ≤ 32 || c.toNat == 127 || "%#/:<>?@[\\]^|".toList.contains c

/-- Whether a character may stand in a plain label. -/
def isAllowed (c : Char) : Bool :=
  if c.toNat < 128 then !isForbidden c && !c.isUpper
  else
    let n := c.toNat
    n != 0xFFFD && (n == 0x200C || n == 0x200D || !Text.isUnprintable c)

/-- Whether a label in plain form is valid: it does not begin with a mark. -/
def isValidLabel (cs : List Char) : Bool :=
  cs.all isAllowed && !(cs.head?.any Text.isMark)

/-- The mark in front of labels in Punycode. -/
def mark : List Char := ['x', 'n', '-', '-']

/-- A plain label as ASCII. -/
def labelToAscii? (cs : List Char) : Option (List Char) :=
  if mark.isPrefixOf cs then
    match Punycode.decode? (cs.drop 4) with
    | some inner =>
      if !inner.all (·.toNat < 128) && isValidLabel inner && Mapping.plain inner == inner then some cs
      else none
    | none => none
  else if !isValidLabel cs then none
  else if cs.all (·.toNat < 128) then some cs
  else some (mark ++ Punycode.encode cs)

/-- A name cut at its points. -/
def labels (cs : List Char) : List (List Char) :=
  cs.foldr (fun c done =>
    if c == '.' then [] :: done
    else match done with
      | l :: rest => (c :: l) :: rest
      | [] => [[c]]) [[]]

/-- Labels with points between them. -/
def joined : List (List Char) → List Char
  | [] => []
  | [l] => l
  | l :: rest => l ++ '.' :: joined rest

/-- A domain name as ASCII. -/
def toAscii? (cs : List Char) : Option (List Char) := do
  let done ← (labels (Mapping.plain cs)).mapM labelToAscii?
  return joined done

end Lookout.Url.Domain
