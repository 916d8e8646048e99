import Lookout.Config.Tree
/-!
Paths written as text: keys with points between them and indices in brackets, as in
`crawls[0].name`.
-/
namespace Lookout.Config.Path

/-- The characters of keys in paths. -/
def isKeyChar (c : Char) : Bool := c.isAlphanum || c == '_' || c == '-'

/-- A key at the start of a text, and what follows it. -/
def key? (cs : List Char) : Option (String × List Char) :=
  match cs.takeWhile isKeyChar, cs.dropWhile isKeyChar with
  | [], _ => none
  | name, rest => some (String.ofList name, rest)

/-- Blanks within a line. -/
def skipBlanks (cs : List Char) : List Char := cs.dropWhile fun c => c == ' ' || c == '\t'

/-- The number of decimal digits. -/
def natOf (cs : List Char) : Nat := cs.foldl (fun n c => n * 10 + (c.toNat - 48)) 0

/-- An index of 64 bits with a sign, which may have blanks around it, up to its closing bracket. -/
def index? (cs : List Char) : Option (Int × List Char) :=
  let cs := skipBlanks cs
  let negative := cs.head? == some '-'
  let cs := if negative then cs.drop 1 else cs
  let digits := cs.takeWhile Char.isDigit
  let n : Int := if negative then -(natOf digits : Int) else natOf digits
  match skipBlanks (cs.dropWhile Char.isDigit) with
  | ']' :: rest =>
    if digits.isEmpty || n < -(9223372036854775808) || 9223372036854775808 ≤ n then none else some (n, rest)
  | _ => none

/-- The steps that follow a key. -/
def steps? : (fuel : Nat) → List Char → Option (List Step)
  | _, [] => some []
  | 0, _ => none
  | fuel + 1, '.' :: rest => do
    let (name, rest) ← key? rest
    return .key name :: (← steps? fuel rest)
  | fuel + 1, '[' :: rest => do
    let (i, rest) ← index? rest
    return .index i :: (← steps? fuel rest)
  | _ + 1, _ => none

/-- Reads a path. -/
def read? (text : String) : Option (List Step) := do
  let (name, rest) ← key? text.toList
  return .key name :: (← steps? rest.length rest)

/-- The path that a name of a setting stands for: a name that is no path is a key as a whole. -/
def ofName (name : String) : List Step := (read? name).getD [.key name]

end Lookout.Config.Path
