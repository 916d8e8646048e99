/-!
Numerical addresses of hosts: four octets with points between them, or eight groups of sixteen bits
with colons.
-/
namespace Lookout.Url.Address

/-- A text cut at a character. -/
def cutAt (mark : Char) (cs : List Char) : List (List Char) :=
  cs.foldr (fun c done =>
    if c == mark then [] :: done
    else match done with
      | l :: rest => (c :: l) :: rest
      | [] => [[c]]) [[]]

/-- The value of a hexadecimal digit. -/
def hexDigit? (c : Char) : Option Nat :=
  let n := c.toNat
  if 48 ≤ n && n ≤ 57 then some (n - 48)
  else if 65 ≤ n && n ≤ 70 then some (n - 55)
  else if 97 ≤ n && n ≤ 102 then some (n - 87)
  else none

/-- The number of digits of a base. -/
def digitsOf? (base : Nat) (cs : List Char) : Option Nat :=
  cs.foldlM (fun n c => do
    let d ← hexDigit? c
    if d < base then some (n * base + d) else none) 0

/-- A part of an address of four octets: decimal, or octal after a zero, or hexadecimal after `0x`.
-/
def part? (cs : List Char) : Option Nat :=
  match cs with
  | [] => none
  | '0' :: x :: rest => if x == 'x' || x == 'X' then digitsOf? 16 rest else digitsOf? 8 (x :: rest)
  | cs => digitsOf? 10 cs

/-- Whether a name means an address of four octets: its last part is a number. -/
def endsInNumber (cs : List Char) : Bool :=
  let final := match (cutAt '.' cs).reverse with
    | [] :: final :: _ => final
    | [] :: [] => []
    | final :: _ => final
    | [] => []
  (!final.isEmpty && final.all Char.isDigit) || (part? final).isSome

/-- The address that parts make. The last part takes all octets that are left. -/
def ofParts? (parts : List Nat) : Option Nat :=
  match parts.reverse with
  | [] => none
  | final :: before =>
    if before.length > 3 || before.any (· > 255) || final ≥ Nat.pow 256 (4 - before.length) then none
    else some (((before.reverse.zip (List.range 4)).foldl (fun n (p, i) => n + p * Nat.pow 256 (3 - i)) 0)
      + final)

/-- The address of four octets that a name means. -/
def octets? (cs : List Char) : Option Nat := do
  let parts := cutAt '.' cs
  let parts := if parts.getLast? == some [] then parts.dropLast else parts
  ofParts? (← parts.mapM part?)

/-- The text of an address of four octets. -/
def octetText (n : Nat) : String :=
  toString (n / 16777216 % 256) ++ "." ++ toString (n / 65536 % 256) ++ "." ++
    toString (n / 256 % 256) ++ "." ++ toString (n % 256)

/-- Groups read so far, and how many of them stand before a double colon. -/
structure Groups where
  list : List Nat
  gap : Option Nat

/-- A decimal octet without a leading zero. -/
def strictOctet? (cs : List Char) : Option Nat :=
  match cs with
  | [] => none
  | ['0'] => some 0
  | '0' :: _ => none
  | cs =>
    if cs.length ≤ 3 && cs.all Char.isDigit then
      (digitsOf? 10 cs).bind fun n => if n ≤ 255 then some n else none
    else none

/-- The two groups of four octets at the end of an address. -/
def embedded? (cs : List Char) : Option (Nat × Nat) :=
  match (cutAt '.' cs).mapM strictOctet? with
  | some [a, b, c, d] => some (a * 256 + b, c * 256 + d)
  | _ => none

/-- Reads groups from where one may start. -/
def readGroups : Nat → Groups → List Char → Option Groups
  | 0, _, _ => none
  | fuel + 1, g, cs =>
    match cs with
    | [] => some g
    | ':' :: rest =>
      if g.gap.isSome then none else readGroups fuel { g with gap := some g.list.length } rest
    | cs =>
      let digits := (cs.takeWhile fun c => (hexDigit? c).isSome).take 4
      let rest := cs.drop digits.length
      match rest with
      | '.' :: _ =>
        if digits.isEmpty then none
        else (embedded? cs).map fun (a, b) => { g with list := g.list ++ [a, b] }
      | [] => (digitsOf? 16 digits).map fun n => { g with list := g.list ++ [n] }
      | ':' :: [] => none
      | ':' :: rest =>
        if digits.isEmpty then none
        else do
          let n ← digitsOf? 16 digits
          readGroups fuel { g with list := g.list ++ [n] } rest
      | _ => none

/-- The eight groups that a text means. -/
def groups? (cs : List Char) : Option (List Nat) := do
  let (start, cs) : Groups × List Char ← match cs with
    | ':' :: ':' :: rest => some (⟨[], some 0⟩, rest)
    | ':' :: _ => none
    | [] => none
    | cs => some (⟨[], none⟩, cs)
  let g ← readGroups (cs.length + 1) start cs
  match g.gap with
  | some n =>
    if g.list.length > 7 then none
    else some (g.list.take n ++ List.replicate (8 - g.list.length) 0 ++ g.list.drop n)
  | none => if g.list.length == 8 then some g.list else none

/-- Where the longest run of zeros starts and how long it is, the first of equally long ones. -/
def longestRun (groups : List Nat) : Nat × Nat :=
  (List.range groups.length).foldl (fun best i =>
    let n := ((groups.drop i).takeWhile (· == 0)).length
    if n > best.2 then (i, n) else best) (0, 0)

/-- A number in hexadecimal digits. -/
def hexText (n : Nat) : String := String.ofList (Nat.toDigits 16 n)

/-- The text of eight groups; the longest run of more than one zero becomes a double colon. -/
def groupText (groups : List Nat) : String :=
  let (start, count) := longestRun groups
  if count > 1 then
    ":".intercalate ((groups.take start).map hexText) ++ "::" ++
      ":".intercalate ((groups.drop (start + count)).map hexText)
  else ":".intercalate (groups.map hexText)

end Lookout.Url.Address
