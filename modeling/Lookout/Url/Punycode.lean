/-!
Punycode: a text beyond ASCII written with the letters and digits of ASCII. The ASCII characters
come first; then the others in increasing order, as distances in digits of variable weight.
-/
namespace Lookout.Url.Punycode

/-- The character of a digit below 36. -/
def digitChar (d : Nat) : Char := if d < 26 then Char.ofNat (97 + d) else Char.ofNat (48 + d - 26)

/-- The digit of a character. -/
def digit? (c : Char) : Option Nat :=
  let n := c.toNat
  if 97 ≤ n && n ≤ 122 then some (n - 97)
  else if 65 ≤ n && n ≤ 90 then some (n - 65)
  else if 48 ≤ n && n ≤ 57 then some (n - 48 + 26)
  else none

/-- Where digits end at a place, under a bias. -/
def threshold (place bias : Nat) : Nat :=
  if place ≤ bias then 1 else if place ≥ bias + 26 then 26 else place - bias

/-- Divides until the number is small, counting the places. -/
def shrink : Nat → (delta places : Nat) → Nat × Nat
  | 0, delta, places => (delta, places)
  | fuel + 1, delta, places =>
    if delta > 455 then shrink fuel (delta / 35) (places + 36) else (delta, places)

/-- The bias after a distance. -/
def adapt (delta count : Nat) (isFirst : Bool) : Nat :=
  let delta := if isFirst then delta / 700 else delta / 2
  let delta := delta + delta / count
  let (delta, places) := shrink 64 delta 0
  places + 36 * delta / (delta + 38)

/-- The digits of a distance. -/
def digitsOf (bias : Nat) : Nat → (place q : Nat) → List Char
  | 0, _, _ => []
  | fuel + 1, place, q =>
    let t := threshold place bias
    if q < t then [digitChar q]
    else digitChar (t + (q - t) % (36 - t)) :: digitsOf bias fuel (place + 36) ((q - t) / (36 - t))

/-- State of writing: the code reached, the distance since the last character, the bias, how many
characters are written, and the text so far, the latest character first. -/
structure Writing where
  code : Nat
  delta : Nat
  bias : Nat
  handled : Nat
  out : List Char

/-- Writes all characters of the least code that is still to be written. -/
def writeCode (cs : List Nat) (basicCount : Nat) (w : Writing) (m : Nat) : Writing :=
  let start := { w with delta := w.delta + (m - w.code) * (w.handled + 1), code := m }
  let done := cs.foldl (fun (w : Writing) c =>
    if c < m then { w with delta := w.delta + 1 }
    else if c == m then
      { w with
        out := (digitsOf w.bias 64 36 w.delta).reverse ++ w.out
        bias := adapt w.delta (w.handled + 1) (w.handled == basicCount)
        delta := 0
        handled := w.handled + 1 }
    else w) start
  { done with delta := done.delta + 1, code := m + 1 }

/-- The ASCII text of a text. -/
def encode (cs : List Char) : List Char :=
  let codes := cs.map Char.toNat
  let basic := cs.filter fun c => c.toNat < 128
  let others := ((codes.filter (128 ≤ ·)).mergeSort (· ≤ ·)).eraseDups
  let start : Writing :=
    ⟨128, 0, 72, basic.length, if basic.isEmpty then [] else '-' :: basic.reverse⟩
  (others.foldl (writeCode codes basic.length) start).out.reverse

/-- Reads a distance. -/
def readDistance (bias : Nat) : (place weight i : Nat) → List Char → Option (Nat × List Char)
  | _, _, _, [] => none
  | place, weight, i, c :: rest => do
    let d ← digit? c
    let i := i + d * weight
    if i ≥ 4294967296 then none
    let t := threshold place bias
    if d < t then some (i, rest) else readDistance bias (place + 36) (weight * (36 - t)) i rest

/-- Reads distances and puts their characters in place. -/
def readAll : Nat → (code i bias : Nat) → List Nat → List Char → Option (List Nat)
  | 0, _, _, _, _, _ => none
  | _ + 1, _, _, _, out, [] => some out
  | fuel + 1, code, i, bias, out, c :: cs => do
    let (j, rest) ← readDistance bias 36 1 i (c :: cs)
    let count := out.length + 1
    let code := code + j / count
    if !code.isValidChar then none
    let place := j % count
    readAll fuel code (place + 1) (adapt (j - i) count (i == 0)) (out.insertIdx place code) rest

/-- The text of an ASCII text. -/
def decode? (cs : List Char) : Option (List Char) := do
  if !cs.all (·.toNat < 128) then none
  let (basic, rest) : List Char × List Char :=
    match cs.reverse.dropWhile (· != '-') with
    | [] => ([], cs)
    | _ :: before => (before.reverse, cs.drop (before.length + 1))
  let out ← readAll (rest.length + 1) 128 0 72 (basic.map Char.toNat) rest
  return out.map Char.ofNat

end Lookout.Url.Punycode
