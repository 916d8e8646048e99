/-!
Base64 with the standard alphabet. Reading asks for padding and for zero bits after the last octet,
and names the first fault.
-/
namespace Lookout.Text.Base64

/-- The alphabet. -/
def alphabet : Array Char :=
  "ABCDEFGHIJKLMNOPQRSTUVWXYZabcdefghijklmnopqrstuvwxyz0123456789+/".toList.toArray

/-- The character of six bits. -/
def digit (n : Nat) : Char := alphabet.getD (n % 64) 'A'

/-- Three octets as four characters, the last group padded. -/
def encodeList : List UInt8 → List Char
  | a :: b :: c :: rest =>
    let n := a.toNat * 65536 + b.toNat * 256 + c.toNat
    digit (n / 262144) :: digit (n / 4096) :: digit (n / 64) :: digit n :: encodeList rest
  | [a, b] =>
    let n := a.toNat * 65536 + b.toNat * 256
    [digit (n / 262144), digit (n / 4096), digit (n / 64), '=']
  | [a] =>
    let n := a.toNat * 65536
    [digit (n / 262144), digit (n / 4096), '=', '=']
  | [] => []

/-- The text of octets. -/
def encode (bytes : List UInt8) : String := String.ofList (encodeList bytes)

/-- What is wrong with a text that is no base64. -/
inductive Fault where
  | symbol (offset : Nat) (octet : UInt8)
  | length (n : Nat)
  | lastSymbol (offset : Nat) (octet : UInt8)
  | padding
  deriving DecidableEq, Repr

/-- The wording of a fault. -/
def Fault.message : Fault → String
  | symbol offset octet =>
    "Invalid symbol " ++ toString octet.toNat ++ ", offset " ++ toString offset ++ "."
  | length n => "Invalid input length: " ++ toString n
  | lastSymbol offset octet =>
    "Invalid last symbol " ++ toString octet.toNat ++ ", offset " ++ toString offset ++ "."
  | padding => "Invalid padding"

/-- The six bits of a character. -/
def value? (b : UInt8) : Option Nat :=
  let n := b.toNat
  if 65 ≤ n && n ≤ 90 then some (n - 65)
  else if 97 ≤ n && n ≤ 122 then some (n - 71)
  else if 48 ≤ n && n ≤ 57 then some (n + 4)
  else if n == 43 then some 62
  else if n == 47 then some 63
  else none

/-- Reads groups of four characters as long as `groups` says. -/
def readGroups : (groups offset : Nat) → List UInt8 → Except Fault (List UInt8 × Nat × List UInt8)
  | 0, offset, rest => .ok ([], offset, rest)
  | groups + 1, offset, a :: b :: c :: d :: rest => do
    let bits ← [(a, 0), (b, 1), (c, 2), (d, 3)].mapM fun (octet, i) =>
      match value? octet with
      | some n => Except.ok n
      | none => .error (.symbol (offset + i) octet)
    let n := bits.foldl (fun n m => n * 64 + m) 0
    let (more, offset, rest) ← readGroups groups (offset + 4) rest
    return (UInt8.ofNat (n / 65536) :: UInt8.ofNat (n / 256) :: UInt8.ofNat n :: more, offset, rest)
  | _ + 1, offset, rest => .ok ([], offset, rest)

/-- The state while the last group is read. -/
structure Ending where
  bits : List Nat
  paddings : Nat
  firstPadding : Nat
  last : UInt8

/-- Reads the characters of the last group, which may be padded. -/
def readEnding (offset : Nat) : (index : Nat) → Ending → List UInt8 → Except Fault Ending
  | _, e, [] => .ok e
  | index, e, b :: rest =>
    if b == 61 then
      if index < 2 then .error (.symbol (offset + index) b)
      else
        let firstPadding := if e.paddings == 0 then index else e.firstPadding
        readEnding offset (index + 1) ⟨e.bits, e.paddings + 1, firstPadding, e.last⟩ rest
    else if e.paddings > 0 then .error (.symbol (offset + e.firstPadding) 61)
    else
      match value? b with
      | none => .error (.symbol (offset + index) b)
      | some n => readEnding offset (index + 1) ⟨e.bits ++ [n], 0, 0, b⟩ rest

/-- Reads a text. -/
def decode (bytes : List UInt8) : Except Fault (List UInt8) := do
  let count := bytes.length
  let spare := count % 4
  match spare, bytes.getLast? with
  | 1, some last =>
    if last != 61 && (value? last).isNone then throw (.symbol (count - 1) last)
  | _, _ => pure ()
  let groups := if spare == 0 then count / 4 - 1 else count / 4
  let (start, offset, rest) ← readGroups groups 0 bytes
  let e ← readEnding offset 0 ⟨[], 0, 0, 0⟩ rest
  let morsels := e.bits.length
  if count > 0 && morsels < 2 then throw (.length (offset + morsels))
  if (e.paddings + morsels) % 4 != 0 then throw .padding
  let octets := morsels * 6 / 8
  let bits := e.bits.foldl (fun n m => n * 64 + m) 0
  let unused := morsels * 6 - octets * 8
  if bits % Nat.pow 2 unused != 0 then throw (.lastSymbol (offset + morsels - 1) e.last)
  let n := bits / Nat.pow 2 unused
  let final := (List.range octets).map fun i => UInt8.ofNat (n / Nat.pow 256 (octets - 1 - i))
  return start ++ final

end Lookout.Text.Base64
