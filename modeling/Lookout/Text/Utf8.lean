/-!
UTF-8 octets as text. `Symbol.ofOctets` keeps each octet that is no part of a character, so that a
reader can say where it stands; `decodeLossy` puts U+FFFD for each stretch that is cut short or
cannot continue.
-/
namespace Lookout.Text

/-- One piece of an octet sequence read as UTF-8: a character, or an octet that belongs to none. -/
inductive Symbol where
  | char (c : Char)
  | stray
  deriving DecidableEq, Repr, Inhabited

namespace Symbol

/-- How many octets a symbol takes. -/
def size : Symbol → Nat
  | char c => c.utf8Size
  | stray => 1

/-- The symbols of a text, which has no strays. -/
def ofString (s : String) : List Symbol := s.toList.map .char

end Symbol

namespace Utf8

/-- A continuation octet. -/
def isTail (b : UInt8) : Bool := 0x80 ≤ b && b ≤ 0xBF

/-- The range of the second octet after each leading octet of three or four. -/
def secondRange (lead : UInt8) : UInt8 × UInt8 :=
  if lead == 0xE0 then (0xA0, 0xBF)
  else if lead == 0xED then (0x80, 0x9F)
  else if lead == 0xF0 then (0x90, 0xBF)
  else if lead == 0xF4 then (0x80, 0x8F)
  else (0x80, 0xBF)

/-- Whether `second` may follow `lead`. -/
def fits (lead second : UInt8) : Bool :=
  let range := secondRange lead
  range.1 ≤ second && second ≤ range.2

/-- The low six bits of a continuation octet. -/
def low (b : UInt8) : Nat := b.toNat % 64

/-- What stands at the head of an octet sequence: a character with what follows it, or a stretch of
octets that begins none. The count is that of the octets taken, at least one. -/
inductive Head where
  | char (c : Char) (taken : Nat)
  | broken (taken : Nat)

/-- Reads the first character of `lead :: rest`. A broken stretch is the longest one that could
still have become a character. -/
def head (lead : UInt8) (rest : List UInt8) : Head :=
  if lead < 0x80 then .char (Char.ofNat lead.toNat) 1
  else if lead < 0xC2 then .broken 1
  else if lead < 0xE0 then
    match rest with
    | b :: _ =>
      if isTail b then .char (Char.ofNat ((lead.toNat % 32) * 64 + low b)) 2 else .broken 1
    | [] => .broken 1
  else if lead < 0xF0 then
    match rest with
    | b :: c :: _ =>
      if !fits lead b then .broken 1
      else if !isTail c then .broken 2
      else .char (Char.ofNat ((lead.toNat % 16) * 4096 + low b * 64 + low c)) 3
    | b :: [] => if fits lead b then .broken 2 else .broken 1
    | [] => .broken 1
  else if lead < 0xF5 then
    match rest with
    | b :: c :: d :: _ =>
      if !fits lead b then .broken 1
      else if !isTail c then .broken 2
      else if !isTail d then .broken 3
      else .char (Char.ofNat ((lead.toNat % 8) * 262144 + low b * 4096 + low c * 64 + low d)) 4
    | b :: c :: [] =>
      if !fits lead b then .broken 1 else if !isTail c then .broken 2 else .broken 3
    | b :: [] => if fits lead b then .broken 2 else .broken 1
    | [] => .broken 1
  else .broken 1

/-- Every octet in turn, `skip` of them already used by the character before. -/
def symbolsFrom : Nat → List UInt8 → List Symbol
  | _, [] => []
  | skip + 1, _ :: rest => symbolsFrom skip rest
  | 0, b :: rest =>
    match head b rest with
    | .char c taken => .char c :: symbolsFrom (taken - 1) rest
    | .broken _ => .stray :: symbolsFrom 0 rest

/-- Characters in turn, one U+FFFD for each broken stretch. -/
def lossyFrom : Nat → List UInt8 → List Char
  | _, [] => []
  | skip + 1, _ :: rest => lossyFrom skip rest
  | 0, b :: rest =>
    match head b rest with
    | .char c taken => c :: lossyFrom (taken - 1) rest
    | .broken taken => '\uFFFD' :: lossyFrom (taken - 1) rest

/-- Where the first broken stretch begins, and how many octets it has: none when it is only cut
short by the end of the input. -/
def firstBroken : (position skip : Nat) → List UInt8 → Option (Nat × Option Nat)
  | _, _, [] => none
  | position, skip + 1, _ :: rest => firstBroken (position + 1) skip rest
  | position, 0, b :: rest =>
    match head b rest with
    | .char _ taken => firstBroken (position + 1) (taken - 1) rest
    | .broken taken =>
      let unfinished := taken > rest.length && 0xC2 ≤ b && b < 0xF5
      some (position, if unfinished then none else some taken)

end Utf8

/-- The symbols of an octet sequence. -/
def Symbol.ofOctets (bytes : ByteArray) : List Symbol := Utf8.symbolsFrom 0 bytes.toList

/-- The text of an octet sequence, with U+FFFD for each broken stretch. -/
def decodeLossy (bytes : ByteArray) : String := String.ofList (Utf8.lossyFrom 0 bytes.toList)

/-- The text of an octet sequence that is well-formed UTF-8. -/
def decode? (bytes : ByteArray) : Option String := String.fromUTF8? bytes

end Lookout.Text
