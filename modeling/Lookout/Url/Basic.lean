import Lookout.Url.Address
/-!
Addresses of resources in their normal form: every part is kept as it is written, with the
characters that may not stand in it as percent codes.
-/
namespace Lookout

/-- Who serves a resource. -/
inductive Url.Host where
  | domain (name : String)
  | octets (n : Nat)
  | groups (list : List Nat)
  deriving DecidableEq, Repr

/-- The path of a resource. -/
inductive Url.Path where
  /-- Anything but a list of segments. -/
  | plain (text : String)
  /-- Segments with a slash before each. -/
  | segments (list : List String)
  deriving DecidableEq, Repr

/-- The address of a resource. -/
structure Url where
  scheme : String
  /-- Whether two slashes follow the scheme, also without a host. -/
  hasAuthority : Bool
  username : String
  password : Option String
  host : Option Url.Host
  port : Option Nat
  path : Url.Path
  query : Option String
  fragment : Option String
  deriving DecidableEq, Repr

namespace Url

/-- Schemes with rules of their own. -/
inductive Kind where
  | file | special | other
  deriving DecidableEq, Repr

/-- The kind of a scheme. -/
def kindOf (scheme : String) : Kind :=
  if scheme == "file" then .file
  else if ["http", "https", "ws", "wss", "ftp"].contains scheme then .special
  else .other

/-- The port that a scheme uses when none is given. -/
def defaultPort? (scheme : String) : Option Nat :=
  if scheme == "http" || scheme == "ws" then some 80
  else if scheme == "https" || scheme == "wss" then some 443
  else if scheme == "ftp" then some 21
  else none

/-! ### Percent codes -/

/-- The ASCII characters that become percent codes in each part. Controls always do. -/
inductive Part where
  | opaquePath | fragment | query | specialQuery | path | userinfo
  deriving DecidableEq, Repr

/-- The characters beyond controls that become percent codes. -/
def Part.encoded : Part → String
  | opaquePath => ""
  | fragment => " \"<>\x60"
  | query => " \"#<>"
  | specialQuery => " \"#<>'"
  | path => " \"<>\x60#?\x7b\x7d^"
  | userinfo => " \"<>\x60#?\x7b\x7d/:;=@[\\]^|"

/-- An upper-case hexadecimal digit. -/
def upperDigit (n : Nat) : Char := if n < 10 then Char.ofNat (48 + n) else Char.ofNat (55 + n)

/-- The percent codes of a character. -/
def percentCodes (c : Char) : List Char :=
  (String.singleton c).toUTF8.toList.flatMap fun b =>
    ['%', upperDigit (b.toNat / 16), upperDigit (b.toNat % 16)]

/-- A text with percent codes for what may not stand in a part. -/
def encode (part : Part) (cs : List Char) : List Char :=
  let set := part.encoded.toList
  cs.flatMap fun c =>
    if c.toNat < 32 || c.toNat ≥ 127 || set.contains c then percentCodes c else [c]

/-- The value of a hexadecimal digit in ASCII. -/
def octetDigit? (b : UInt8) : Option Nat := Address.hexDigit? (Char.ofNat b.toNat)

/-- Octets with percent codes replaced; a percent sign without two digits stays. -/
def decode : List UInt8 → List UInt8
  | 37 :: a :: b :: rest =>
    match octetDigit? a, octetDigit? b with
    | some x, some y => UInt8.ofNat (x * 16 + y) :: decode rest
    | _, _ => 37 :: decode (a :: b :: rest)
  | b :: rest => b :: decode rest
  | [] => []

/-! ### Text -/

/-- The text of a host. -/
def Host.render : Host → String
  | domain name => name
  | octets n => Address.octetText n
  | groups list => "[" ++ Address.groupText list ++ "]"

/-- The text of a path. -/
def Path.render : Path → String
  | plain text => text
  | segments list => String.join (list.map ("/" ++ ·))

/-- The text of an address. A path that starts with two slashes gets a point before it when there
is no authority. -/
def render (u : Url) : String :=
  let authority :=
    if u.hasAuthority then
      let user := u.username ++ (match u.password with
        | some p => ":" ++ p
        | none => "")
      "//" ++ user ++ (if user.isEmpty then "" else "@") ++
        (match u.host with
          | some h => h.render
          | none => "") ++
        (match u.port with
          | some p => ":" ++ toString p
          | none => "")
    else
      match u.path with
      | .segments ("" :: _ :: _) => "/."
      | _ => ""
  u.scheme ++ ":" ++ authority ++ u.path.render ++
    (match u.query with
      | some q => "?" ++ q
      | none => "") ++
    (match u.fragment with
      | some f => "#" ++ f
      | none => "")

end Url

end Lookout
