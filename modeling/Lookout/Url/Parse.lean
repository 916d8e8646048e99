import Lookout.Text.Utf8
import Lookout.Url.Basic
import Lookout.Url.Domain
/-!
Reading addresses. Blanks around an address and line breaks within it do not count; the schemes of
the web forgive missing and turned slashes. Only addresses with a scheme are read.
-/
namespace Lookout.Url

/-- Why a text is no address. -/
inductive ParseError where
  | emptyHost | domainName | port | fourOctets | eightGroups | domainCharacter | relative
  deriving DecidableEq, Repr

/-- The wording of an error. -/
def ParseError.message : ParseError → String
  | emptyHost => "empty host"
  | domainName => "invalid international domain name"
  | port => "invalid port number"
  | fourOctets => "invalid IPv4 address"
  | eightGroups => "invalid IPv6 address"
  | domainCharacter => "invalid domain character"
  | relative => "relative URL without a base"

/-- The scheme at the start of a text, in lower case, and what follows its colon. -/
def scheme? (cs : List Char) : Option (String × List Char) :=
  match cs with
  | c :: _ =>
    if !c.isAlpha then none
    else
      let name := cs.takeWhile fun c => c.isAlphanum || c == '+' || c == '-' || c == '.'
      match cs.drop name.length with
      | ':' :: rest => some (String.ofList (name.map Char.toLower), rest)
      | _ => none
  | [] => none

/-- Whether a character ends an authority. -/
def endsAuthority (isSpecial : Bool) (c : Char) : Bool :=
  c == '/' || c == '?' || c == '#' || (isSpecial && c == '\\')

/-- A user name, a password and what follows them. The last at sign ends them. -/
def readUser (isSpecial : Bool) (cs : List Char) :
    Except ParseError (String × Option String × List Char) :=
  let authority := cs.takeWhile fun c => !endsAuthority isSpecial c
  match authority.reverse.dropWhile (· != '@') with
  | [] => .ok ("", none, cs)
  | _ :: reversed =>
    let info := reversed.reverse
    let rest := cs.drop (info.length + 1)
    if info.isEmpty then
      match rest with
      | c :: _ => if endsAuthority isSpecial c then .error .emptyHost else .ok ("", none, rest)
      | [] => .ok ("", none, [])
    else
      let name := info.takeWhile (· != ':')
      let password := (info.drop name.length).drop 1
      let text (cs : List Char) : String := String.ofList (encode .userinfo cs)
      .ok (text name, if password.isEmpty then none else some (text password), rest)

/-- The characters of a host, which end at a colon outside brackets. -/
def hostChars (isSpecial : Bool) : (inBrackets : Bool) → List Char → List Char
  | _, [] => []
  | inBrackets, c :: rest =>
    if (c == ':' && !inBrackets) || endsAuthority isSpecial c then []
    else if c == '[' then c :: hostChars isSpecial true rest
    else if c == ']' then c :: hostChars isSpecial false rest
    else c :: hostChars isSpecial inBrackets rest

/-- An address of eight groups between brackets, when there is a bracket. -/
def bracketed? (cs : List Char) : Option (Except ParseError Host) :=
  match cs with
  | '[' :: inner =>
    if inner.getLast? == some ']' then
      match Address.groups? inner.dropLast with
      | some list => some (.ok (.groups list))
      | none => some (.error .eightGroups)
    else some (.error .eightGroups)
  | _ => none

/-- The host of an address of the web. -/
def specialHost (cs : List Char) : Except ParseError Host :=
  match bracketed? cs with
  | some r => r
  | none =>
    match Text.decode? (ByteArray.mk (decode (String.ofList cs).toUTF8.toList).toArray) with
    | none => .error .domainName
    | some name =>
      match Domain.toAscii? name.toList with
      | none => .error .domainName
      | some [] => .error .emptyHost
      | some name =>
        if Address.endsInNumber name then
          match Address.octets? name with
          | some n => .ok (.octets n)
          | none => .error .fourOctets
        else .ok (.domain (String.ofList name))

/-- The host of any other address. -/
def otherHost (cs : List Char) : Except ParseError Host :=
  match bracketed? cs with
  | some r => r
  | none =>
    if cs.any fun c => c.toNat == 0 || " #/:<>?@[\\]^|\t\n\r".toList.contains c then
      .error .domainCharacter
    else .ok (.domain (String.ofList (encode .opaquePath cs)))

/-- A port and what follows it. -/
def readPort (scheme : String) (cs : List Char) :
    Except ParseError (Option Nat × List Char) :=
  let digits := cs.takeWhile Char.isDigit
  let rest := cs.drop digits.length
  let port := digits.foldl (fun n d => n * 10 + (d.toNat - 48)) 0
  let isEnd := match rest with
    | c :: _ => c == '/' || c == '\\' || c == '?' || c == '#'
    | [] => true
  if port > 65535 || !isEnd then .error .port
  else if digits.isEmpty || some port == defaultPort? scheme then .ok (none, rest)
  else .ok (some port, rest)

/-- A host, a port and what follows them. -/
def readHost (kind : Kind) (scheme : String) (cs : List Char) :
    Except ParseError (Option Host × Option Nat × List Char) := do
  let isSpecial := kind != .other
  let chars := hostChars isSpecial false cs
  let rest := cs.drop chars.length
  if isSpecial && chars.isEmpty then .error .emptyHost
  let host ← if isSpecial then specialHost chars else otherHost chars
  let isEmpty := host == .domain ""
  match rest with
  | ':' :: more =>
    if isEmpty then .error .emptyHost
    let (port, rest) ← readPort scheme more
    return (some host, port, rest)
  | rest => return (if isEmpty then none else some host, none, rest)

/-- The name of the directory itself. -/
def isSingleDot (s : String) : Bool := s == "." || s == "%2e" || s == "%2E"

/-- The name of the directory above. -/
def isDoubleDot (s : String) : Bool :=
  ["..", "%2e%2e", "%2e%2E", "%2E%2e", "%2E%2E", "%2e.", "%2E.", ".%2e", ".%2E"].contains s

/-- A letter and a colon or a bar. -/
def isDrive (s : String) : Bool :=
  match s.toList with
  | [a, b] => a.isAlpha && (b == ':' || b == '|')
  | _ => false

/-- Segments, the latest first, after one more. The last one stands without a slash behind it. -/
def addSegment (kind : Kind) (reversed : List String) (segment : String) (isLast : Bool) :
    List String :=
  if isDoubleDot segment then
    let shorter := match reversed with
      | [only] => if kind == .file && isDrive only then [only] else []
      | _ :: rest => rest
      | [] => []
    if isLast then "" :: shorter else shorter
  else if isSingleDot segment then
    if isLast then "" :: reversed else reversed
  else if kind == .file && reversed.isEmpty && isDrive segment then
    String.ofList (segment.toList.take 1 ++ [':']) :: reversed
  else segment :: reversed

/-- Reads the segments of a path behind its first slash. -/
def readSegments (kind : Kind) : Nat → List String → List Char → List String
  | 0, reversed, _ => reversed.reverse
  | fuel + 1, reversed, cs =>
    let isEnd (c : Char) : Bool := c == '/' || (kind != .other && c == '\\')
    let segment := cs.takeWhile fun c => !isEnd c
    let text := String.ofList (encode .path segment)
    match cs.drop segment.length with
    | [] => (addSegment kind reversed text true).reverse
    | _ :: rest => readSegments kind fuel (addSegment kind reversed text false) rest

/-- The text before a query or fragment, the query and the fragment. -/
def splitEnd (cs : List Char) : List Char × Option (List Char) × Option (List Char) :=
  let before := cs.takeWhile (· != '#')
  let fragment := match cs.drop before.length with
    | _ :: rest => some rest
    | [] => none
  let path := before.takeWhile (· != '?')
  let query := match before.drop path.length with
    | _ :: rest => some rest
    | [] => none
  (path, query, fragment)

/-- The segments of a path that may begin with a slash. -/
def segmentsOf (kind : Kind) (cs : List Char) : List String :=
  let inner := match cs with
    | c :: rest => if c == '/' || (kind != .other && c == '\\') then rest else cs
    | [] => []
  readSegments kind (inner.length + 1) [] inner

/-- An address from its parts, the rest of the text being a path, a query and a fragment. -/
def finish (kind : Kind) (scheme : String) (hasAuthority : Bool) (username : String)
    (password : Option String) (host : Option Host) (port : Option Nat)
    (path : List Char → Path) (rest : List Char) : Url :=
  let (before, query, fragment) := splitEnd rest
  let queryPart : Part := if kind == .other then .query else .specialQuery
  ⟨scheme, hasAuthority, username, password, host, port, path before,
    query.map fun q => String.ofList (encode queryPart q),
    fragment.map fun f => String.ofList (encode .fragment f)⟩

/-- Reads what follows two slashes. -/
def readAuthority (kind : Kind) (scheme : String) (cs : List Char) : Except ParseError Url := do
  let (username, password, rest) ← readUser (kind != .other) cs
  let (host, port, rest) ← readHost kind scheme rest
  if host.isNone && (!username.isEmpty || password.isSome) then .error .emptyHost
  let path (cs : List Char) : Path :=
    if kind == .other && cs.isEmpty then .segments [] else .segments (segmentsOf kind cs)
  return finish kind scheme true username password host port path rest

/-- The path of a file: slashes at its start count once. -/
def filePath (cs : List Char) : Path :=
  let list := segmentsOf .file cs
  match list.dropWhile String.isEmpty with
  | [] => .segments [""]
  | list => .segments list

/-- Reads the address of a file behind its scheme. -/
def readFile (cs : List Char) : Except ParseError Url :=
  let isSlash (c : Char) : Bool := c == '/' || c == '\\'
  let located (host : Option Host) (rest : List Char) : Url :=
    finish .file "file" true "" none host none filePath rest
  match cs with
  | a :: b :: rest =>
    if isSlash a && isSlash b then
      let chars := rest.takeWhile fun c => !(isSlash c || c == '?' || c == '#')
      if isDrive (String.ofList chars) || chars.isEmpty then
        .ok (located none (if chars.isEmpty then rest.drop chars.length else rest))
      else do
        let host ← specialHost chars
        let host := if host == .domain "localhost" then none else some host
        return located host (rest.drop chars.length)
    else .ok (located none cs)
  | cs => .ok (located none cs)

/-- Reads an address. -/
def parse (text : String) : Except ParseError Url :=
  let isEdge (c : Char) : Bool := c.toNat ≤ 32
  let trimmed := ((text.toList.dropWhile isEdge).reverse.dropWhile isEdge).reverse
  let cs := trimmed.filter fun c => !(c == '\t' || c == '\n' || c == '\r')
  match scheme? cs with
  | none => .error .relative
  | some (scheme, rest) =>
    match kindOf scheme with
    | .file => readFile rest
    | .special => readAuthority .special scheme (rest.dropWhile fun c => c == '/' || c == '\\')
    | .other =>
      match rest with
      | '/' :: '/' :: rest => readAuthority .other scheme rest
      | '/' :: _ =>
        .ok (finish .other scheme false "" none none none
          (fun cs => .segments (segmentsOf .other cs)) rest)
      | rest =>
        .ok (finish .other scheme false "" none none none
          (fun cs => .plain (String.ofList (encode .opaquePath cs))) rest)

end Lookout.Url
