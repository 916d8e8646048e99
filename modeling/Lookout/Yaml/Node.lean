import Lookout.Decimal.Reading
import Lookout.Yaml.Token
/-!
The nodes of a YAML document. What a plain text stands for is read off the text itself, unless a
tag says otherwise; texts between quotes and in blocks are always texts. Aliases are replaced by
the nodes that they name.
-/
namespace Lookout.Yaml

/-- A node. -/
inductive Node where
  | null
  | bool (b : Bool)
  | int (n : Int)
  /-- A number with a point or an exponent, or a great one, as it is written. -/
  | real (text : String)
  | text (s : String)
  | sequence (items : List Node)
  | mapping (fields : List (Node × Node))
  /-- Something that a tag does not allow, or a node within itself. -/
  | invalid
  deriving Inhabited, BEq

/-! ### Plain texts -/

/-- The value of a digit in a base of at most sixteen. -/
def digitIn? (base : Nat) (c : Char) : Option Nat :=
  match hexValue? c with
  | some d => if d < base then some d else none
  | none => none

/-- The number of digits in a base; there is at least one. -/
def digitsIn? (base : Nat) (cs : List Char) : Option Nat :=
  if cs.isEmpty then none
  else cs.foldlM (fun n c => (digitIn? base c).map (n * base + ·)) 0

/-- A whole number in a base with an optional sign, of 64 bits with a sign. -/
def wholeIn? (base : Nat) (cs : List Char) : Option Int := do
  let n : Int ← match cs with
    | '-' :: rest => (digitsIn? base rest).map fun n => -(n : Int)
    | '+' :: rest => (digitsIn? base rest).map fun n => (n : Int)
    | cs => (digitsIn? base cs).map fun n => (n : Int)
  if -(9223372036854775808) ≤ n && n < 9223372036854775808 then some n else none

/-- The words for numbers that are not finite. -/
def specialNumbers : List String :=
  [".inf", ".Inf", ".INF", "+.inf", "+.Inf", "+.INF", "-.inf", "-.Inf", "-.INF", ".nan", ".NaN",
    ".NAN"]

/-- Whether a text is a number with a point or an exponent. -/
def isReal (s : String) : Bool :=
  specialNumbers.contains s || (s.toList.any Char.isDigit && (Decimal.floatOf? s).isSome)

/-- The whole number behind a mark of its base or a sign. -/
def markedWhole? (cs : List Char) : Option Int :=
  match cs with
  | '0' :: 'x' :: rest => wholeIn? 16 rest
  | '0' :: 'o' :: rest => wholeIn? 8 rest
  | '+' :: rest => wholeIn? 10 rest
  | _ => none

/-- What a plain text stands for. -/
def Node.ofPlain (s : String) : Node :=
  match markedWhole? s.toList with
  | some n => .int n
  | none =>
    if s == "" || s == "~" || s == "null" then .null
    else if s == "true" then .bool true
    else if s == "false" then .bool false
    else
      match wholeIn? 10 s.toList with
      | some n => .int n
      | none => if isReal s then .real s else .text s

/-- What the tags of the standard begin with. -/
def standardStem : String := "tag:yaml.org,2002:"

/-- What a plain text with a tag stands for. -/
def Node.ofTagged (handle suffix s : String) : Node :=
  if handle != standardStem then .text s
  else
    match suffix with
    | "bool" => if s == "true" then .bool true else if s == "false" then .bool false else .invalid
    | "int" =>
      match wholeIn? 10 s.toList with
      | some n => .int n
      | none => .invalid
    | "float" => if isReal s then .real s else .invalid
    | "null" => if s == "~" || s == "null" then .null else .invalid
    | _ => .text s

/-- What a scalar stands for. -/
def Node.ofScalar (plain : Bool) (tag : Option (String × String)) (s : String) : Node :=
  if !plain then .text s
  else
    match tag with
    | some (handle, suffix) => .ofTagged handle suffix s
    | none => .ofPlain s

/-- Keys and values in turn; a key that is invalid does not count. Keys must differ. -/
def pairUp? (key : Node) (done : List (Node × Node)) : List Node → Option (List (Node × Node))
  | [] => some done
  | n :: rest =>
    match key with
    | .invalid => pairUp? n done rest
    | key =>
      if done.any fun (k, _) => k == key then none
      else pairUp? .invalid (done ++ [(key, n)]) rest

/-! ### Reading tokens -/

/-- Tokens being read. -/
structure Reader where
  tokens : List Token
  /-- What the handles of tags stand for. -/
  stems : List (String × String) := []
  /-- The number of the last anchor of each name. -/
  anchors : List (String × Nat) := []
  /-- The nodes of anchors, once they are complete. -/
  nodes : List (Nat × Node) := []
  next : Nat := 1

namespace Reader

/-- The next token. -/
def peek? (r : Reader) : Option Token := r.tokens.head?

/-- Passes a token. -/
def pass (r : Reader) : Reader := { r with tokens := r.tokens.drop 1 }

/-- Whether one of some tokens comes next, or none does. -/
def stopsAt (r : Reader) (list : List Token) : Bool := r.peek?.all list.contains

/-- Takes a new number for an anchor. -/
def addAnchor (r : Reader) (name : String) : Nat × Reader :=
  (r.next, { r with anchors := (name, r.next) :: r.anchors, next := r.next + 1 })

/-- Keeps the node of an anchor. -/
def keep (r : Reader) (anchor : Nat) (n : Node) : Node × Reader :=
  (n, if anchor == 0 then r else { r with nodes := (anchor, n) :: r.nodes })

/-- What the handle of a tag stands for. A handle between two exclamation marks must be known. -/
def resolveTag? (r : Reader) (handle suffix : String) : Option (String × String) :=
  match r.stems.lookup handle with
  | some stem => some (stem, suffix)
  | none =>
    if handle == "!!" then some (standardStem, suffix)
    else if handle.length ≥ 2 && handle.startsWith "!" && handle.endsWith "!" then none
    else some (handle, suffix)

/-- Reads the anchor and the tag before a node, in either order. -/
def readMarks? (r : Reader) : Option (Nat × Option (String × String) × Reader) :=
  match r.peek? with
  | some (.anchor name) =>
    let (id, r) := r.pass.addAnchor name
    match r.peek? with
    | some (.tag handle suffix) => (r.resolveTag? handle suffix).map fun t => (id, some t, r.pass)
    | _ => some (id, none, r)
  | some (.tag handle suffix) =>
    match r.resolveTag? handle suffix with
    | none => none
    | some t =>
      let r := r.pass
      match r.peek? with
      | some (.anchor name) =>
        let (id, r) := r.pass.addAnchor name
        some (id, some t, r)
      | _ => some (0, some t, r)
  | _ => some (0, none, r)

mutual

/-- Reads a node. Blocks are allowed in blocks only, and items without an indentation of their own
in mappings only. -/
def node? (fuel : Nat) (block bare : Bool) (r : Reader) : Option (Node × Reader) :=
  match fuel with
  | 0 => none
  | fuel + 1 =>
    match r.peek? with
    | some (.alias name) =>
      (r.anchors.lookup name).map fun id => ((r.nodes.lookup id).getD .invalid, r.pass)
    | _ => do
      let (anchor, tag, r) ← r.readMarks?
      let sequence (result : List Node × Reader) := result.2.keep anchor (.sequence result.1)
      let mapping (result : List Node × Reader) : Option (Node × Reader) :=
        (pairUp? .invalid [] result.1).map fun fields => result.2.keep anchor (.mapping fields)
      match r.peek? with
      | some (.scalar plain s) => return r.pass.keep anchor (.ofScalar plain tag s)
      | some .flowSequence => return sequence (← flowItems? fuel true [] r.pass)
      | some .flowMapping => mapping (← flowFields? fuel true [] r.pass)
      | some .blockEntry =>
        if bare then return sequence (← bareItems? fuel [] r) else none
      | some .blockSequence =>
        if block then return sequence (← blockItems? fuel [] r.pass) else none
      | some .blockMapping =>
        if block then mapping (← blockFields? fuel [] r.pass) else none
      | _ => if tag.isSome || anchor > 0 then return r.keep anchor (.ofScalar true tag "") else none

/-- Reads a node, or nothing before one of some tokens. -/
def nodeUnless? (fuel : Nat) (block bare : Bool) (stops : List Token) (r : Reader) :
    Option (Node × Reader) :=
  match fuel with
  | 0 => none
  | fuel + 1 => if r.stopsAt stops then some (.null, r) else node? fuel block bare r

/-- Reads the items of a block, the last one first. -/
def blockItems? (fuel : Nat) (done : List Node) (r : Reader) : Option (List Node × Reader) :=
  match fuel with
  | 0 => none
  | fuel + 1 =>
    match r.peek? with
    | some .blockEnd => some (done.reverse, r.pass)
    | some .blockEntry => do
      let (n, r) ← nodeUnless? fuel true false [.blockEntry, .blockEnd] r.pass
      blockItems? fuel (n :: done) r
    | _ => none

/-- Reads items without an indentation of their own. -/
def bareItems? (fuel : Nat) (done : List Node) (r : Reader) : Option (List Node × Reader) :=
  match fuel with
  | 0 => none
  | fuel + 1 =>
    match r.peek? with
    | some .blockEntry => do
      let (n, r) ← nodeUnless? fuel true false [.blockEntry, .key, .value, .blockEnd] r.pass
      bareItems? fuel (n :: done) r
    | _ => some (done.reverse, r)

/-- Reads the keys and values of a block in turn. -/
def blockFields? (fuel : Nat) (done : List Node) (r : Reader) : Option (List Node × Reader) :=
  match fuel with
  | 0 => none
  | fuel + 1 =>
    match r.peek? with
    | some .blockEnd => some (done.reverse, r.pass)
    | some .key => do
      let (k, r) ← nodeUnless? fuel true true [.key, .value, .blockEnd] r.pass
      let (v, r) ← blockValue? fuel r
      blockFields? fuel (v :: k :: done) r
    | some .value => do
      let (v, r) ← blockValue? fuel r
      blockFields? fuel (v :: .null :: done) r
    | _ => none

/-- Reads the value of a key in a block, if it has one. -/
def blockValue? (fuel : Nat) (r : Reader) : Option (Node × Reader) :=
  match fuel with
  | 0 => none
  | fuel + 1 =>
    match r.peek? with
    | some .value => nodeUnless? fuel true true [.key, .value, .blockEnd] r.pass
    | _ => some (.null, r)

/-- Reads items in brackets. -/
def flowItems? (fuel : Nat) (first : Bool) (done : List Node) (r : Reader) :
    Option (List Node × Reader) :=
  match fuel with
  | 0 => none
  | fuel + 1 =>
    match r.peek? with
    | some .flowSequenceEnd => some (done.reverse, r.pass)
    | t => do
      let r ← if first then some r else if t == some .flowEntry then some r.pass else none
      match r.peek? with
      | some .flowSequenceEnd => return (done.reverse, r.pass)
      | some .key =>
        let (n, r) ← flowPair? fuel r.pass
        flowItems? fuel false (n :: done) r
      | _ =>
        let (n, r) ← node? fuel false false r
        flowItems? fuel false (n :: done) r

/-- Reads a key and a value that are an item in brackets. -/
def flowPair? (fuel : Nat) (r : Reader) : Option (Node × Reader) :=
  match fuel with
  | 0 => none
  | fuel + 1 => do
    let stops := [Token.value, .flowEntry, .flowSequenceEnd]
    let (k, r) ← if r.stopsAt stops then some (.null, r.pass) else node? fuel false false r
    let (v, r) ←
      if r.peek? == some .value then
        nodeUnless? fuel false false [.flowEntry, .flowSequenceEnd] r.pass
      else some (.null, r)
    (pairUp? .invalid [] [k, v]).map fun fields => (.mapping fields, r)

/-- Reads keys and values in braces in turn. -/
def flowFields? (fuel : Nat) (first : Bool) (done : List Node) (r : Reader) :
    Option (List Node × Reader) :=
  match fuel with
  | 0 => none
  | fuel + 1 =>
    match r.peek? with
    | some .flowMappingEnd => some (done.reverse, r.pass)
    | t => do
      let r ← if first then some r else if t == some .flowEntry then some r.pass else none
      match r.peek? with
      | some .flowMappingEnd => return (done.reverse, r.pass)
      | some .key =>
        let (k, r) ← nodeUnless? fuel false false [.value, .flowEntry, .flowMappingEnd] r.pass
        let (v, r) ← flowValue? fuel r
        flowFields? fuel false (v :: k :: done) r
      | some .value =>
        let (v, r) ← flowValue? fuel r
        flowFields? fuel false (v :: .null :: done) r
      | _ =>
        let (k, r) ← node? fuel false false r
        flowFields? fuel false (.null :: k :: done) r

/-- Reads the value of a key in braces, if it has one. -/
def flowValue? (fuel : Nat) (r : Reader) : Option (Node × Reader) :=
  match fuel with
  | 0 => none
  | fuel + 1 =>
    match r.peek? with
    | some .value => nodeUnless? fuel false false [.flowEntry, .flowMappingEnd] r.pass
    | _ => some (.null, r)

end

/-- Reads instructions for the whole document; the last one says what a handle stands for. -/
def passInstructions? (versioned : Bool) (stems : List (String × String)) :
    List Token → Option (Bool × List (String × String) × List Token)
  | .versionLine :: rest => if versioned then none else passInstructions? true [] rest
  | .tagLine handle stem :: rest => passInstructions? versioned [(handle, stem)] rest
  | rest => some (versioned, stems, rest)

/-- Whether a token begins instructions. -/
def isInstruction : Token → Bool
  | .versionLine | .tagLine _ _ => true
  | _ => false

/-- Reads the only document; there is none in an empty text. -/
def document? (tokens : List Token) : Option (Option Node) := do
  let tokens := tokens.dropWhile (· == .documentEnd)
  if tokens.isEmpty then return none
  let explicit := tokens.head?.any fun t => isInstruction t || t == .documentStart
  let (_, stems, tokens) ← passInstructions? false [] tokens
  let tokens ←
    if !explicit then some tokens
    else
      match tokens with
      | .documentStart :: rest => some rest
      | _ => none
  let r : Reader := { tokens, stems }
  let isEmpty := explicit &&
    r.peek?.all fun t => isInstruction t || t == .documentStart || t == .documentEnd
  let (n, r) ← if isEmpty then some (.null, r) else node? (4 * tokens.length + 4) true false r
  if (r.tokens.dropWhile (· == .documentEnd)).isEmpty then return some n else none

end Reader

/-- The document of a text, which has at most one. -/
def Node.ofText? (text : String) : Option (Option Node) := do
  Reader.document? (← tokens? text)

end Lookout.Yaml
