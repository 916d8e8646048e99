import Lookout.Pattern.Syntax
/-!
Matching. A pattern becomes a graph of nodes; all ways through it are followed at once, in order of
preference, so that the first match from the left is found in time proportional to the text.
-/
namespace Lookout.Pattern

/-- A node of the graph, with the numbers of the nodes that follow. -/
inductive Node where
  | accept
  | set (ranges : List (Nat × Nat)) (next : Nat)
  | assertion (a : Assertion) (next : Nat)
  /-- Keeps the position under a number. -/
  | save (slot next : Nat)
  /-- Two ways to go on, the preferred one first. -/
  | fork (first second : Nat)
  deriving Inhabited

/-- Whether a pattern can match without taking a character. -/
def canBeEmpty : Pattern → Bool
  | empty => true
  | set _ => false
  | assertion _ => true
  | sequence l r => l.canBeEmpty && r.canBeEmpty
  | choice l r => l.canBeEmpty || r.canBeEmpty
  | repeated least _ _ p => least == 0 || p.canBeEmpty
  | capture _ p => p.canBeEmpty

/-- A fork that prefers to go on with the body when greedy. -/
def Node.branch (greedy : Bool) (body out : Nat) : Node :=
  if greedy then .fork body out else .fork out body

/-- Adds a node and tells its number. -/
def addNode (node : Node) (nodes : Array Node) : Nat × Array Node := (nodes.size, nodes.push node)

/-- Adds one part as often as given, each copy leading to the next one. -/
def addCopies (body : Nat → Array Node → Nat × Array Node) : Nat → Nat → Array Node →
    Nat × Array Node
  | 0, next, nodes => (next, nodes)
  | n + 1, next, nodes =>
    let (next, nodes) := body next nodes
    addCopies body n next nodes

/-- Adds one part as often as given, each copy with a way past all that follow. -/
def addOptional (greedy : Bool) (out : Nat) (body : Nat → Array Node → Nat × Array Node) :
    Nat → Nat → Array Node → Nat × Array Node
  | 0, next, nodes => (next, nodes)
  | n + 1, next, nodes =>
    let (start, nodes) := body next nodes
    let (next, nodes) := addNode (.branch greedy start out) nodes
    addOptional greedy out body n next nodes

/-- Adds a loop of one or more copies and tells where it starts. -/
def addLoop (greedy : Bool) (next : Nat) (body : Nat → Array Node → Nat × Array Node)
    (nodes : Array Node) : Nat × Array Node :=
  let (loop, nodes) := addNode .accept nodes
  let (start, nodes) := body loop nodes
  (start, nodes.set! loop (.branch greedy start next))

/-- Adds the nodes of a pattern in front of the node `next` and tells where they start. -/
def addTo : Pattern → (next : Nat) → Array Node → Nat × Array Node
  | empty, next, nodes => (next, nodes)
  | set ranges, next, nodes => addNode (.set ranges next) nodes
  | assertion a, next, nodes => addNode (.assertion a next) nodes
  | sequence l r, next, nodes =>
    let (next, nodes) := r.addTo next nodes
    l.addTo next nodes
  | choice l r, next, nodes =>
    let (second, nodes) := r.addTo next nodes
    let (first, nodes) := l.addTo next nodes
    addNode (.fork first second) nodes
  | capture index p, next, nodes =>
    let (next, nodes) := addNode (.save (2 * index + 1) next) nodes
    let (next, nodes) := p.addTo next nodes
    addNode (.save (2 * index) next) nodes
  | repeated least (some most) greedy p, next, nodes =>
    let (start, nodes) := addOptional greedy next (fun n a => p.addTo n a) (most - least) next nodes
    addCopies (fun n a => p.addTo n a) least start nodes
  | repeated 0 none greedy p, next, nodes =>
    if p.canBeEmpty then
      -- a loop around what can be empty keeps the order of preference only as `(p+)?`
      let (start, nodes) := addLoop greedy next (fun n a => p.addTo n a) nodes
      addNode (.branch greedy start next) nodes
    else
      let (loop, nodes) := addNode .accept nodes
      let (start, nodes) := p.addTo loop nodes
      (loop, nodes.set! loop (.branch greedy start next))
  | repeated (least + 1) none greedy p, next, nodes =>
    let (start, nodes) := addLoop greedy next (fun n a => p.addTo n a) nodes
    addCopies (fun n a => p.addTo n a) least start nodes

/-- A pattern ready to be matched. -/
structure Machine where
  nodes : Array Node
  start : Nat
  /-- The names of the groups, of which the first has the number one. -/
  names : List (Option String)

/-- The machine of a pattern. -/
def Machine.ofPattern (p : Pattern) (names : List (Option String)) : Machine :=
  let (start, nodes) := (Pattern.capture 0 p).addTo 0 #[.accept]
  ⟨nodes, start, names⟩

/-! ### Running -/

/-- Whether a character is one of words. -/
def isWordAt (c : Option Char) : Bool :=
  match c with
  | some c => c.isAlphanum || c == '_'
  | none => false

/-- Whether an assertion holds between two characters. -/
def holdsBetween (a : Assertion) (before after : Option Char) : Bool :=
  let l := isWordAt before
  let r := isWordAt after
  match a with
  | .textStart => before.isNone
  | .textEnd => after.isNone
  | .lineStart => before.isNone || before == some '\n'
  | .lineEnd => after.isNone || after == some '\n'
  | .lineStartCrlf =>
    before.isNone || before == some '\n' || (before == some '\r' && after != some '\n')
  | .lineEndCrlf =>
    after.isNone || after == some '\r' || (after == some '\n' && before != some '\r')
  | .wordBoundary => l != r
  | .notWordBoundary => l == r
  | .wordStart => !l && r
  | .wordEnd => l && !r
  | .wordStartHalf => !l
  | .wordEndHalf => !r

/-- The positions kept so far, by slot. -/
abbrev Slots := Array (Option Nat)

/-- A way through the graph: the node that it has reached and the positions that it has kept. -/
abbrev Thread := Nat × Slots

/-- Whether a number lies in one of the ranges. -/
def inSet (ranges : List (Nat × Nat)) (n : Nat) : Bool := ranges.any fun (a, b) => a ≤ n && n ≤ b

/-- Follows the nodes that take no character. The work list holds what is still to be followed, and
each node is reached at most once, so twice the number of nodes bounds the steps. -/
def follow (nodes : Array Node) (before after : Option Char) (position : Nat) :
    Nat → List Thread → (seen : Array Bool) → List Thread → Array Bool × List Thread
  | 0, _, seen, done => (seen, done)
  | _, [], seen, done => (seen, done)
  | fuel + 1, (n, slots) :: work, seen, done =>
    if seen.getD n true then follow nodes before after position fuel work seen done
    else
      let seen := seen.set! n true
      match nodes.getD n .accept with
      | .accept => follow nodes before after position fuel work seen ((n, slots) :: done)
      | .set _ _ => follow nodes before after position fuel work seen ((n, slots) :: done)
      | .assertion a next =>
        let work := if holdsBetween a before after then (next, slots) :: work else work
        follow nodes before after position fuel work seen done
      | .save slot next =>
        follow nodes before after position fuel
          ((next, slots.set! slot (some position)) :: work) seen done
      | .fork first second =>
        follow nodes before after position fuel ((first, slots) :: (second, slots) :: work) seen done

/-- The threads behind a character, up to the first one that accepts. -/
def advance (nodes : Array Node) (c : Option Char) : List Thread → List Thread × Option Slots
  | [] => ([], none)
  | (n, slots) :: rest =>
    match nodes.getD n .accept with
    | .accept => ([], some slots)
    | .set ranges next =>
      let (threads, found) := advance nodes c rest
      match c with
      | some c => if inSet ranges c.toNat then ((next, slots) :: threads, found) else (threads, found)
      | none => (threads, found)
    | _ => advance nodes c rest

namespace Machine

/-- Searches from a position on. Threads start at every position until a match is found. -/
def searchFrom (m : Machine) (before : Option Char) (position : Nat) (found : Option Slots)
    (threads : List Thread) (cs : List Char) : Option Slots :=
  let fresh : Slots := Array.replicate (2 * (m.names.length + 1)) none
  let threads := if found.isNone then threads ++ [(m.start, fresh)] else threads
  if threads.isEmpty then found
  else
    let fuel := 3 * m.nodes.size + threads.length + 1
    let (_, reached) :=
      follow m.nodes before cs.head? position fuel threads (Array.replicate m.nodes.size false) []
    let (next, accepted) := advance m.nodes cs.head? reached.reverse
    let found := accepted.or found
    match cs with
    | [] => found
    | c :: rest => m.searchFrom (some c) (position + 1) found next rest

/-- A match: where the whole and each group start and end. -/
abbrev Match := List (Option (Nat × Nat))

/-- The parts of a match. -/
def spans (slots : Slots) : Match :=
  (List.range (slots.size / 2)).map fun i =>
    match slots.getD (2 * i) none, slots.getD (2 * i + 1) none with
    | some a, some b => some (a, b)
    | _, _ => none

/-- The first match from a position on. -/
def find? (m : Machine) (text : Array Char) (position : Nat) : Option Match :=
  let before := if position == 0 then none else text[position - 1]?
  (m.searchFrom before position none [] (text.toList.drop position)).map spans

/-- All matches in turn. An empty match right behind the match before is passed over. -/
def findAll (m : Machine) (text : Array Char) : Nat → (position : Nat) → (lastEnd : Option Nat) →
    List Match
  | 0, _, _ => []
  | fuel + 1, position, lastEnd =>
    if position > text.size then []
    else
      match m.find? text position with
      | none => []
      | some found =>
        match found.head?.join with
        | none => []
        | some (a, b) =>
          if a == b && lastEnd == some b then findAll m text fuel (position + 1) lastEnd
          else found :: findAll m text fuel b (some b)

/-- All matches that do not overlap. -/
def allMatches (m : Machine) (text : Array Char) : List Match :=
  m.findAll text (2 * text.size + 3) 0 none

end Machine

end Lookout.Pattern
