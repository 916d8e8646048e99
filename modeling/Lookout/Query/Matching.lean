import Lookout.Pattern.Machine
import Lookout.Query.Texts
/-!
Matches of patterns in texts, as values: the matched parts with their positions in characters, and
the parts between the matches.
-/
namespace Lookout.Query.Matching

open Pattern (Options Machine)

/-- What a query asks of a search. -/
structure Search where
  /-- All matches instead of the first one. -/
  everywhere : Bool := false
  /-- Empty matches are left out. -/
  nonempty : Bool := false
  options : Options := {}

/-- The search that flags describe. -/
def Search.ofFlags? (flags : List Char) : Option Search :=
  flags.foldlM (fun search c =>
    match c with
    | 'g' => some { search with everywhere := true }
    | 'n' => some { search with nonempty := true }
    | 'i' => some { search with options := { search.options with ignoreCase := true } }
    | 'x' => some { search with options := { search.options with ignoreBlanks := true } }
    | 's' => some { search with options := { search.options with dotMatchesNewline := true } }
    | 'l' => some { search with options := { search.options with swapGreed := true } }
    | 'p' =>
      some { search with nonempty := true, options := { search.options with dotMatchesNewline := true } }
    | _ => none) {}

/-- The characters between two positions. -/
def cut (text : Array Char) (a b : Nat) : String := String.ofList (text.extract a b).toList

/-- One matched part. -/
def partValue (text : Array Char) (span : Nat × Nat) (name : Option String) : Value :=
  .object ([("offset", .ofNat span.1), ("length", .ofNat (span.2 - span.1)),
    ("string", .string (cut text span.1 span.2))] ++ match name with
      | some name => [("name", .string name)]
      | none => [])

/-- The whole of a match and its groups; groups that took no part are left out. -/
def matchValue (text : Array Char) (names : List (Option String)) (found : Machine.Match) : Value :=
  .array ((found.zip (none :: names)).filterMap fun (span, name) =>
    span.map fun span => partValue text span name)

/-- The matches and the parts between them, as far as each is wanted. -/
def pieces (wantsRest wantsMatches : Bool) (text : Array Char) (names : List (Option String)) :
    (position : Nat) → List Machine.Match → List Value
  | position, [] => if wantsRest then [.string (cut text position text.size)] else []
  | position, found :: rest =>
    let (a, b) := (found.head?.join).getD (position, position)
    (if wantsRest then [.string (cut text position a)] else []) ++
      (if wantsMatches then [matchValue text names found] else []) ++
      pieces wantsRest wantsMatches text names b rest

/-- Searches a text. -/
def search (wantsRest wantsMatches : Bool) (v pattern flags : Value) : Result Value := do
  let text ← v.toStr
  let pattern ← pattern.toStr
  let flags ← flags.toStr
  match Search.ofFlags? flags.toList with
  | none => Result.fail (.told ("invalid regex flag: " ++ flags))
  | some search =>
    match Pattern.parse search.options pattern with
    | .error fault => Result.fail (.told ("invalid regex: " ++ fault.message))
    | .ok (p, names) =>
      let machine := Machine.ofPattern p names
      let chars := text.toList.toArray
      let found := if search.everywhere || search.nonempty then machine.allMatches chars
        else (machine.find? chars 0).toList
      let isWanted (m : Machine.Match) : Bool :=
        match m.head?.join with
        | some (a, b) => !(search.nonempty && a == b)
        | none => false
      let found := found.filter isWanted
      let found := if search.everywhere then found else found.take 1
      return .array (pieces wantsRest wantsMatches chars names 0 found)

end Lookout.Query.Matching
