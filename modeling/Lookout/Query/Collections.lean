import Lookout.Query.Access
/-!
Sizes, keys, membership, positions and order of values.
-/
namespace Lookout.Query

namespace Value

/-- The number of characters, items or fields; the magnitude of a number; zero for `null`. -/
def length (v : Value) : Result Value :=
  match v with
  | .null => .ok (.int 0)
  | .bool b => Result.fail (.told ((if b then "true" else "false") ++ " has no length"))
  | .int n => .ok (wholeOr n.natAbs (Float.ofInt n).abs)
  | .float x => .ok (.float x.abs)
  | .numeral text => .ok (.float (floatOfNumeral text).abs)
  | .string s => .ok (.ofNat s.length)
  | .array items => .ok (.ofNat items.length)
  | .object fields => .ok (.ofNat fields.length)

/-- The positions of an array, or the names of the fields of an object in their own order. -/
def keysUnsorted (v : Value) : Result (List Value) :=
  match v with
  | .array items => .ok ((List.range items.length).map .ofNat)
  | .object fields => .ok (fields.map fun f => .string f.1)
  | v => Result.fail (.wrongKind v .iterable)

/-- Whether the second text occurs in the first. -/
def occursIn (needle : List Char) : List Char → Bool
  | [] => needle.isEmpty
  | c :: rest => needle.isPrefixOf (c :: rest) || occursIn needle rest

/-- Whether a value contains another: a text another one, an array for every item of the other an
item that contains it, an object for every field of the other a field that contains it. -/
def contains : Nat → Value → Value → Bool
  | 0, _, _ => false
  | fuel + 1, a, b =>
    match a, b with
    | .string s, .string t => occursIn t.toList s.toList
    | .array xs, .array ys => ys.all fun y => xs.any fun x => contains fuel x y
    | .object xs, .object ys =>
      ys.all fun (k, y) => match getField? k xs with
        | some x => contains fuel x y
        | none => false
    | a, b => same a b

/-- Whether there is an item at a position or a field of a name. -/
def has (v key : Value) : Result Bool :=
  match v, key with
  | .array items, .int i =>
    if i < 0 then Result.fail (.noIndex v key) else .ok (i < items.length)
  | .object fields, .string k => .ok (getField? k fields).isSome
  | v, key => Result.fail (.noIndex v key)

/-- The positions at which a list starts that is equal to the given one. -/
def startsOf (needle : List Value) (position : Nat) : List Value → List Nat
  | [] => []
  | x :: rest =>
    let here := matchesHere needle (x :: rest)
    if here then position :: startsOf needle (position + 1) rest
    else startsOf needle (position + 1) rest
where
  /-- The list starts with the needle. -/
  matchesHere : List Value → List Value → Bool
    | [], _ => true
    | _, [] => false
    | n :: needle, x :: xs => same n x && matchesHere needle xs

/-- The positions, in characters, at which a text occurs. -/
def textStarts (needle : List Char) (position : Nat) : List Char → List Nat
  | [] => []
  | c :: rest =>
    if needle.isPrefixOf (c :: rest) then position :: textStarts needle (position + 1) rest
    else textStarts needle (position + 1) rest

/-- The positions at which a text, an item or a list of items occurs. -/
def indices (v key : Value) : Result (List Nat) :=
  match v, key with
  | .string s, .string t => .ok (if t.isEmpty then [] else textStarts t.toList 0 s.toList)
  | .array xs, .array ys => .ok (if ys.isEmpty then [] else startsOf ys 0 xs)
  | .array xs, key => .ok (startsOf [key] 0 xs)
  | v, key => Result.fail (.noIndex v key)

/-- Looks for a value in a sorted array by halving: its position, or `-1 - i` when it would have to
be inserted at `i`. -/
def searchIn (items : Array Value) (key : Value) : Nat → (lo hi : Nat) → Int
  | 0, lo, _ => -1 - (lo : Int)
  | fuel + 1, lo, hi =>
    if lo ≥ hi then -1 - (lo : Int)
    else
      let mid := lo + (hi - lo) / 2
      match items[mid]? with
      | none => -1 - (lo : Int)
      | some x =>
        match order x key with
        | .eq => mid
        | .lt => searchIn items key fuel (mid + 1) hi
        | .gt => searchIn items key fuel lo mid

/-- Looks for a value in a sorted array. -/
def search (v key : Value) : Result Value := do
  let items ← v.toItems
  return .int (searchIn items.toArray key (items.length + 1) 0 items.length)

mutual

/-- The parts below a value with the paths to them, each before its own parts. -/
def pathsBelow (path : List Value) : Value → List (List Value × Value)
  | .array items => itemPaths path 0 items
  | .object fields => fieldPaths path fields
  | _ => []

/-- The parts of an array from a position on. -/
def itemPaths (path : List Value) (position : Nat) : List Value → List (List Value × Value)
  | [] => []
  | v :: rest =>
    let here := path ++ [.ofNat position]
    (here, v) :: pathsBelow here v ++ itemPaths path (position + 1) rest

/-- The parts of the fields of an object. -/
def fieldPaths (path : List Value) : List (String × Value) → List (List Value × Value)
  | [] => []
  | (k, v) :: rest =>
    let here := path ++ [.string k]
    (here, v) :: pathsBelow here v ++ fieldPaths path rest

end

/-- Sorts by keys; equal keys keep their order. -/
def sortByKeys (keyed : List (List Value × Value)) : List (List Value × Value) :=
  keyed.mergeSort fun a b => atMost (.array a.1) (.array b.1)

/-- Groups neighbours of equal keys. -/
def groupNeighbours : List (List Value × Value) → List (List Value)
  | [] => []
  | (k, v) :: rest =>
    match rest, groupNeighbours rest with
    | (k', _) :: _, group :: groups =>
      if same (.array k) (.array k') then (v :: group) :: groups else [v] :: group :: groups
    | _, _ => [[v]]

/-- The value of the least key, the first of equal ones. -/
def leastByKey : List (List Value × Value) → Option Value
  | [] => none
  | first :: rest =>
    some (rest.foldl (fun best x =>
      if order (.array x.1) (.array best.1) == .lt then x else best) first).2

/-- The value of the greatest key, the last of equal ones. -/
def greatestByKey : List (List Value × Value) → Option Value
  | [] => none
  | first :: rest =>
    some (rest.foldl (fun best x =>
      if order (.array x.1) (.array best.1) == .lt then best else x) first).2

end Value

end Lookout.Query
