import Lookout.Config.Path
/-!
Layers of settings. Each layer is laid over the ones before it: mappings are merged key by key, and
anything else replaces what was there.
-/
namespace Lookout.Config

namespace Tree

/-- The fields of a mapping; anything else has none. -/
def fieldList : Tree → List (String × Tree)
  | fields _ list => list
  | _ => []

/-- The items of a sequence; anything else has none. -/
def itemList : Tree → List Tree
  | items _ list => list
  | _ => []

/-- The source of a mapping; what replaces anything else has none. -/
def fieldOrigin : Tree → Option String
  | fields origin _ => origin
  | _ => none

/-- The source of a sequence; what replaces anything else has none. -/
def itemOrigin : Tree → Option String
  | items origin _ => origin
  | _ => none

/-- The tree at a key, which is nothing before it is set. -/
def childOf (t : Tree) (k : String) : Tree := (t.fieldList.lookup k).getD nothing

/-- The place of an index among `n` items, and how many have to be put before them. -/
def placeOf (n : Nat) (i : Int) : Nat × Nat :=
  if 0 ≤ i then (i.toNat, 0)
  else if -i ≤ n then ((n + i).toNat, 0)
  else (0, (-i).toNat - n)

/-- Items with nothing put before them, and behind them up to a place. -/
def padded (list : List Tree) (place before : Nat) : List Tree :=
  let list := List.replicate before nothing ++ list
  list ++ List.replicate (place + 1 - list.length) nothing

/-- A tree changed at the end of some steps. What is not of the kind that a step needs is replaced
by an empty mapping or sequence. -/
def modifyAt (f : Tree → Tree) : List Step → Tree → Tree
  | [], t => f t
  | .key k :: rest, t =>
    .fields t.fieldOrigin (Json.insertField k (modifyAt f rest (t.childOf k)) t.fieldList)
  | .index i :: rest, t =>
    let (place, before) := placeOf t.itemList.length i
    let list := padded t.itemList place before
    .items t.itemOrigin (list.set place (modifyAt f rest ((list[place]?).getD nothing)))

mutual

/-- A tree laid over another one. -/
def overlay : (upper lower : Tree) → Tree
  | .fields _ list, lower => .fields lower.fieldOrigin (fieldsOver list lower.fieldList)
  | upper, _ => upper

/-- Fields laid over others. -/
def fieldsOver : (upper lower : List (String × Tree)) → List (String × Tree)
  | [], lower => lower
  | (k, t) :: rest, lower =>
    fieldsOver rest (Json.insertField k (overlay t ((lower.lookup k).getD nothing)) lower)

end

/-- A tree laid over another one at the end of some steps. -/
def overAt (path : List Step) (upper lower : Tree) : Tree := modifyAt (overlay upper) path lower

end Tree

/-- Settings by name; names are paths. -/
abbrev Layer := List (String × Tree)

/-- A tree with a layer laid over it. -/
def Layer.overlay (layer : Layer) (t : Tree) : Tree :=
  layer.foldl (fun t (name, upper) => upper.overAt (Path.ofName name) t) t

/-- Layers from the lowest to the highest as one tree. -/
def stack (layers : List Layer) : Tree :=
  layers.foldl (fun t layer => layer.overlay t) (.fields none [])

end Lookout.Config
