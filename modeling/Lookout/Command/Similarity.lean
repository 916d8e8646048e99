/-!
How similar two words are: the mean of the shares of matching characters in both words and of
matching characters that stand in the same order. Characters match only if they are equal and not
far apart.
-/
namespace Lookout.Command

/-- A fraction of natural numbers. -/
structure Share where
  part : Nat
  whole : Nat
  deriving DecidableEq, Repr

/-- Whether a fraction is at most as large as another. -/
def Share.le (a b : Share) : Bool := a.part * b.whole ≤ b.part * a.whole

/-- The first place in a range at which a character stands that has not been matched. -/
def freePlace? (c : Char) (low high : Nat) : (place : Nat) → List (Char × Bool) → Option Nat
  | _, [] => none
  | place, (d, matched) :: rest =>
    if place ≤ high && low ≤ place && !matched && c == d then some place
    else freePlace? c low high (place + 1) rest

/-- Matches the characters of a word in turn with those of another, at most a reach apart. Gives
the characters that found a match, and the other word with its matched characters marked. -/
def matchWith (reach : Nat) : (place : Nat) → List Char → List (Char × Bool) →
    List Char × List (Char × Bool)
  | _, [], other => ([], other)
  | place, c :: rest, other =>
    match freePlace? c (place - reach) (place + reach) 0 other with
    | some found =>
      let (matched, other) :=
        matchWith reach (place + 1) rest (other.modify found fun (d, _) => (d, true))
      (c :: matched, other)
    | none => matchWith reach (place + 1) rest other

/-- The similarity of two words, from zero to one. -/
def similarity (a b : List Char) : Share :=
  if a.isEmpty && b.isEmpty then ⟨1, 1⟩
  else
    let reach := max a.length b.length / 2 - 1
    let (left, marked) := matchWith reach 0 a (b.map fun c => (c, false))
    let right := (marked.filter (·.2)).map (·.1)
    let n := left.length
    let swapped := ((left.zip right).countP fun (x, y) => x != y) / 2
    if n = 0 then ⟨0, 1⟩
    else
      ⟨n * n * b.length + n * n * a.length + (n - swapped) * a.length * b.length,
        3 * a.length * b.length * n⟩

/-- What two words have to exceed to be similar. -/
def similarityBound : Share := ⟨7, 10⟩

/-- The words of a list that are similar to a word, the most similar last. -/
def similarWords (word : String) (list : List String) : List String :=
  let scored := list.map fun w => (similarity word.toList w.toList, w)
  let near := scored.filter fun (s, _) => !s.le similarityBound
  (near.mergeSort fun x y => x.1.le y.1).map (·.2)

end Lookout.Command
