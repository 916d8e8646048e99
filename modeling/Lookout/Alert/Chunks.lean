/-!
Long texts cut into chunks of bounded length, behind the last line break that fits, or else at the
bound.
-/
namespace Lookout.Alert.Chunks

/-- The number of characters up to and with the last line break; none without a line break. -/
def lineLength (cs : List Char) : Nat := (cs.reverse.dropWhile (· != '\n')).length

/-- Where a text that is too long is cut. A line break that comes first does not count. -/
def cutPoint (limit : Nat) (cs : List Char) : Nat :=
  let n := lineLength (cs.take limit)
  if n > 1 then n else limit

theorem lineLength_le (cs : List Char) : lineLength cs ≤ cs.length := by
  have h : (cs.reverse.dropWhile (· != '\n')).length ≤ cs.reverse.length :=
    (List.dropWhile_sublist _).length_le
  rw [List.length_reverse] at h
  exact h

/-- A cut takes at least one character and at most as many as the limit says. -/
theorem cutPoint_bounds (limit : Nat) (cs : List Char) (h : 0 < limit) :
    0 < cutPoint limit cs ∧ cutPoint limit cs ≤ limit := by
  have hl := lineLength_le (cs.take limit)
  have ht : (cs.take limit).length ≤ limit := List.length_take_le limit cs
  unfold cutPoint
  simp only
  split <;> omega

/-- The chunks of a text, for a limit of at least one character. A text that fits is one chunk. -/
def split (limit : Nat) (cs : List Char) : List (List Char) :=
  if _h : 0 < limit ∧ limit < cs.length then
    cs.take (cutPoint limit cs) :: split limit (cs.drop (cutPoint limit cs))
  else [cs]
termination_by cs.length
decreasing_by
  have := cutPoint_bounds limit cs ‹0 < limit ∧ limit < cs.length›.1
  simp only [List.length_drop]
  omega

end Lookout.Alert.Chunks
