import Lookout.Alert.Delivery
import Mathlib.Data.List.TakeWhile
/-!
Chunks of long texts: they join to the text, each fits the limit, and each ends as late as a line break
or the limit allows, so that no two neighbours fit one chunk.
-/
namespace Lookout.Alert.Chunks

variable {limit m n : Nat} {cs chunk : List Char} {chunks : List (List Char)}

/-! ### Where a text is cut -/

/-- A text is its lines up to the last line break, and what follows that. -/
theorem exists_lines (cs : List Char) : ∃ lines last, cs = lines ++ last ∧
    lines.length = lineLength cs ∧ '\n' ∉ last ∧ (lines ≠ [] → lines.getLast? = some '\n') := by
  have hParts := List.takeWhile_append_dropWhile (p := (· != '\n')) (l := cs.reverse)
  refine ⟨(cs.reverse.dropWhile (· != '\n')).reverse, (cs.reverse.takeWhile (· != '\n')).reverse,
    ?_, List.length_reverse, fun hLast => ?_, fun hLines => ?_⟩
  · rw [← List.reverse_append, hParts, List.reverse_reverse]
  · have hBreak := List.mem_takeWhile_imp (List.mem_reverse.mp hLast)
    simp at hBreak
  · have hBreak := List.head_dropWhile_not (· != '\n') (l := cs.reverse) (by simpa using hLines)
    rw [List.getLast?_reverse, List.head?_eq_some_head (by simpa using hLines)]
    simpa using hBreak

/-- How a chunk ends that is cut off what remains of a text: behind the last line break that fits, or at the
limit if no line break fits but as the first character. -/
def EndsWell (limit : Nat) (remaining chunk : List Char) : Prop :=
  (chunk.getLast? = some '\n' ∧ '\n' ∉ (remaining.take limit).drop chunk.length) ∨
    (chunk.length = limit ∧ '\n' ∉ chunk.tail)

theorem endsWell_take (hLong : limit < cs.length) :
    EndsWell limit cs (cs.take (cutPoint limit cs)) := by
  obtain ⟨lines, last, hWindow, hLength, hLast, hBreak⟩ := exists_lines (cs.take limit)
  have hLines : lines <+: cs := (hWindow ▸ List.prefix_append lines last).trans (List.take_prefix _ _)
  unfold cutPoint
  simp only [← hLength]
  split_ifs with hSome
  · rw [← List.prefix_iff_eq_take.mp hLines]
    refine .inl ⟨hBreak (List.ne_nil_of_length_pos (by omega)), ?_⟩
    rwa [hWindow, List.drop_left]
  · refine .inr ⟨by simp only [List.length_take]; omega, fun hMem => ?_⟩
    rw [hWindow] at hMem
    match lines, hSome with
    | [], _ => exact hLast (List.mem_of_mem_tail hMem)
    | [_], _ => exact hLast hMem
    | _ :: _ :: _, hSome => simp at hSome

/-- A cut comes after what has no line break, as far as the limit allows. -/
theorem lt_cutPoint (hFree : '\n' ∉ cs.take m) (hLess : m < limit) : m < cutPoint limit cs := by
  obtain ⟨lines, last, hWindow, hLength, -, hBreak⟩ := exists_lines (cs.take limit)
  have hLines : lines <+: cs := (hWindow ▸ List.prefix_append lines last).trans (List.take_prefix _ _)
  unfold cutPoint
  simp only [← hLength]
  split_ifs with hSome
  · by_contra hEarly
    have hBefore : lines <+: cs.take m := List.prefix_take_iff.mpr ⟨hLines, Nat.le_of_not_lt hEarly⟩
    have hEnd := List.mem_of_getLast? (hBreak (List.ne_nil_of_length_pos (by omega)))
    exact hFree (hBefore.mem hEnd)
  · exact hLess

/-! ### Rounds -/

theorem split_of_fits (hFits : cs.length ≤ limit) : split limit cs = [cs] := by
  rw [split, dif_neg (by omega)]

theorem split_of_long (hLimit : 0 < limit) (hLong : limit < cs.length) :
    split limit cs = cs.take (cutPoint limit cs) :: split limit (cs.drop (cutPoint limit cs)) := by
  rw [split, dif_pos ⟨hLimit, hLong⟩]

/-- A text is split in rounds, each of which cuts a chunk off what the rounds before have left. -/
theorem split_induction (hLimit : 0 < limit) {P : List Char → Prop}
    (fits : ∀ cs, cs.length ≤ limit → P cs)
    (long : ∀ cs, limit < cs.length → P (cs.drop (cutPoint limit cs)) → P cs) (cs : List Char) : P cs := by
  fun_induction split limit cs with
  | case1 cs hLong ih => exact long cs hLong.2 ih
  | case2 cs hFits => exact fits cs (by omega)

/-- The chunks that a number of rounds cut off a text. There are none if the text is not used up by
then. -/
def rounds? (limit : Nat) : Nat → List Char → Option (List (List Char))
  | 0, _ => none
  | n + 1, cs =>
    if limit < cs.length then
      (rounds? limit n (cs.drop (cutPoint limit cs))).map (cs.take (cutPoint limit cs) :: ·)
    else some [cs]

/-- A text is used up after as many rounds as it has chunks. -/
theorem rounds?_eq_split (hLimit : 0 < limit) (hRounds : (split limit cs).length ≤ n) :
    rounds? limit n cs = some (split limit cs) := by
  induction cs using split_induction hLimit generalizing n with
  | fits cs hFits =>
    rw [split_of_fits hFits] at hRounds ⊢
    cases n with
    | zero => simp at hRounds
    | succ n => rw [rounds?, if_neg (by omega)]
  | long cs hLong ih =>
    rw [split_of_long hLimit hLong] at hRounds ⊢
    cases n with
    | zero => simp at hRounds
    | succ n =>
      rw [rounds?, if_pos hLong, ih (by simpa using hRounds)]
      rfl

/-! ### The chunks of a text -/

/-- Whether chunks are a text cut in turn, each chunk as late as a line break or the limit allows. -/
structure IsGreedy (limit : Nat) (text : List Char) (chunks : List (List Char)) : Prop where
  lossless : chunks.flatten = text
  bounded : ∀ chunk ∈ chunks, chunk.length ≤ limit
  nonempty : text ≠ [] → [] ∉ chunks
  ofEmpty : text = [] → chunks = [[]]
  /-- What remained when a chunk was cut is the chunk and all chunks behind it. -/
  endsWell : ∀ before chunk behind, chunks = before ++ chunk :: behind → behind ≠ [] →
    EndsWell limit (chunk :: behind).flatten chunk
  /-- Two neighbours never fit one chunk. -/
  full : ∀ before first second behind, chunks = before ++ first :: second :: behind →
    limit < first.length + second.length

/-- A text that fits is its only chunk. -/
theorem isGreedy_singleton (hFits : cs.length ≤ limit) : IsGreedy limit cs [cs] where
  lossless := by simp
  bounded := by simpa using hFits
  nonempty hSome := by simpa using hSome.symm
  ofEmpty hNone := by rw [hNone]
  endsWell before chunk behind hSame hBehind := by
    cases before <;> simp_all
  full before first second behind hSame := by
    cases before <;> simp_all

/-- The first chunk of the rest of a text is at least as long as what the cut before it left of its limit. -/
theorem lt_length_head_split (hLimit : 0 < limit) (hLong : limit < cs.length)
    (hFirst : chunk ∈ (split limit (cs.drop (cutPoint limit cs))).head?) :
    limit < cutPoint limit cs + chunk.length := by
  have hCut := cutPoint_bounds limit cs hLimit
  rcases Nat.lt_or_ge limit (cs.drop (cutPoint limit cs)).length with hMore | hFits
  · rw [split_of_long hLimit hMore, List.head?_cons] at hFirst
    obtain rfl := Option.mem_some.mp hFirst
    have hNext := cutPoint_bounds limit (cs.drop (cutPoint limit cs)) hLimit
    rw [List.length_take, Nat.min_eq_left (by omega)]
    rcases endsWell_take hLong with ⟨-, hFree⟩ | ⟨hFull, -⟩
    · rw [List.length_take, Nat.min_eq_left (by omega), List.drop_take] at hFree
      have hLess : limit - cutPoint limit cs < limit := by omega
      have hLate := lt_cutPoint hFree hLess
      omega
    · rw [List.length_take, Nat.min_eq_left (by omega)] at hFull
      omega
  · rw [split_of_fits hFits, List.head?_cons] at hFirst
    obtain rfl := Option.mem_some.mp hFirst
    rw [List.length_drop]
    omega

/-- A chunk cut off a long text stands before the chunks of its rest. -/
theorem IsGreedy.cons (hLimit : 0 < limit) (hLong : limit < cs.length)
    (h : IsGreedy limit (cs.drop (cutPoint limit cs)) (split limit (cs.drop (cutPoint limit cs)))) :
    IsGreedy limit cs (cs.take (cutPoint limit cs) :: split limit (cs.drop (cutPoint limit cs))) where
  lossless := by rw [List.flatten_cons, h.lossless, List.take_append_drop]
  bounded := List.forall_mem_cons.mpr
    ⟨(List.length_take_le _ _).trans (cutPoint_bounds limit cs hLimit).2, h.bounded⟩
  nonempty _ hNil := by
    have hCut := cutPoint_bounds limit cs hLimit
    have hTake : cs.take (cutPoint limit cs) ≠ [] := List.ne_nil_of_length_pos (by simp; omega)
    have hDrop : cs.drop (cutPoint limit cs) ≠ [] := List.ne_nil_of_length_pos (by simp; omega)
    exact (List.mem_cons.mp hNil).elim (fun hFirst => hTake hFirst.symm) (h.nonempty hDrop)
  ofEmpty hNone := by simp [hNone] at hLong
  endsWell before chunk behind hSame hBehind := by
    cases before with
    | nil =>
      obtain ⟨rfl, rfl⟩ := List.cons.inj hSame
      rw [List.flatten_cons, h.lossless, List.take_append_drop]
      exact endsWell_take hLong
    | cons first before => exact h.endsWell before chunk behind (List.cons.inj hSame).2 hBehind
  full before first second behind hSame := by
    cases before with
    | nil =>
      obtain ⟨rfl, hRest⟩ := List.cons.inj hSame
      have hCut := cutPoint_bounds limit cs hLimit
      rw [List.length_take, Nat.min_eq_left (by omega)]
      exact lt_length_head_split hLimit hLong (by simp [hRest])
    | cons _ before => exact h.full before first second behind (List.cons.inj hSame).2

theorem isGreedy_split (hLimit : 0 < limit) (cs : List Char) : IsGreedy limit cs (split limit cs) := by
  induction cs using split_induction hLimit with
  | fits cs hFits =>
    rw [split_of_fits hFits]
    exact isGreedy_singleton hFits
  | long cs hLong ih =>
    rw [split_of_long hLimit hLong]
    exact ih.cons hLimit hLong

/-- Chunks of which no two neighbours fit one hold more than the limit for every two of them. -/
theorem mul_length_le : ∀ {chunks : List (List Char)},
    (∀ before first second behind, chunks = before ++ first :: second :: behind →
      limit < first.length + second.length) →
    (limit + 1) * (chunks.length / 2) ≤ chunks.flatten.length
  | [], _ => by simp
  | [_], _ => by simp
  | first :: second :: behind, hFull => by
    have hPair := hFull [] first second behind rfl
    have hBehind := mul_length_le fun before c d rest hSame =>
      hFull (first :: second :: before) c d rest (congrArg (first :: second :: ·) hSame)
    have hHalf : (first :: second :: behind).length / 2 = behind.length / 2 + 1 := by
      simp only [List.length_cons]
      omega
    rw [hHalf, Nat.mul_add, List.flatten_cons, List.flatten_cons, List.length_append, List.length_append]
    omega

/-- Every text is cut into chunks as late as line breaks and the limit allow. There is at most one chunk
more than there are thousands of characters, and as many rounds use up the text. -/
theorem discordChunks_greedy (text : String) :
    IsGreedy discordLimit text.toList (discordChunks text) ∧
      (discordChunks text).length ≤ text.length / 1000 + 1 ∧
      rounds? discordLimit (text.length / 1000 + 1) text.toList = some (discordChunks text) := by
  have hLimit : 0 < discordLimit := by decide
  have hGreedy : IsGreedy discordLimit text.toList (discordChunks text) := isGreedy_split hLimit _
  have hCount : (discordChunks text).length ≤ text.length / 1000 + 1 := by
    have hHalf := mul_length_le hGreedy.full
    rw [hGreedy.lossless, String.length_toList, discordLimit] at hHalf
    omega
  exact ⟨hGreedy, hCount, rounds?_eq_split hLimit hCount⟩

end Lookout.Alert.Chunks
