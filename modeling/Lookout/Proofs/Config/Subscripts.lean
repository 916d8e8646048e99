import Lookout.Config.Environment
import Mathlib.Data.List.Basic
import Mathlib.Data.List.TakeWhile
/-!
Names of variables with brackets around their indices. Nothing of a name is lost by writing it so: it can
be read off the result, and writing it so once more changes nothing.
-/
namespace Lookout.Config.Environment

variable {cs first s rest digits : List Char} {others : List (List Char)}

/-! ### Parts of names -/

theorem isIndex_iff : isIndex s = true ↔ s ≠ [] ∧ ∀ c ∈ s, c.isDigit = true := by
  rw [isIndex, Bool.and_eq_true, Bool.not_eq_true', List.all_eq_true, List.isEmpty_eq_false_iff]

theorem isIndex_of_bracket (h : '[' ∈ s) : isIndex s = false :=
  eq_false_of_ne_true fun hIndex => absurd ((isIndex_iff.1 hIndex).2 '[' h) (by decide)

theorem writeStep_of_isIndex (h : isIndex s = true) : writeStep s = '[' :: s ++ [']'] := if_pos h

theorem writeStep_of_not_isIndex (h : isIndex s = false) : writeStep s = '_' :: s :=
  if_neg (ne_true_of_eq_false h)

/-- What stands in front of a text without an underscore belongs to the first part of the text. -/
theorem segments_append (hFirst : '_' ∉ s) (h : segments rest = first :: others) :
    segments (s ++ rest) = (s ++ first) :: others := by
  induction s with
  | nil => exact h
  | cons c s ih =>
      rw [List.mem_cons, not_or] at hFirst
      rw [List.cons_append, segments, if_neg (Ne.symm hFirst.1), ih hFirst.2]
      rfl

theorem segments_underscore (rest : List Char) : segments ('_' :: rest) = [] :: segments rest :=
  if_pos rfl

theorem segments_self (h : '_' ∉ s) : segments s = [s] := by
  have hEmpty : segments [] = [[]] := rfl
  simpa using segments_append h hEmpty

/-- The parts that are put together with underscores are the parts of what comes of it. -/
theorem segments_flatMap (hFirst : '_' ∉ first) (hOthers : ∀ s ∈ others, '_' ∉ s) :
    segments (first ++ others.flatMap ('_' :: ·)) = first :: others := by
  induction others generalizing first with
  | nil => simpa using segments_self hFirst
  | cons s others ih =>
      obtain ⟨hs, hMore⟩ := List.forall_mem_cons.1 hOthers
      have hRest := (segments_underscore _).trans (congrArg _ (ih hs hMore))
      simpa using segments_append hFirst hRest

theorem exists_segments (cs : List Char) :
    ∃ (first : List Char) (others : List (List Char)), '_' ∉ first ∧ (∀ s ∈ others, '_' ∉ s) ∧
      cs = first ++ others.flatMap ('_' :: ·) := by
  induction cs with
  | nil => exact ⟨[], [], List.not_mem_nil, nofun, rfl⟩
  | cons c cs ih =>
      obtain ⟨first, others, hFirst, hOthers, rfl⟩ := ih
      by_cases hc : c = '_'
      · subst hc
        exact ⟨[], first :: others, List.not_mem_nil, List.forall_mem_cons.2 ⟨hFirst, hOthers⟩, rfl⟩
      · refine ⟨c :: first, others, ?_, hOthers, rfl⟩
        rw [List.mem_cons, not_or]
        exact ⟨Ne.symm hc, hFirst⟩

/-- A name is written part by part, the first one as it is. -/
theorem indexed_eq (h : segments cs = first :: others) : indexed cs = first ++ others.flatMap writeStep := by
  rw [indexed, h]

/-! ### Names written twice -/

/-- The parts of what a name is written as have brackets at their ends where indices were, so that none of
them is an index any more. -/
theorem exists_segments_written (hFirst : '_' ∉ first) (hOthers : ∀ s ∈ others, '_' ∉ s) :
    ∃ first' others', segments (first ++ others.flatMap writeStep) = first' :: others' ∧
      first' ++ others'.flatMap writeStep = first ++ others.flatMap writeStep ∧
      (isIndex first = false → isIndex first' = false) := by
  induction others generalizing first with
  | nil => exact ⟨first, [], by simpa using segments_self hFirst, rfl, id⟩
  | cons s others ih =>
      obtain ⟨hs, hMore⟩ := List.forall_mem_cons.1 hOthers
      by_cases hIndex : isIndex s = true
      · have hWritten : '_' ∉ first ++ ('[' :: s ++ [']']) := by simp [hFirst, hs]
        obtain ⟨first', others', hParts, hText, hKept⟩ := ih hWritten hMore
        rw [List.flatMap_cons, writeStep_of_isIndex hIndex, ← List.append_assoc]
        exact ⟨first', others', hParts, hText, fun _ => hKept (isIndex_of_bracket (by simp))⟩
      · have hOther := eq_false_of_ne_true hIndex
        obtain ⟨s', others', hParts, hText, hKept⟩ := ih hs hMore
        rw [List.flatMap_cons, writeStep_of_not_isIndex hOther, List.cons_append]
        have hRest := (segments_underscore _).trans (congrArg _ hParts)
        refine ⟨first, s' :: others', by simpa using segments_append hFirst hRest, ?_, id⟩
        rw [List.flatMap_cons, writeStep_of_not_isIndex (hKept hOther), List.cons_append, hText]

theorem indexed_indexed (cs : List Char) : indexed (indexed cs) = indexed cs := by
  obtain ⟨first, others, hFirst, hOthers, rfl⟩ := exists_segments cs
  obtain ⟨first', others', hParts, hText, -⟩ := exists_segments_written hFirst hOthers
  rw [indexed_eq (segments_flatMap hFirst hOthers), indexed_eq hParts, hText]

/-! ### Names read off what they are written as -/

/-- Digits in brackets at the start of a text, and what follows them. -/
def subscript? : List Char → Option (List Char × List Char)
  | '[' :: rest =>
    match rest.takeWhile Char.isDigit, rest.dropWhile Char.isDigit with
    | d :: digits, ']' :: more => some (d :: digits, more)
    | _, _ => none
  | _ => none

theorem length_lt_of_subscript? (h : subscript? cs = some (digits, rest)) : rest.length < cs.length := by
  unfold subscript? at h
  split at h
  · rename_i text
    split at h
    · rename_i hRest
      cases h
      have hShorter := (List.dropWhile_suffix (l := text) Char.isDigit).length_le
      rw [hRest, List.length_cons] at hShorter
      rw [List.length_cons]
      omega
    · cases h
  · cases h

/-- A text with an underscore and the digits in place of all digits in brackets. -/
def withoutSubscripts : List Char → List Char
  | [] => []
  | c :: cs =>
    match _h : subscript? (c :: cs) with
    | some (digits, rest) => '_' :: digits ++ withoutSubscripts rest
    | none => c :: withoutSubscripts cs
termination_by cs => cs.length
decreasing_by
  · exact length_lt_of_subscript? _h
  · exact Nat.lt_succ_self _

theorem withoutSubscripts_cons_some {c : Char} (h : subscript? (c :: cs) = some (digits, rest)) :
    withoutSubscripts (c :: cs) = '_' :: digits ++ withoutSubscripts rest := by
  rw [withoutSubscripts]
  split
  · rename_i hSome
    cases h.symm.trans hSome
    rfl
  · rename_i hNone
    cases h.symm.trans hNone

theorem withoutSubscripts_cons_none {c : Char} (h : subscript? (c :: cs) = none) :
    withoutSubscripts (c :: cs) = c :: withoutSubscripts cs := by
  rw [withoutSubscripts]
  split
  · rename_i hSome
    cases h.symm.trans hSome
  · rfl

theorem withoutSubscripts_append (h : '[' ∉ s) (rest : List Char) :
    withoutSubscripts (s ++ rest) = s ++ withoutSubscripts rest := by
  induction s with
  | nil => rfl
  | cons c s ih =>
      rw [List.mem_cons, not_or] at h
      have hNone : subscript? (c :: (s ++ rest)) = none := by
        unfold subscript?
        split
        · rename_i hBracket
          exact absurd (List.cons.inj hBracket).1.symm h.1
        · rfl
      rw [List.cons_append, withoutSubscripts_cons_none hNone, ih h.2]
      rfl

theorem subscript?_of_isIndex (h : isIndex s = true) (rest : List Char) :
    subscript? ('[' :: (s ++ ']' :: rest)) = some (s, rest) := by
  obtain ⟨hSome, hDigits⟩ := isIndex_iff.1 h
  obtain ⟨d, digits, rfl⟩ := List.exists_cons_of_ne_nil hSome
  have hTake : ((d :: digits) ++ ']' :: rest).takeWhile Char.isDigit = d :: digits := by
    rw [List.takeWhile_append_of_pos hDigits, List.takeWhile_cons_of_neg (by decide), List.append_nil]
  have hDrop : ((d :: digits) ++ ']' :: rest).dropWhile Char.isDigit = ']' :: rest := by
    rw [List.dropWhile_append_of_pos hDigits, List.dropWhile_cons_of_neg (by decide)]
  simp only [subscript?, hTake, hDrop]

/-- Brackets of a name are only those around its indices when it had none before. -/
theorem withoutSubscripts_written (hFirst : '[' ∉ first) (hOthers : ∀ s ∈ others, '[' ∉ s) :
    withoutSubscripts (first ++ others.flatMap writeStep) = first ++ others.flatMap ('_' :: ·) := by
  rw [withoutSubscripts_append hFirst]
  congr 1
  induction others with
  | nil => rw [List.flatMap_nil, List.flatMap_nil, withoutSubscripts]
  | cons s others ih =>
      obtain ⟨hs, hMore⟩ := List.forall_mem_cons.1 hOthers
      rw [List.flatMap_cons, List.flatMap_cons, ← ih hMore]
      by_cases hIndex : isIndex s = true
      · have hText (rest : List Char) : '[' :: s ++ [']'] ++ rest = '[' :: (s ++ ']' :: rest) := by simp
        rw [writeStep_of_isIndex hIndex, hText, withoutSubscripts_cons_some (subscript?_of_isIndex hIndex _)]
      · rw [writeStep_of_not_isIndex (eq_false_of_ne_true hIndex), withoutSubscripts_append (by simp [hs])]

theorem withoutSubscripts_indexed (h : '[' ∉ cs) : withoutSubscripts (indexed cs) = cs := by
  obtain ⟨first, others, hFirst, hOthers, rfl⟩ := exists_segments cs
  rw [indexed_eq (segments_flatMap hFirst hOthers), withoutSubscripts_written]
  · exact fun hMem => h (List.mem_append_left _ hMem)
  · intro s hs hMem
    exact h (List.mem_append_right _ (List.mem_flatMap.2 ⟨s, hs, List.mem_cons_of_mem _ hMem⟩))

/-- Writing a name with brackets around its indices can be undone: when it has no opening bracket itself, an
underscore in place of each pair of brackets with digits in it gives the name back, so that no two such names
are written alike. The parts of a name between underscores that become indices are those behind the first
one that are digits and not empty; all others stay where they are, with their underscores. And a name that is
written so is not changed by writing it so again, whatever brackets it had. -/
theorem indexed_reversible (name : List Char) :
    ('[' ∉ name → withoutSubscripts (indexed name) = name ∧
      ∀ other, '[' ∉ other → indexed name = indexed other → name = other) ∧
    (∃ (first : List Char) (others : List (List Char)), '_' ∉ first ∧ (∀ s ∈ others, '_' ∉ s) ∧
      name = first ++ others.flatMap ('_' :: ·)) ∧
    (∀ (first : List Char) (others : List (List Char)), '_' ∉ first → (∀ s ∈ others, '_' ∉ s) →
      name = first ++ others.flatMap ('_' :: ·) →
      indexed name = first ++ others.flatMap fun s =>
        if s ≠ [] ∧ s.all Char.isDigit = true then '[' :: s ++ [']'] else '_' :: s) ∧
    indexed (indexed name) = indexed name := by
  refine ⟨fun hName => ⟨withoutSubscripts_indexed hName, fun other hOther hSame => ?_⟩,
    exists_segments name, ?_, indexed_indexed name⟩
  · rw [← withoutSubscripts_indexed hName, hSame, withoutSubscripts_indexed hOther]
  · rintro first others hFirst hOthers rfl
    rw [indexed_eq (segments_flatMap hFirst hOthers)]
    simp only [List.all_eq_true, ← isIndex_iff]
    rfl

/-- Empty parts stay, two indices may follow each other, and digits in front are no index. -/
theorem oddName_reversible :
    '[' ∉ "7_10_2__X_".toList ∧ indexed "7_10_2__X_".toList = "7[10][2]__X_".toList ∧
    withoutSubscripts "7[10][2]__X_".toList = "7_10_2__X_".toList ∧
    indexed "7[10][2]__X_".toList = "7[10][2]__X_".toList := by
  have hIndexed : indexed "7_10_2__X_".toList = "7[10][2]__X_".toList := by decide
  have hName : '[' ∉ "7_10_2__X_".toList := by decide
  obtain ⟨hBack, -, -, hAgain⟩ := indexed_reversible "7_10_2__X_".toList
  rw [hIndexed] at hBack hAgain
  exact ⟨hName, hIndexed, (hBack hName).1, hAgain⟩

end Lookout.Config.Environment
