import Lookout.Proofs.Config.Layers
import Mathlib.Data.List.Pairwise
/-!
Changes of one tree in any order. Changes at two places commute if their paths part at one tree by two keys
or by two indices counted from the same end, so that layers with such paths can be laid over in any order.
-/
namespace Lookout.Config

/-! ### Paths that part -/

/-- Whether two paths part at one tree, by two steps that are related. -/
inductive PartBy (R : Step → Step → Prop) : List Step → List Step → Prop
  | here {s s' : Step} {p q : List Step} : R s s' → PartBy R (s :: p) (s' :: q)
  | behind {s : Step} {p q : List Step} : PartBy R p q → PartBy R (s :: p) (s :: q)

namespace Step

/-- Two steps that treat a tree as the same: two keys of a mapping, or two indices of a sequence. -/
inductive OfOneKind : Step → Step → Prop
  | keys {k l : String} : k ≠ l → OfOneKind (.key k) (.key l)
  | indices {i j : Int} : i ≠ j → OfOneKind (.index i) (.index j)

/-- Two steps that lead to different parts of any tree, also of one that is being made: two keys, or two
indices that are counted from the same end. -/
inductive Independent : Step → Step → Prop
  | keys {k l : String} : k ≠ l → Independent (.key k) (.key l)
  | fromStart {m n : Nat} : m ≠ n → Independent (.index (.ofNat m)) (.index (.ofNat n))
  | fromEnd {m n : Nat} : m ≠ n → Independent (.index (.negSucc m)) (.index (.negSucc n))

variable {s s' : Step}

theorem Independent.symm (h : s.Independent s') : s'.Independent s := by
  cases h with
  | keys hNe => exact .keys hNe.symm
  | fromStart hNe => exact .fromStart hNe.symm
  | fromEnd hNe => exact .fromEnd hNe.symm

theorem Independent.irrefl (s : Step) : ¬ s.Independent s := by
  rintro (hNe | hNe | hNe) <;> exact hNe rfl

end Step

namespace PartBy

variable {p q : List Step}

theorem symm (h : PartBy Step.Independent p q) : PartBy Step.Independent q p := by
  induction h with
  | here h => exact .here h.symm
  | behind _ ih => exact .behind ih

theorem irrefl (p : List Step) : ¬ PartBy Step.Independent p p := by
  induction p with
  | nil => exact nofun
  | cons s rest ih =>
    rintro (h | h)
    · exact h.irrefl
    · exact ih h

end PartBy

namespace Tree

variable {t u x y : Tree} {s s' : Step} {p q : List Step} {f g : Tree → Tree} {list : List Tree} {m n : Nat}

/-! ### Items put in a sequence -/

/-- Items with one put at a place, after as many others as the place needs. -/
def putAt (n : Nat) (x : Tree) (list : List Tree) : List Tree := (padded list n 0).set n x

theorem length_putAt (n : Nat) (x : Tree) (list : List Tree) :
    (putAt n x list).length = max (n + 1) list.length := by
  simp [putAt, length_padded]

theorem getElem?_putAt (n : Nat) (x : Tree) (list : List Tree) (i : Nat) : (putAt n x list)[i]? =
    if i = n then some x else if list.length ≤ i ∧ i < n then some nothing else list[i]? := by
  have hLength : (padded list n 0).length = max (n + 1) list.length := by simp [length_padded]
  rw [putAt, List.getElem?_set]
  split_ifs with hSame hIn hSame' hPad hPad <;> try omega
  · rfl
  · simp only [padded, List.replicate_zero, List.nil_append]
    rw [List.getElem?_append_right (by omega), List.getElem?_replicate, if_pos (by omega)]
  · simp only [padded, List.replicate_zero, List.nil_append, List.getElem?_append, List.getElem?_replicate]
    split_ifs with hBelow hBetween
    · rfl
    · omega
    · rw [List.getElem?_eq_none (by omega)]

theorem putAt_self (n : Nat) (x y : Tree) (list : List Tree) :
    putAt n x (putAt n y list) = putAt n x list := by
  refine List.ext_getElem? fun i => ?_
  simp only [getElem?_putAt, length_putAt]
  split_ifs <;> first | rfl | omega

theorem putAt_comm (hNe : m ≠ n) (x y : Tree) (list : List Tree) :
    putAt m x (putAt n y list) = putAt n y (putAt m x list) := by
  refine List.ext_getElem? fun i => ?_
  simp only [getElem?_putAt, length_putAt]
  split_ifs <;> first | rfl | omega

/-- What is put at another place is not found at a place. -/
theorem getD_putAt_of_ne (hNe : m ≠ n) (x : Tree) (list : List Tree) :
    ((putAt n x list)[m]?).getD nothing = (list[m]?).getD nothing := by
  rw [getElem?_putAt, if_neg hNe]
  split_ifs with hPad
  · rw [List.getElem?_eq_none hPad.1]
    rfl
  · rfl

/-! ### Parts put in a tree -/

/-- The part that a step leads to, which is nothing before it is set. -/
def partOr (s : Step) (t : Tree) : Tree := (t.part? s).getD nothing

/-- A tree with the part that a step leads to replaced. An index from the end is one of the items
backwards. -/
def setPart (x : Tree) : Step → Tree → Tree
  | .key k, t => .fields t.fieldOrigin (Json.insertField k x t.fieldList)
  | .index (.ofNat n), t => .items t.itemOrigin (putAt n x t.itemList)
  | .index (.negSucc n), t => .items t.itemOrigin (putAt n x t.itemList.reverse).reverse

theorem partOr_ofNat (n : Nat) (t : Tree) :
    partOr (.index (.ofNat n)) t = (t.itemList[n]?).getD nothing := by
  rw [partOr, part?_index rfl]
  rfl

theorem reverse_set (h : n < list.length) (x : Tree) :
    (list.set n x).reverse = list.reverse.set (list.length - 1 - n) x := by
  refine List.ext_getElem (by simp) fun i hi _ => ?_
  rw [List.length_reverse, List.length_set] at hi
  simp only [List.getElem_reverse, List.getElem_set, List.length_set]
  by_cases hSame : n = list.length - 1 - i
  · rw [if_pos hSame, if_pos (by omega)]
  · rw [if_neg hSame, if_neg (by omega)]

/-- An index from the end leads to one of the items backwards, behind which as many are put. -/
theorem placeOf_negSucc {place before : Nat} (h : placeOf list.length (.negSucc n) = (place, before)) :
    padded list place before = (padded list.reverse n 0).reverse ∧
      place + (n + 1) = (padded list.reverse n 0).length := by
  obtain ⟨hBefore, hEnd⟩ :
      before = n + 1 - list.length ∧ place + (n + 1) = max (n + 1) list.length := by
    obtain ⟨hPos, -⟩ | ⟨-, hEnd, hPlace⟩ | ⟨-, hEnd, hPlace⟩ := placeOf_cases list.length (.negSucc n)
    · omega
    all_goals
      obtain ⟨rfl, rfl⟩ := Prod.mk.inj (h.symm.trans hPlace)
      omega
  refine ⟨?_, by rw [hEnd, length_padded, List.length_reverse, Nat.zero_add]⟩
  have hNone : place + 1 - (before + list.length) = 0 := by omega
  rw [padded, List.length_append, List.length_replicate, hNone, hBefore]
  simp [padded]

theorem partOr_negSucc (n : Nat) (t : Tree) :
    partOr (.index (.negSucc n)) t = (t.itemList.reverse[n]?).getD nothing := by
  obtain ⟨place, before, hPlace⟩ :
      ∃ place before, placeOf t.itemList.length (.negSucc n) = (place, before) := ⟨_, _, rfl⟩
  obtain ⟨hPadded, hEnd⟩ := placeOf_negSucc hPlace
  have hBack : (padded t.itemList.reverse n 0).length - 1 - place = n := by omega
  rw [partOr, ← getD_padded hPlace, hPadded, List.getElem?_reverse (by omega), hBack]
  -- Backwards the index is one from the start.
  exact (getD_padded (t := .items none t.itemList.reverse) (i := n) rfl).trans
    (partOr_ofNat n (.items none t.itemList.reverse))

theorem modifyAt_cons (f : Tree → Tree) (s : Step) (rest : List Step) (t : Tree) :
    modifyAt f (s :: rest) t = setPart (modifyAt f rest (partOr s t)) s t := by
  cases s with
  | key k => rw [modifyAt, partOr, part?_key, setPart, childOf]
  | index i =>
    obtain ⟨place, before, hPlace⟩ : ∃ place before, placeOf t.itemList.length i = (place, before) :=
      ⟨_, _, rfl⟩
    rw [modifyAt_index f rest hPlace, partOr]
    cases i with
    | ofNat n =>
      cases hPlace
      rfl
    | negSucc n =>
      obtain ⟨hPadded, hEnd⟩ := placeOf_negSucc hPlace
      rw [setPart, putAt, reverse_set (by omega), hPadded]
      congr 2
      omega

theorem partOr_setPart_self (x : Tree) (s : Step) (t : Tree) : partOr s (setPart x s t) = x := by
  have hPut (n : Nat) (list : List Tree) : ((putAt n x list)[n]?).getD nothing = x := by
    rw [getElem?_putAt, if_pos rfl, Option.getD_some]
  match s with
  | .key k => rw [partOr, part?_key, setPart, fieldList, Json.lookup_insertField_self, Option.getD_some]
  | .index (.ofNat n) => rw [partOr_ofNat, setPart, itemList, hPut]
  | .index (.negSucc n) => rw [partOr_negSucc, setPart, itemList, List.reverse_reverse, hPut]

theorem setPart_self (x y : Tree) (s : Step) (t : Tree) :
    setPart x s (setPart y s t) = setPart x s t := by
  match s with
  | .key k => simp only [setPart, fieldOrigin, fieldList, Json.insertField_self]
  | .index (.ofNat n) => simp only [setPart, itemOrigin, itemList, putAt_self]
  | .index (.negSucc n) => simp only [setPart, itemOrigin, itemList, List.reverse_reverse, putAt_self]

theorem partOr_setPart (h : s.Independent s') (x t : Tree) : partOr s (setPart x s' t) = partOr s t := by
  cases h with
  | keys hNe => rw [partOr, partOr, part?_key, part?_key, setPart, fieldList,
      Json.lookup_insertField_of_ne hNe]
  | fromStart hNe => rw [partOr_ofNat, partOr_ofNat, setPart, itemList, getD_putAt_of_ne hNe]
  | fromEnd hNe => rw [partOr_negSucc, partOr_negSucc, setPart, itemList, List.reverse_reverse,
      getD_putAt_of_ne hNe]

theorem setPart_comm (h : s.Independent s') (x y t : Tree) :
    setPart x s (setPart y s' t) = setPart y s' (setPart x s t) := by
  cases h with
  | keys hNe => simp only [setPart, fieldOrigin, fieldList, Json.insertField_comm hNe]
  | fromStart hNe => simp only [setPart, itemOrigin, itemList, putAt_comm hNe]
  | fromEnd hNe => simp only [setPart, itemOrigin, itemList, List.reverse_reverse, putAt_comm hNe]

/-! ### Changes of one tree -/

/-- Changes at the ends of two paths commute, whatever the tree, if the paths part by independent steps. -/
theorem modifyAt_comm (h : PartBy Step.Independent p q) (f g : Tree → Tree) (t : Tree) :
    modifyAt f p (modifyAt g q t) = modifyAt g q (modifyAt f p t) := by
  induction h generalizing t with
  | here hSteps =>
    simp only [modifyAt_cons, partOr_setPart hSteps, partOr_setPart hSteps.symm, setPart_comm hSteps]
  | behind _ ih => simp only [modifyAt_cons, partOr_setPart_self, setPart_self, ih]

end Tree

/-! ### Layers -/

/-- A layer whose paths part by independent steps can be laid over a tree in any order. -/
theorem Layer.overlay_perm {layer layer' : Layer}
    (hPart : layer.Pairwise fun f g => PartBy Step.Independent (Path.ofName f.1) (Path.ofName g.1))
    (hPerm : layer.Perm layer') (t : Tree) : layer.overlay t = layer'.overlay t := by
  have hSymm : Std.Symm fun f g : String × Tree =>
      PartBy Step.Independent (Path.ofName f.1) (Path.ofName g.1) := ⟨fun _ _ h => h.symm⟩
  refine hPerm.foldl_eq' (fun f hf g hg u => ?_) t
  by_cases hSame : f = g
  · rw [hSame]
  · exact Tree.modifyAt_comm (hPart.forall hg hf (Ne.symm hSame)) _ _ u

end Lookout.Config
