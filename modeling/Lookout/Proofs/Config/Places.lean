import Lookout.Config.Layers
import Lookout.Proofs.Json.Fields
/-!
Places in trees: what stands at the end of some steps, and what a change at the end of some steps does
there and elsewhere. A change is found where it was made, and whatever is apart from it stays.
-/
namespace Lookout.Config

/-! ### Steps and places -/

/-- Whether two steps lead to different parts of one tree, wherever they lead anywhere: two keys, or
two indices from the start. -/
def Step.Differs : Step → Step → Prop
  | .key k, .key l => k ≠ l
  | .index i, .index j => i ≠ j ∧ 0 ≤ i ∧ 0 ≤ j
  | _, _ => False

instance : DecidableRel Step.Differs
  | .key k, .key l => inferInstanceAs (Decidable (k ≠ l))
  | .index i, .index j => inferInstanceAs (Decidable (i ≠ j ∧ 0 ≤ i ∧ 0 ≤ j))
  | .key _, .index _ | .index _, .key _ => inferInstanceAs (Decidable False)

theorem Step.Differs.symm {s s' : Step} (h : s.Differs s') : s'.Differs s := by
  cases s <;> cases s' <;> simp only [Step.Differs] at h ⊢
  · exact h.symm
  · exact ⟨h.1.symm, h.2.2, h.2.1⟩

theorem Step.Differs.ne {s s' : Step} (h : s.Differs s') : s ≠ s' := by
  rintro rfl
  cases s <;> simp [Step.Differs] at h

/-- Whether two paths are compatible: they part at one tree, by steps that differ. -/
inductive Apart : List Step → List Step → Prop
  | here {s s' : Step} {p q : List Step} : s.Differs s' → Apart (s :: p) (s' :: q)
  | behind {s : Step} {p q : List Step} : Apart p q → Apart (s :: p) (s :: q)

namespace Apart

variable {p q : List Step}

theorem symm (h : Apart p q) : Apart q p := by
  induction h with
  | here h => exact .here h.symm
  | behind _ ih => exact .behind ih

theorem not_prefix (h : Apart p q) : ¬ p <+: q := by
  induction h with
  | here h => exact fun hp => h.ne (List.cons_prefix_cons.mp hp).1
  | behind _ ih => exact fun hp => ih (List.cons_prefix_cons.mp hp).2

theorem irrefl (p : List Step) : ¬ Apart p p := fun h => h.not_prefix (List.prefix_refl p)

end Apart

/-- Whether a path goes on from a place by an index below a bound. -/
def GoesOnWithin (bound : Nat) (p q : List Step) : Prop :=
  ∃ (i : Int) (rest : List Step), q = p ++ .index i :: rest ∧ 0 ≤ i ∧ i < bound

namespace Tree

variable {t u v upper lower : Tree} {s s' : Step} {p q rest : List Step} {f : Tree → Tree}

/-- Whether a tree is a mapping. -/
def isMapping : Tree → Bool
  | fields _ _ => true
  | _ => false

/-- The part that a step leads to, if there is one. -/
def part? : Step → Tree → Option Tree
  | .key k, t => t.child? k
  | .index i, t =>
    match placeOf t.itemList.length i with
    | (place, 0) => t.item? place
    | (_, _ + 1) => none

/-- What stands at the end of some steps, if anything does. -/
def at? : List Step → Tree → Option Tree
  | [], t => some t
  | s :: rest, t => (t.part? s).bind (at? rest)

@[simp] theorem at?_nil (t : Tree) : t.at? [] = some t := rfl

theorem at?_cons (s : Step) (rest : List Step) (t : Tree) :
    t.at? (s :: rest) = (t.part? s).bind (at? rest) := rfl

theorem at?_cons_eq_some_iff : t.at? (s :: rest) = some v ↔
    ∃ u, t.part? s = some u ∧ u.at? rest = some v := by
  rw [at?_cons, Option.bind_eq_some_iff]

/-- The text at the end of some steps, if there is one. -/
def textAt? (p : List Step) (t : Tree) : Option String :=
  match t.at? p with
  | some (.leaf _ (.text s)) => some s
  | _ => none

theorem textAt?_eq_some_iff {text : String} : t.textAt? p = some text ↔
    ∃ o, t.at? p = some (.leaf o (.text text)) := by
  unfold textAt?
  split <;> simp_all

theorem part?_key (k : String) (t : Tree) : t.part? (.key k) = t.fieldList.lookup k := by
  cases t <;> rfl

theorem part?_index {i : Int} {place : Nat} (h : placeOf t.itemList.length i = (place, 0)) :
    t.part? (.index i) = t.itemList[place]? := by
  rw [part?, h]
  cases t <;> rfl

theorem eq_fields_of_isMapping (h : t.isMapping = true) : ∃ o list, t = .fields o list := by
  cases t with
  | fields o list => exact ⟨o, list, rfl⟩
  | _ => simp [isMapping] at h

/-- Only mappings have parts at keys. -/
theorem eq_fields_of_part?_key {k : String} (h : t.part? (.key k) = some u) :
    ∃ o list, t = .fields o list ∧ list.lookup k = some u := by
  cases t with
  | fields o list => exact ⟨o, list, rfl, h⟩
  | _ => simp [part?, child?] at h

/-- Only keys lead to parts of a mapping. -/
theorem part?_fields {o : Option String} {list : List (String × Tree)}
    (h : (fields o list).part? s = some u) : ∃ k, s = .key k ∧ list.lookup k = some u := by
  cases s with
  | key k => exact ⟨k, rfl, h⟩
  | index i =>
    simp only [part?] at h
    split at h <;> simp [item?] at h

/-! ### Indices -/

theorem placeOf_cases (n : Nat) (i : Int) :
    (0 ≤ i ∧ placeOf n i = (i.toNat, 0)) ∨
      (i < 0 ∧ -i ≤ n ∧ placeOf n i = ((n + i).toNat, 0)) ∨
      (i < 0 ∧ n < -i ∧ placeOf n i = (0, (-i).toNat - n)) := by
  unfold placeOf
  split_ifs with hPos hEnd
  · exact .inl ⟨hPos, rfl⟩
  · exact .inr (.inl ⟨by omega, hEnd, rfl⟩)
  · exact .inr (.inr ⟨by omega, by omega, rfl⟩)

theorem length_padded (list : List Tree) (place before : Nat) :
    (padded list place before).length = max (place + 1) (before + list.length) := by
  simp only [padded, List.length_append, List.length_replicate]
  omega

/-- Once there is something at an index, the index leads to it. -/
theorem placeOf_max {n : Nat} {i : Int} {place before : Nat} (h : placeOf n i = (place, before)) :
    placeOf (max (place + 1) (before + n)) i = (place, 0) := by
  obtain ⟨hPos, hPlace⟩ | ⟨hNeg, hEnd, hPlace⟩ | ⟨hNeg, hEnd, hPlace⟩ := placeOf_cases n i <;>
    obtain ⟨rfl, rfl⟩ := Prod.mk.inj (h.symm.trans hPlace)
  · simp [placeOf, hPos]
  · have hMax : max ((n + i).toNat + 1) (0 + n) = n := by omega
    rw [hMax, hPlace]
  · have hMax : max (0 + 1) ((-i).toNat - n + n) = (-i).toNat := by omega
    have hBack : -i ≤ ((-i).toNat : Int) := by omega
    rw [hMax, placeOf, if_neg (by omega), if_pos hBack]
    congr
    omega

/-- What is put around the items of a sequence is nothing. -/
theorem getD_padded {i : Int} {place before : Nat} (h : placeOf t.itemList.length i = (place, before)) :
    ((padded t.itemList place before)[place]?).getD nothing = (t.part? (.index i)).getD nothing := by
  cases before with
  | zero =>
    simp only [part?_index h, padded, List.replicate_zero, List.nil_append, List.getElem?_append,
      List.getElem?_replicate]
    split_ifs with hIn
    · rfl
    · simp [List.getElem?_eq_none (not_lt.mp hIn)]
    · simp [List.getElem?_eq_none (not_lt.mp hIn)]
  | succ before =>
    have hPlace : place = 0 := by
      obtain ⟨-, hCase⟩ | ⟨-, -, hCase⟩ | ⟨-, -, hCase⟩ := placeOf_cases t.itemList.length i <;>
        simp_all
    simp [part?, h, hPlace, padded, List.replicate_succ]

/-- What is at a place from the start stays there when nothing is put before it. -/
theorem getElem?_padded {list : List Tree} {i : Nat} (place : Nat) (h : list[i]? = some v) :
    (padded list place 0)[i]? = some v := by
  have hIn : i < list.length := (List.getElem?_eq_some_iff.mp h).1
  simpa [padded, List.getElem?_append_left hIn] using h

/-! ### Changes -/

theorem modifyAt_index (f : Tree → Tree) (rest : List Step) {i : Int} {place before : Nat}
    (h : placeOf t.itemList.length i = (place, before)) :
    modifyAt f (.index i :: rest) t =
      .items t.itemOrigin ((padded t.itemList place before).set place
        (modifyAt f rest ((t.part? (.index i)).getD nothing))) := by
  simp only [modifyAt, h, getD_padded h]

theorem part?_modifyAt_self (f : Tree → Tree) (s : Step) (rest : List Step) (t : Tree) :
    (modifyAt f (s :: rest) t).part? s = some (modifyAt f rest ((t.part? s).getD nothing)) := by
  cases s with
  | key k =>
    rw [part?_key, part?_key, modifyAt, fieldList, Json.lookup_insertField_self, childOf]
  | index i =>
    obtain ⟨place, before, hPlace⟩ : ∃ place before, placeOf t.itemList.length i = (place, before) :=
      ⟨_, _, rfl⟩
    have hLength := length_padded t.itemList place before
    have hPlace' : placeOf ((padded t.itemList place before).set place
        (modifyAt f rest ((t.part? (.index i)).getD nothing))).length i = (place, 0) := by
      rw [List.length_set, hLength, placeOf_max hPlace]
    rw [modifyAt_index f rest hPlace, part?, itemList, hPlace']
    exact List.getElem?_set_self (by omega)

theorem part?_modifyAt_of_differs (f : Tree → Tree) (rest : List Step) (hDiffers : s.Differs s')
    (h : t.part? s' = some u) : (modifyAt f (s :: rest) t).part? s' = some u := by
  cases s <;> cases s' <;> simp only [Step.Differs] at hDiffers
  case key.key k l =>
    rw [part?_key] at h ⊢
    rw [modifyAt, fieldList, Json.lookup_insertField_of_ne (Ne.symm hDiffers), h]
  case index.index i j =>
    obtain ⟨hNe, hi, hj⟩ := hDiffers
    have hPlace : ∀ n, placeOf n i = (i.toNat, 0) := fun n => if_pos hi
    have hPlace' : ∀ n, placeOf n j = (j.toNat, 0) := fun n => if_pos hj
    rw [part?_index (hPlace' _)] at h ⊢
    rw [modifyAt_index f rest (hPlace _), itemList]
    exact (List.getElem?_set_ne (by omega)).trans (getElem?_padded i.toNat h)

/-- A change is found where it was made. -/
theorem at?_modifyAt_self (f : Tree → Tree) (p : List Step) (t : Tree) :
    ∃ x, (modifyAt f p t).at? p = some (f x) := by
  induction p generalizing t with
  | nil => exact ⟨t, rfl⟩
  | cons s rest ih =>
    obtain ⟨x, hx⟩ := ih ((t.part? s).getD nothing)
    exact ⟨x, by rw [at?_cons, part?_modifyAt_self]; exact hx⟩

/-- A change keeps whatever is apart from it. -/
theorem at?_modifyAt_of_apart (f : Tree → Tree) (hApart : Apart p q) (hv : t.at? q = some v) :
    (modifyAt f p t).at? q = some v := by
  induction hApart generalizing t with
  | here hDiffers =>
    obtain ⟨u, hu, hRest⟩ := at?_cons_eq_some_iff.mp hv
    exact at?_cons_eq_some_iff.mpr ⟨u, part?_modifyAt_of_differs f _ hDiffers hu, hRest⟩
  | behind _ ih =>
    -- The same step leads to the changed part, also if it counts from an end that has moved.
    obtain ⟨u, hu, hRest⟩ := at?_cons_eq_some_iff.mp hv
    refine at?_cons_eq_some_iff.mpr ⟨_, part?_modifyAt_self f _ _ t, ?_⟩
    rw [hu]
    exact ih hRest

/-- A change behind a place is a change of what stands there. -/
theorem at?_modifyAt_append (f : Tree → Tree) (rest : List Step) (hu : t.at? p = some u) :
    (modifyAt f (p ++ rest) t).at? p = some (modifyAt f rest u) := by
  induction p generalizing t with
  | nil =>
    obtain rfl : t = u := by simpa using hu
    rfl
  | cons s p ih =>
    obtain ⟨v, hv, hu⟩ := at?_cons_eq_some_iff.mp hu
    refine at?_cons_eq_some_iff.mpr ⟨_, part?_modifyAt_self f s (p ++ rest) t, ?_⟩
    rw [hv]
    exact ih hu

/-- A change behind an index within a sequence leaves it a sequence of as many items. -/
theorem at?_modifyAt_of_goesOnWithin (f : Tree → Tree) {o : Option String} {list : List Tree}
    (hWithin : GoesOnWithin list.length p q) (hv : t.at? p = some (.items o list)) :
    ∃ list', (modifyAt f q t).at? p = some (.items o list') ∧ list'.length = list.length := by
  obtain ⟨i, rest, rfl, hi, hIn⟩ := hWithin
  refine ⟨_, (at?_modifyAt_append f (.index i :: rest) hv).trans
    (congrArg some (modifyAt_index f rest (if_pos hi))), ?_⟩
  rw [List.length_set, length_padded, itemList]
  omega

end Tree

end Lookout.Config
