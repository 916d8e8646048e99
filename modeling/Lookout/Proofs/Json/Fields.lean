import Lookout.Json.Value
import Mathlib.Data.List.Induction
import Mathlib.Data.List.Nodup
import Mathlib.Data.String.Basic
/-!
Fields in increasing order of key: what is found at a key after a field is put in its place, and
which fields are left when a list of them is sorted.
-/
namespace Lookout.Json

variable {α : Type} {k l : String} {v : α} {f : String × α} {list fields : List (String × α)}

/-- Whether keys increase, so that no key stands twice. -/
def KeysIncrease (list : List (String × α)) : Prop := list.Pairwise (·.1 < ·.1)

theorem KeysIncrease.nodup (h : KeysIncrease list) : (list.map (·.1)).Nodup :=
  List.pairwise_map.mpr (h.imp fun hLt => hLt.ne)

theorem mem_of_lookup (h : list.lookup k = some v) : (k, v) ∈ list := by
  obtain ⟨before, behind, rfl, -⟩ := List.lookup_eq_some_iff.mp h
  simp

theorem lookup_of_mem (hNodup : (list.map (·.1)).Nodup) (h : (k, v) ∈ list) :
    list.lookup k = some v := by
  obtain ⟨before, behind, rfl⟩ := List.append_of_mem h
  refine List.lookup_eq_some_iff.mpr ⟨before, behind, rfl, fun g hg => ?_⟩
  rw [List.map_append, List.nodup_append] at hNodup
  exact bne_iff_ne.mpr (hNodup.2.2 g.1 (List.mem_map_of_mem hg) k (by simp)).symm

/-! ### A field put in its place -/

theorem lookup_insertField_self (k : String) (v : α) (list : List (String × α)) :
    (insertField k v list).lookup k = some v := by
  induction list with
  | nil => simp [insertField]
  | cons f rest ih =>
    obtain ⟨key, old⟩ := f
    simp only [insertField]
    split_ifs with hLt hGt
    · simp
    · have hNe : (k == key) = false := beq_eq_false_iff_ne.mpr (ne_of_gt hGt)
      simp only [List.lookup_cons, hNe, ih]
    · simp

theorem lookup_insertField_of_ne (hNe : l ≠ k) (v : α) (list : List (String × α)) :
    (insertField k v list).lookup l = list.lookup l := by
  have hBeq : (l == k) = false := beq_eq_false_iff_ne.mpr hNe
  induction list with
  | nil => simp [insertField, List.lookup_cons, hBeq]
  | cons f rest ih =>
    obtain ⟨key, old⟩ := f
    simp only [insertField]
    split_ifs with hLt hGt
    · simp [List.lookup_cons, hBeq]
    · simp only [List.lookup_cons, ih]
    · obtain rfl : key = k := le_antisymm (not_lt.mp hLt) (not_lt.mp hGt)
      simp only [List.lookup_cons, hBeq]

theorem mem_of_mem_insertField (h : f ∈ insertField k v list) : f = (k, v) ∨ f ∈ list := by
  induction list with
  | nil => simpa [insertField] using h
  | cons g rest ih =>
    obtain ⟨key, old⟩ := g
    simp only [insertField] at h
    split_ifs at h with hLt hGt <;> simp only [List.mem_cons] at h ⊢
    · exact h
    · rcases h with rfl | h
      · exact .inr (.inl rfl)
      · exact (ih h).imp_right .inr
    · exact h.imp_right .inr

theorem KeysIncrease.insertField (h : KeysIncrease list) (k : String) (v : α) :
    KeysIncrease (insertField k v list) := by
  induction list with
  | nil => exact List.pairwise_singleton ..
  | cons g rest ih =>
    obtain ⟨key, old⟩ := g
    obtain ⟨hFirst, hRest⟩ := List.pairwise_cons.mp h
    simp only [Json.insertField]
    split_ifs with hLt hGt
    · exact List.pairwise_cons.mpr
        ⟨List.forall_mem_cons.mpr ⟨hLt, fun f hf => hLt.trans (hFirst f hf)⟩, h⟩
    · refine List.pairwise_cons.mpr ⟨fun f hf => ?_, ih hRest⟩
      rcases mem_of_mem_insertField hf with rfl | hf
      · exact hGt
      · exact hFirst f hf
    · obtain rfl : key = k := le_antisymm (not_lt.mp hLt) (not_lt.mp hGt)
      exact List.pairwise_cons.mpr ⟨hFirst, hRest⟩

theorem insertField_of_lt {key : String} (h : k < key) (v old : α) (rest : List (String × α)) :
    insertField k v ((key, old) :: rest) = (k, v) :: (key, old) :: rest := by
  rw [insertField, if_pos h]

theorem insertField_of_gt {key : String} (h : key < k) (v old : α) (rest : List (String × α)) :
    insertField k v ((key, old) :: rest) = (key, old) :: insertField k v rest := by
  rw [insertField, if_neg h.not_gt, if_pos h]

theorem insertField_same (k : String) (v old : α) (rest : List (String × α)) :
    insertField k v ((k, old) :: rest) = (k, v) :: rest := by
  rw [insertField, if_neg (lt_irrefl k), if_neg (lt_irrefl k)]

/-- Of two fields of one key put in their place the later one is left. -/
theorem insertField_self (k : String) (v w : α) (list : List (String × α)) :
    insertField k v (insertField k w list) = insertField k v list := by
  induction list with
  | nil => exact insertField_same k v w []
  | cons f rest ih =>
    obtain ⟨key, old⟩ := f
    rcases lt_trichotomy k key with hLt | rfl | hGt
    · rw [insertField_of_lt hLt, insertField_of_lt hLt, insertField_same]
    · rw [insertField_same, insertField_same, insertField_same]
    · rw [insertField_of_gt hGt, insertField_of_gt hGt, insertField_of_gt hGt, ih]

theorem insertField_comm_of_lt (hLt : k < l) (v w : α) (list : List (String × α)) :
    insertField k v (insertField l w list) = insertField l w (insertField k v list) := by
  induction list with
  | nil => exact (insertField_of_lt hLt v w []).trans (insertField_of_gt hLt w v []).symm
  | cons f rest ih =>
    obtain ⟨key, old⟩ := f
    rcases lt_trichotomy k key with hBefore | rfl | hBehind
    · rw [insertField_of_lt hBefore, insertField_of_gt hLt]
      rcases lt_trichotomy l key with h | rfl | h
      · rw [insertField_of_lt h, insertField_of_lt hLt]
      · rw [insertField_same, insertField_of_lt hLt]
      · rw [insertField_of_gt h, insertField_of_lt hBefore]
    · rw [insertField_of_gt hLt, insertField_same, insertField_same, insertField_of_gt hLt]
    · rw [insertField_of_gt hBehind, insertField_of_gt (hBehind.trans hLt), insertField_of_gt hBehind, ih,
        insertField_of_gt (hBehind.trans hLt)]

/-- Fields of two keys are put in their places in any order. -/
theorem insertField_comm (hNe : k ≠ l) (v w : α) (list : List (String × α)) :
    insertField k v (insertField l w list) = insertField l w (insertField k v list) :=
  (lt_or_gt_of_ne hNe).elim (fun hLt => insertField_comm_of_lt hLt v w list)
    fun hGt => (insertField_comm_of_lt hGt w v list).symm

/-! ### Fields sorted -/

theorem keysIncrease_sortFields (fields : List (String × α)) : KeysIncrease (sortFields fields) :=
  List.foldlRecOn fields _ List.Pairwise.nil fun _ hDone f _ => hDone.insertField f.1 f.2

/-- Of the fields of a key the last one is left. -/
theorem lookup_sortFields (k : String) (fields : List (String × α)) :
    (sortFields fields).lookup k = fields.reverse.lookup k := by
  induction fields using List.reverseRecOn with
  | nil => rfl
  | append_singleton rest f ih =>
    obtain ⟨key, last⟩ := f
    have hSort : sortFields (rest ++ [(key, last)]) = insertField key last (sortFields rest) := by
      simp [sortFields, List.foldl_append]
    rw [hSort, List.reverse_append, List.reverse_singleton, List.singleton_append, List.lookup_cons]
    by_cases hk : k = key
    · subst hk
      simp only [lookup_insertField_self, beq_self_eq_true]
    · simp only [lookup_insertField_of_ne hk, beq_eq_false_iff_ne.mpr hk, ih]

theorem mem_of_mem_sortFields (h : f ∈ sortFields fields) : f ∈ fields := by
  have hLookup := lookup_of_mem (keysIncrease_sortFields fields).nodup (k := f.1) (v := f.2) h
  rw [lookup_sortFields] at hLookup
  exact List.mem_reverse.mp (mem_of_lookup hLookup)

/-- A field is left if no other value stands at its key. -/
theorem mem_sortFields (h : (k, v) ∈ fields) (hOnly : ∀ w, (k, w) ∈ fields → w = v) :
    (k, v) ∈ sortFields fields := by
  apply mem_of_lookup
  rw [lookup_sortFields]
  cases hLookup : fields.reverse.lookup k with
  | some w =>
    rw [hOnly w (List.mem_reverse.mp (mem_of_lookup hLookup))]
  | none =>
    have hNe := List.lookup_eq_none_iff.mp hLookup (k, v) (List.mem_reverse.mpr h)
    simp at hNe

/-- Nothing but their order changes when fields without a key that stands twice are sorted. -/
theorem sortFields_perm (hNodup : (fields.map (·.1)).Nodup) : (sortFields fields).Perm fields := by
  refine (List.perm_ext_iff_of_nodup (keysIncrease_sortFields fields).nodup.of_map hNodup.of_map).mpr
    fun f => ⟨mem_of_mem_sortFields, fun hf => mem_sortFields hf fun w hw => ?_⟩
  exact Option.some.inj ((lookup_of_mem hNodup hw).symm.trans (lookup_of_mem hNodup hf))

theorem sortFields_of_keysIncrease (h : KeysIncrease fields) : sortFields fields = fields :=
  (sortFields_perm h.nodup).eq_of_pairwise (fun _ _ _ _ hLt hGt => absurd hLt hGt.not_gt)
    (keysIncrease_sortFields fields) h

/-- What is left of fields is the last one of each key. -/
theorem mem_sortFields_iff : (k, v) ∈ sortFields fields ↔ fields.reverse.lookup k = some v := by
  rw [← lookup_sortFields]
  exact ⟨lookup_of_mem (keysIncrease_sortFields fields).nodup, mem_of_lookup⟩

theorem lookup_filter {P : String → Bool} (hk : P k = true) (list : List (String × α)) :
    (list.filter (P ·.1)).lookup k = list.lookup k := by
  induction list with
  | nil => rfl
  | cons f rest ih =>
    obtain ⟨key, old⟩ := f
    rw [List.filter_cons]
    split_ifs with hKey
    · rw [List.lookup_cons, List.lookup_cons, ih]
    · have hNe : k ≠ key := fun hSame => hKey (hSame ▸ hk)
      rw [ih, List.lookup_cons, beq_eq_false_iff_ne.mpr hNe]

/-- The fields of some keys are sorted by themselves. -/
theorem filter_sortFields (P : String → Bool) (fields : List (String × α)) :
    (sortFields fields).filter (P ·.1) = sortFields (fields.filter (P ·.1)) := by
  have hKeys : KeysIncrease ((sortFields fields).filter (P ·.1)) :=
    (keysIncrease_sortFields fields).filter _
  have hKeys' := keysIncrease_sortFields (fields.filter (P ·.1))
  have hPerm : ((sortFields fields).filter (P ·.1)).Perm (sortFields (fields.filter (P ·.1))) := by
    refine (List.perm_ext_iff_of_nodup hKeys.nodup.of_map hKeys'.nodup.of_map).mpr fun ⟨k, v⟩ => ?_
    rw [List.mem_filter, mem_sortFields_iff, mem_sortFields_iff, ← List.filter_reverse]
    by_cases hk : P k = true
    · simp only [hk, and_true, lookup_filter hk]
    · refine iff_of_false (fun h => hk h.2) fun h => hk ?_
      exact (List.mem_filter.mp (mem_of_lookup h)).2
  exact hPerm.eq_of_pairwise (fun f g _ _ hLt hGt => absurd hLt hGt.not_gt) hKeys hKeys'

/-! ### Fields key by key -/

/-- Whether two lists have the same keys in the same order, with a relation between what stands at each. -/
def KeyByKey {β : Type} (R : α → β → Prop) : List (String × α) → List (String × β) → Prop :=
  List.Forall₂ fun f g => g.1 = f.1 ∧ R f.2 g.2

namespace KeyByKey

variable {β : Type} {R : α → β → Prop} {others : List (String × β)}

theorem keys_eq (h : KeyByKey R list others) : others.map (·.1) = list.map (·.1) := by
  induction h with
  | nil => rfl
  | cons hFirst _ ih => rw [List.map_cons, List.map_cons, hFirst.1, ih]

theorem exists_of_mem (h : KeyByKey R list others) : ∀ f ∈ list, ∃ b, R f.2 b := by
  induction h with
  | nil => exact List.forall_mem_nil _
  | cons hFirst _ ih => exact List.forall_mem_cons.mpr ⟨⟨_, hFirst.2⟩, ih⟩

theorem exists_of_lookup (h : KeyByKey R list others) (hLookup : list.lookup k = some v) :
    ∃ b, others.lookup k = some b ∧ R v b := by
  induction h with
  | nil => cases hLookup
  | @cons f g _ _ hFirst _ ih =>
    obtain ⟨key, old⟩ := f
    obtain ⟨_, b⟩ := g
    obtain ⟨rfl, hRel⟩ := hFirst
    rw [List.lookup_cons] at hLookup ⊢
    split at hLookup <;> rename_i hKey <;> rw [hKey]
    · cases hLookup
      exact ⟨b, rfl, hRel⟩
    · exact ih hLookup

end KeyByKey

end Lookout.Json
