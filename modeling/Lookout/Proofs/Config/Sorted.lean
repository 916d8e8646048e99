import Lookout.Proofs.Config.Layers
import Lookout.Proofs.Config.Settings
/-!
Trees in which the fields of every mapping are in increasing order of key. A change at the end of some
steps and a layer laid over such a tree keep it so.
-/
namespace Lookout.Config

open Json (KeysIncrease mem_of_mem_insertField)

namespace Tree

variable {t u upper lower : Tree} {o : Option String} {k : String} {list : List Tree}
  {fields above : List (String × Tree)} {f : Tree → Tree} {p : List Step}

mutual

/-- Whether the fields of every mapping are in increasing order of key. -/
def IsSorted : Tree → Prop
  | .leaf _ _ => True
  | .items _ list => AreSorted list
  | .fields _ list => KeysIncrease list ∧ FieldsSorted list

/-- Whether trees are sorted. -/
def AreSorted : List Tree → Prop
  | [] => True
  | t :: rest => IsSorted t ∧ AreSorted rest

/-- Whether the values of fields are sorted. -/
def FieldsSorted : List (String × Tree) → Prop
  | [] => True
  | (_, t) :: rest => IsSorted t ∧ FieldsSorted rest

end

theorem areSorted_iff : AreSorted list ↔ ∀ t ∈ list, IsSorted t := by
  induction list with
  | nil => simp [AreSorted]
  | cons t rest ih => simp [AreSorted, ih]

theorem fieldsSorted_iff : FieldsSorted fields ↔ ∀ f ∈ fields, IsSorted f.2 := by
  induction fields with
  | nil => simp [FieldsSorted]
  | cons f rest ih => simp [FieldsSorted, ih]

@[simp] theorem isSorted_leaf (o : Option String) (x : Scalar) : IsSorted (.leaf o x) := by
  simp [IsSorted]

theorem isSorted_items : IsSorted (.items o list) ↔ ∀ t ∈ list, IsSorted t := by
  rw [IsSorted, areSorted_iff]

theorem isSorted_fields :
    IsSorted (.fields o fields) ↔ KeysIncrease fields ∧ ∀ f ∈ fields, IsSorted f.2 := by
  rw [IsSorted, fieldsSorted_iff]

mutual

theorem IsSorted.isKeyed : ∀ {t : Tree}, t.IsSorted → t.IsKeyed
  | .leaf _ _, _ => by simp [IsKeyed]
  | .items _ _, _ => by simp [IsKeyed]
  | .fields _ list, h => by
    rw [IsSorted] at h
    rw [IsKeyed]
    exact ⟨h.1.nodup, FieldsSorted.areKeyed list h.2⟩

theorem FieldsSorted.areKeyed : ∀ fields : List (String × Tree), FieldsSorted fields → AreKeyed fields
  | [], _ => by simp [AreKeyed]
  | (_, t) :: rest, h => by
    rw [FieldsSorted] at h
    rw [AreKeyed]
    exact ⟨h.1.isKeyed, FieldsSorted.areKeyed rest h.2⟩

end

/-! ### Changes of sorted trees -/

theorem isSorted_nothing : nothing.IsSorted := isSorted_leaf none .null

theorem IsSorted.fieldList (h : t.IsSorted) :
    KeysIncrease t.fieldList ∧ ∀ f ∈ t.fieldList, f.2.IsSorted := by
  cases t with
  | fields o list => exact isSorted_fields.mp h
  | _ => exact ⟨List.Pairwise.nil, nofun⟩

theorem IsSorted.itemList (h : t.IsSorted) : ∀ u ∈ t.itemList, u.IsSorted := by
  cases t with
  | items o list => exact isSorted_items.mp h
  | _ => exact nofun

theorem isSorted_getD {found : Option Tree} (h : ∀ u, found = some u → u.IsSorted) :
    (found.getD nothing).IsSorted := by
  cases found with
  | none => exact isSorted_nothing
  | some u => exact h u rfl

theorem isSorted_lookup (h : ∀ f ∈ fields, f.2.IsSorted) (k : String) :
    ((fields.lookup k).getD nothing).IsSorted :=
  isSorted_getD fun u hu => h (k, u) (Json.mem_of_lookup hu)

theorem isSorted_insertField (o : Option String) (hKeys : KeysIncrease fields)
    (hFields : ∀ f ∈ fields, f.2.IsSorted) (k : String) (ht : t.IsSorted) :
    IsSorted (.fields o (Json.insertField k t fields)) := by
  refine isSorted_fields.mpr ⟨hKeys.insertField k t, fun f hf => ?_⟩
  rcases mem_of_mem_insertField hf with rfl | hf
  · exact ht
  · exact hFields f hf

theorem isSorted_of_mem_padded {place before : Nat} (h : ∀ u ∈ list, u.IsSorted)
    (hu : u ∈ padded list place before) : u.IsSorted := by
  simp only [padded, List.mem_append, List.mem_replicate] at hu
  rcases hu with (⟨-, rfl⟩ | hu) | ⟨-, rfl⟩
  · exact isSorted_nothing
  · exact h u hu
  · exact isSorted_nothing

/-- A change that keeps trees sorted does so at the end of any steps. -/
theorem isSorted_modifyAt (hf : ∀ u, u.IsSorted → (f u).IsSorted) (p : List Step) (ht : t.IsSorted) :
    (modifyAt f p t).IsSorted := by
  induction p generalizing t with
  | nil => exact hf t ht
  | cons s rest ih =>
    cases s with
    | key k =>
      rw [modifyAt, childOf]
      exact isSorted_insertField _ ht.fieldList.1 ht.fieldList.2 k
        (ih (isSorted_lookup ht.fieldList.2 k))
    | index i =>
      have hItems : ∀ place before, ∀ u ∈ padded t.itemList place before, u.IsSorted :=
        fun place before u hu => isSorted_of_mem_padded ht.itemList hu
      refine isSorted_items.mpr fun u hu => ?_
      rcases List.mem_or_eq_of_mem_set hu with hu | rfl
      · exact hItems _ _ u hu
      · exact ih (isSorted_getD fun v hv => hItems _ _ v (List.mem_of_getElem? hv))

mutual

theorem isSorted_overlay : ∀ {upper lower : Tree}, upper.IsSorted → lower.IsSorted →
    (overlay upper lower).IsSorted
  | .leaf _ _, _, h, _ => h
  | .items _ _, _, h, _ => h
  | .fields _ above, lower, h, hLower => by
    rw [IsSorted] at h
    rw [overlay]
    exact isSorted_fieldsOver above h.2 lower.fieldOrigin hLower.fieldList.1 hLower.fieldList.2

theorem isSorted_fieldsOver : ∀ (above : List (String × Tree)) {below : List (String × Tree)},
    FieldsSorted above → ∀ o, KeysIncrease below → (∀ f ∈ below, f.2.IsSorted) →
      IsSorted (.fields o (fieldsOver above below))
  | [], _, _, _, hKeys, hFields => by
    rw [fieldsOver]
    exact isSorted_fields.mpr ⟨hKeys, hFields⟩
  | (k, t) :: rest, _, h, o, hKeys, hFields => by
    rw [FieldsSorted] at h
    rw [fieldsOver]
    have hInsert := isSorted_fields.mp (isSorted_insertField o hKeys hFields k
      (isSorted_overlay h.1 (isSorted_lookup hFields k)))
    exact isSorted_fieldsOver rest h.2 o hInsert.1 hInsert.2

end

end Tree

/-! ### Layers -/

/-- A layer of sorted trees over a sorted tree. -/
theorem Layer.isSorted_overlay {layer : Layer} {t : Tree} (h : ∀ f ∈ layer, f.2.IsSorted)
    (ht : t.IsSorted) : (layer.overlay t).IsSorted :=
  List.foldlRecOn layer _ ht fun _ ht f hf =>
    Tree.isSorted_modifyAt (fun _ hu => Tree.isSorted_overlay (h f hf) hu) _ ht

theorem isSorted_stack {layers : List Layer} (h : ∀ layer ∈ layers, ∀ f ∈ layer, f.2.IsSorted) :
    (stack layers).IsSorted :=
  List.foldlRecOn layers _ (Tree.isSorted_fields.mpr ⟨List.Pairwise.nil, nofun⟩)
    fun _ ht layer hLayer => Layer.isSorted_overlay (h layer hLayer) ht

theorem Environment.isSorted_layer {bindings : List (String × String)} :
    ∀ f ∈ layer bindings, f.2.IsSorted := by
  intro f hf
  obtain ⟨b, -, name, -, rfl⟩ := exists_of_mem_layer hf
  exact Tree.isSorted_leaf _ _

end Lookout.Config
