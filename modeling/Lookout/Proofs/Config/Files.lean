import Lookout.Config.Loading
import Lookout.Proofs.Config.Sorted
/-!
The files of a directory as layers. Every mapping in them is read in increasing order of key, and the
settings that are read are the environment over the second file over the first.
-/
namespace Lookout.Config

open Json (keysIncrease_sortFields mem_of_mem_sortFields)

/-! ### Nodes -/

mutual

/-- Mappings are read in increasing order of key; of equal keys the last one counts. -/
theorem isSorted_of_treeOf? {origin : String} :
    ∀ {node : Yaml.Node} {t : Tree}, treeOf? origin node = some t → t.IsSorted
  | .mapping nodes, t, h => by
    rw [treeOf?] at h
    obtain ⟨list, hList, rfl⟩ := Option.map_eq_some_iff.mp h
    exact Tree.isSorted_fields.mpr ⟨keysIncrease_sortFields list,
      fun f hf => isSorted_of_fieldsOf? nodes hList f (mem_of_mem_sortFields hf)⟩
  | .sequence nodes, t, h => by
    rw [treeOf?] at h
    obtain ⟨list, hList, rfl⟩ := Option.map_eq_some_iff.mp h
    exact Tree.isSorted_items.mpr (isSorted_of_treesOf? nodes hList)
  | .real s, t, h => by
    rw [treeOf?] at h
    obtain ⟨x, -, rfl⟩ := Option.map_eq_some_iff.mp h
    exact Tree.isSorted_leaf _ _
  | .null, t, h | .invalid, t, h | .bool _, t, h | .int _, t, h | .text _, t, h => by
    cases h
    exact Tree.isSorted_leaf _ _

theorem isSorted_of_treesOf? {origin : String} : ∀ (nodes : List Yaml.Node) {list : List Tree},
    treesOf? origin nodes = some list → ∀ t ∈ list, t.IsSorted
  | [], _, h => by
    cases h
    exact nofun
  | node :: rest, _, h => by
    simp only [treesOf?, Option.bind_eq_bind, Option.pure_def, Option.bind_eq_some_iff,
      Option.some.injEq] at h
    obtain ⟨t, ht, list, hList, rfl⟩ := h
    exact List.forall_mem_cons.mpr ⟨isSorted_of_treeOf? ht, isSorted_of_treesOf? rest hList⟩

theorem isSorted_of_fieldsOf? {origin : String} :
    ∀ (nodes : List (Yaml.Node × Yaml.Node)) {list : List (String × Tree)},
      fieldsOf? origin nodes = some list → ∀ f ∈ list, f.2.IsSorted
  | [], _, h => by
    cases h
    exact nofun
  | (k, v) :: rest, _, h => by
    simp only [fieldsOf?, Option.bind_eq_bind, Option.pure_def, Option.bind_eq_some_iff,
      Option.some.injEq] at h
    obtain ⟨key, -, t, ht, list, hList, rfl⟩ := h
    exact List.forall_mem_cons.mpr ⟨isSorted_of_treeOf? ht, isSorted_of_fieldsOf? rest hList⟩

end

theorem isSorted_nil : (Layer.tree []).IsSorted := Tree.isSorted_fields.mpr ⟨List.Pairwise.nil, nofun⟩

theorem isSorted_of_layerOf? {origin : String} {bytes : ByteArray} {layer : Layer}
    (h : layerOf? origin bytes = some layer) : layer.tree.IsSorted := by
  unfold layerOf? at h
  split at h
  · simp at h
  · obtain rfl := Option.some.inj h
    exact isSorted_nil
  · split at h
    · rename_i hTree
      obtain rfl := Option.some.inj h
      exact Tree.isSorted_fields.mpr (Tree.isSorted_fields.mp (isSorted_of_treeOf? hTree))
    · simp at h
  · simp at h

/-! ### Directories -/

/-- Whether the files of a directory hold two layers. Without a second file the upper one is empty. -/
structure Holds (directory : String) (files : String → Option ByteArray) (base upper : Layer) : Prop where
  base : ∃ bytes, files (plainPath (pathIn directory fileName)) = some bytes ∧
    layerOf? (plainPath (pathIn directory fileName)) bytes = some base
  upper : files (plainPath (pathIn directory localFileName)) = none ∧ upper = [] ∨
    ∃ bytes, files (plainPath (pathIn directory localFileName)) = some bytes ∧
      layerOf? (plainPath (pathIn directory localFileName)) bytes = some upper

section Loading

variable {directory : String} {files : String → Option ByteArray} {base upper : Layer}

theorem Holds.isSorted_base (h : Holds directory files base upper) : base.tree.IsSorted := by
  obtain ⟨bytes, -, hBase⟩ := h.base
  exact isSorted_of_layerOf? hBase

theorem Holds.isSorted_upper (h : Holds directory files base upper) : upper.tree.IsSorted := by
  rcases h.upper with ⟨-, rfl⟩ | ⟨bytes, -, hUpper⟩
  · exact isSorted_nil
  · exact isSorted_of_layerOf? hUpper

/-- The settings that are read are the environment over the second file over the first. -/
theorem load_eq (h : Holds directory files base upper) (bindings : List (String × String)) :
    load directory files bindings =
      (read .lenient (stack [base, upper, Environment.layer bindings])).mapError .fault := by
  obtain ⟨bytes, hBytes, hBase⟩ := h.base
  rcases h.upper with ⟨hNone, rfl⟩ | ⟨bytes', hBytes', hUpper⟩
  · simp only [load, loadUnder, hBytes, hBase, hNone]
  · simp only [load, loadUnder, hBytes, hBase, hBytes', hUpper]

/-- Settings are loaded from files that hold layers. -/
theorem exists_of_load {bindings : List (String × String)} {c : Config}
    (h : load directory files bindings = .ok c) :
    ∃ base upper, Holds directory files base upper ∧
      read .lenient (stack [base, upper, Environment.layer bindings]) = .ok c := by
  simp only [load, loadUnder] at h
  split at h
  · cases h
  · rename_i bytes hBytes
    split at h
    · cases h
    · rename_i base hBase
      split at h
      · cases h
      · rename_i upper hUpper
        refine ⟨base, upper, ⟨⟨bytes, hBytes, hBase⟩, ?_⟩, ?_⟩
        · split at hUpper
          · rename_i hNone
            exact .inl ⟨hNone, (Option.some.inj hUpper).symm⟩
          · rename_i bytes' hBytes'
            exact .inr ⟨bytes', hBytes', hUpper⟩
        · cases hRead : read .lenient (stack [base, upper, Environment.layer bindings]) with
          | ok c' =>
            rw [hRead] at h
            cases h
            rfl
          | error e =>
            rw [hRead] at h
            cases h

end Loading

end Lookout.Config
