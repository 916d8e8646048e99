import Lookout.Proofs.Config.Overlays
import Mathlib.Data.List.TakeWhile
/-!
Layers laid over trees. A layer of plain names is laid over a mapping like a mapping; of a layer whose
paths are apart from each other every value stands at its path, and what is apart from all of them
stays.
-/
namespace Lookout.Config

/-! ### Names that are paths -/

namespace Path

/-- Whether a name of a setting is a key as a whole. -/
def IsPlain (name : String) : Prop := ofName name = [.key name]

instance (name : String) : Decidable (IsPlain name) := inferInstanceAs (Decidable (_ = _))

theorem ofName_eq_cons (name : String) : ∃ k rest, ofName name = .key k :: rest := by
  unfold ofName
  cases hRead : read? name with
  | none => exact ⟨name, [], rfl⟩
  | some path =>
    simp only [read?, Option.bind_eq_bind, Option.pure_def, Option.bind_eq_some_iff] at hRead
    obtain ⟨⟨k, rest⟩, -, steps, -, hPath⟩ := hRead
    cases hPath
    exact ⟨k, steps, rfl⟩

end Path

/-! ### Layers over trees -/

namespace Layer

variable {layer : Layer} {o : Option String} {fields : List (String × Tree)} {t v : Tree} {p : List Step}

/-- A layer as a mapping of its names. -/
def tree (layer : Layer) : Tree := .fields none layer

/-- Whether all names of a layer are plain. -/
def IsPlain (layer : Layer) : Prop := ∀ f ∈ layer, Path.IsPlain f.1

theorem overlay_cons (f : String × Tree) (rest : Layer) (t : Tree) :
    Layer.overlay (f :: rest) t = rest.overlay (f.2.overAt (Path.ofName f.1) t) := rfl

/-- A layer over a mapping gives a mapping. -/
theorem overlay_fields (layer : Layer) (o : Option String) (fields : List (String × Tree)) :
    ∃ fields', layer.overlay (.fields o fields) = .fields o fields' := by
  induction layer generalizing fields with
  | nil => exact ⟨fields, rfl⟩
  | cons f rest ih =>
    obtain ⟨k, steps, hPath⟩ := Path.ofName_eq_cons f.1
    rw [overlay_cons, Tree.overAt, hPath]
    exact ih _

/-- A layer of plain names is laid over a mapping like a mapping. -/
theorem overlay_of_isPlain (hPlain : layer.IsPlain) (o : Option String)
    (fields : List (String × Tree)) :
    layer.overlay (.fields o fields) = Tree.overlay layer.tree (.fields o fields) := by
  rw [tree, Tree.overlay]
  induction layer generalizing fields with
  | nil => rfl
  | cons f rest ih =>
    obtain ⟨hFirst, hRest⟩ := List.forall_mem_cons.mp hPlain
    rw [overlay_cons, Tree.overAt, hFirst]
    exact ih hRest _

/-- Whatever is apart from the paths of a layer stays under it. -/
theorem at?_overlay_of_apart (hApart : ∀ f ∈ layer, Apart (Path.ofName f.1) p)
    (hv : t.at? p = some v) : (layer.overlay t).at? p = some v := by
  induction layer generalizing t with
  | nil => exact hv
  | cons f rest ih =>
    obtain ⟨hFirst, hRest⟩ := List.forall_mem_cons.mp hApart
    exact ih hRest (Tree.at?_modifyAt_of_apart _ hFirst hv)

/-- In a layer whose paths are pairwise apart, each value that is no mapping stands at its path. -/
theorem at?_overlay_of_mem {f : String × Tree}
    (hApart : layer.Pairwise fun f g => Apart (Path.ofName f.1) (Path.ofName g.1))
    (hf : f ∈ layer) (hLeaf : f.2.isMapping = false) (t : Tree) :
    (layer.overlay t).at? (Path.ofName f.1) = some f.2 := by
  induction layer generalizing t with
  | nil => simp at hf
  | cons g rest ih =>
    obtain ⟨hFirst, hRest⟩ := List.pairwise_cons.mp hApart
    rcases List.mem_cons.mp hf with rfl | hf
    · obtain ⟨x, hx⟩ := Tree.at?_modifyAt_self (Tree.overlay f.2) (Path.ofName f.1) t
      rw [Tree.overlay_of_not_mapping hLeaf] at hx
      rw [overlay_cons]
      exact at?_overlay_of_apart (fun g hg => (hFirst g hg).symm) hx
    · exact ih hRest hf _

/-- Paths at indices within a sequence leave it a sequence of as many items. -/
theorem at?_overlay_items {list : List Tree}
    (hWithin : ∀ f ∈ layer, Apart (Path.ofName f.1) p ∨ GoesOnWithin list.length p (Path.ofName f.1))
    (hv : t.at? p = some (.items o list)) :
    ∃ list', (layer.overlay t).at? p = some (.items o list') ∧ list'.length = list.length := by
  induction layer generalizing t list with
  | nil => exact ⟨list, hv, rfl⟩
  | cons f rest ih =>
    obtain ⟨hFirst, hRest⟩ := List.forall_mem_cons.mp hWithin
    rw [overlay_cons, Tree.overAt]
    rcases hFirst with hApart | hFirst
    · exact ih hRest (Tree.at?_modifyAt_of_apart _ hApart hv)
    · obtain ⟨list', hStep, hLength⟩ := Tree.at?_modifyAt_of_goesOnWithin _ hFirst hv
      rw [← hLength] at hRest ⊢
      exact ih hRest hStep

end Layer

end Lookout.Config
