import Lookout.Config.Environment
import Lookout.Proofs.Config.Places
import Mathlib.Data.List.Pairwise
/-!
Settings of the environment: which paths variables set, and that the layer of the environment holds a
text for each of them and nothing else.
-/
namespace Lookout.Config.Environment

open Json (keysIncrease_sortFields mem_sortFields mem_of_mem_sortFields)

variable {bindings : List (String × String)} {b : String × String} {name : String}

/-- The name of the setting that a variable holds. -/
def nameOf? (variableName : String) : Option String :=
  settingName? (String.ofList (indexed variableName.toList))

/-- What variables set: a path and a text for each that holds a setting. -/
def settings (bindings : List (String × String)) : List (List Step × String) :=
  bindings.filterMap fun b => (nameOf? b.1).map fun name => (Path.ofName name, b.2)

/-- Whether the paths that variables set are pairwise compatible. -/
def AreCompatible (bindings : List (String × String)) : Prop :=
  (settings bindings).Pairwise fun d e => Apart d.1 e.1

/-- The field of a setting in the layer of the environment. -/
def fieldOf (name value : String) : String × Tree := (name, .leaf (some origin) (.text value))

theorem rewritten_eq (bindings : List (String × String)) : rewritten bindings =
    Json.sortFields (bindings.map fun b => (String.ofList (indexed b.1.toList), b.2)) := by
  rw [Json.sortFields, List.foldl_map]
  rfl

theorem layerOf_eq (named : List (String × String)) : layerOf named =
    Json.sortFields (named.filterMap fun b =>
      (settingName? b.1).map fun name => fieldOf name b.2) := by
  rw [Json.sortFields, List.foldl_filterMap, layerOf]
  refine List.foldl_ext _ _ _ fun done b _ => ?_
  obtain ⟨key, value⟩ := b
  dsimp only
  cases settingName? key <;> rfl

theorem layer_eq (bindings : List (String × String)) : layer bindings =
    Json.sortFields ((rewritten bindings).filterMap fun b =>
      (settingName? b.1).map fun name => fieldOf name b.2) := layerOf_eq _

/-- A setting comes from a variable. -/
theorem exists_of_mem_rewritten {f : String × Tree}
    (hf : f ∈ (rewritten bindings).filterMap fun b =>
      (settingName? b.1).map fun name => fieldOf name b.2) :
    ∃ b ∈ bindings, ∃ name, nameOf? b.1 = some name ∧ f = fieldOf name b.2 := by
  obtain ⟨⟨rewrittenName, value⟩, hMem, hField⟩ := List.mem_filterMap.mp hf
  rw [rewritten_eq] at hMem
  obtain ⟨b, hb, hPair⟩ := List.mem_map.mp (mem_of_mem_sortFields hMem)
  cases hPair
  obtain ⟨name, hName, rfl⟩ := Option.map_eq_some_iff.mp hField
  exact ⟨b, hb, name, hName, rfl⟩

theorem exists_of_mem_layer {f : String × Tree} (hf : f ∈ layer bindings) :
    ∃ b ∈ bindings, ∃ name, nameOf? b.1 = some name ∧ f = fieldOf name b.2 := by
  rw [layer_eq] at hf
  exact exists_of_mem_rewritten (mem_of_mem_sortFields hf)

/-- A variable is in the layer if no other one sets its path. -/
theorem mem_layer (hb : b ∈ bindings) (hName : nameOf? b.1 = some name)
    (hOnly : ∀ c ∈ bindings, ∀ other, nameOf? c.1 = some other →
      Path.ofName other = Path.ofName name → c = b) :
    fieldOf name b.2 ∈ layer bindings := by
  -- Names are rewritten twice, and at both turns a variable could be lost to another of equal name.
  have hRewritten : (String.ofList (indexed b.1.toList), b.2) ∈ rewritten bindings := by
    rw [rewritten_eq]
    refine mem_sortFields (List.mem_map.mpr ⟨b, hb, rfl⟩) fun value hValue => ?_
    obtain ⟨c, hc, hPair⟩ := List.mem_map.mp hValue
    obtain ⟨hRewrite, rfl⟩ := Prod.mk.inj hPair
    have hSame : nameOf? c.1 = some name := by rw [nameOf?, hRewrite]; exact hName
    rw [hOnly c hc name hSame rfl]
  rw [layer_eq]
  refine mem_sortFields (List.mem_filterMap.mpr ⟨_, hRewritten, ?_⟩) fun t ht => ?_
  · rw [nameOf?] at hName
    rw [hName]
    rfl
  · obtain ⟨c, hc, other, hOther, hField⟩ := exists_of_mem_rewritten ht
    obtain ⟨rfl, rfl⟩ := Prod.mk.inj hField
    rw [hOnly c hc _ hOther rfl]

theorem mem_settings {e : List Step × String} : e ∈ settings bindings ↔
    ∃ b ∈ bindings, ∃ name, nameOf? b.1 = some name ∧ e = (Path.ofName name, b.2) := by
  simp only [settings, List.mem_filterMap, Option.map_eq_some_iff, eq_comm (a := e)]

theorem apart_of_ne {c : String × String} {other : String}
    (hCompatible : AreCompatible bindings)
    (hb : b ∈ bindings) (hName : nameOf? b.1 = some name)
    (hc : c ∈ bindings) (hOther : nameOf? c.1 = some other) (hNe : b ≠ c) :
    Apart (Path.ofName name) (Path.ofName other) := by
  have hPairs := List.pairwise_filterMap.mp hCompatible
  have hSymm : Std.Symm fun b c : String × String =>
      ∀ d, ((nameOf? b.1).map fun name => (Path.ofName name, b.2)) = some d →
        ∀ e, ((nameOf? c.1).map fun name => (Path.ofName name, c.2)) = some e → Apart d.1 e.1 :=
    ⟨fun _ _ h d hd e he => (h e he d hd).symm⟩
  exact hPairs.forall hb hc hNe (Path.ofName name, b.2) (by rw [hName]; rfl)
    (Path.ofName other, c.2) (by rw [hOther]; rfl)

/-- The settings of the environment are in its layer, if their paths are pairwise compatible. -/
theorem mem_layer_of_mem_settings (hCompatible : AreCompatible bindings)
    {e : List Step × String} (he : e ∈ settings bindings) :
    ∃ name, e.1 = Path.ofName name ∧ fieldOf name e.2 ∈ layer bindings := by
  obtain ⟨b, hb, name, hName, rfl⟩ := mem_settings.mp he
  refine ⟨name, rfl, mem_layer hb hName fun c hc other hOther hPath => ?_⟩
  by_contra hNe
  have hSelf := apart_of_ne hCompatible hc hOther hb hName hNe
  rw [hPath] at hSelf
  exact Apart.irrefl _ hSelf

theorem pairwise_layer (hCompatible : AreCompatible bindings) :
    (layer bindings).Pairwise fun f g => Apart (Path.ofName f.1) (Path.ofName g.1) := by
  have hNodup : (layer bindings).Nodup := by
    rw [layer_eq]
    exact (keysIncrease_sortFields _).nodup.of_map
  refine hNodup.pairwise_of_forall_ne fun f hf g hg hNe => ?_
  obtain ⟨b, hb, name, hName, rfl⟩ := exists_of_mem_layer hf
  obtain ⟨c, hc, other, hOther, rfl⟩ := exists_of_mem_layer hg
  refine apart_of_ne hCompatible hb hName hc hOther fun hEq => hNe ?_
  subst hEq
  obtain rfl : name = other := Option.some.inj (hName.symm.trans hOther)
  rfl

end Lookout.Config.Environment
