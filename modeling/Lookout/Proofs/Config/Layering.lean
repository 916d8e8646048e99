import Lookout.Proofs.Config.Files
/-!
The settings of a directory as one tree: the environment over the second file over the first. A
setting of the environment stands at its path, a value of the second file where the environment does
not touch it, and a value of the first file where neither does.
-/
namespace Lookout.Config

/-! ### Three layers -/

section Stack

variable {lower upper env : Layer} {bindings : List (String × String)} {p : List Step} {v : Tree}

theorem stack_one (lower : Layer) : ∃ fields, stack [lower] = .fields none fields :=
  lower.overlay_fields none []

/-- A layer of plain names by itself is laid over nothing like a mapping. -/
theorem stack_one_of_isPlain (hPlain : lower.IsPlain) :
    stack [lower] = Tree.overlay lower.tree (.fields none []) :=
  Layer.overlay_of_isPlain hPlain none []

theorem stack_two_of_isPlain (hPlain : upper.IsPlain) (lower : Layer) :
    stack [lower, upper] = Tree.overlay upper.tree (stack [lower]) := by
  obtain ⟨fields, hFields⟩ := stack_one lower
  have hStack : stack [lower, upper] = upper.overlay (stack [lower]) := rfl
  rw [hStack, hFields, Layer.overlay_of_isPlain hPlain none]

section Lower

variable (hPlain : lower.IsPlain) (hKeyed : lower.tree.IsKeyed)

include hPlain hKeyed

/-- A layer of plain names by itself holds what is no mapping where it is written. -/
theorem at?_stack_one (hv : lower.tree.at? p = some v) (hLeaf : v.isMapping = false) :
    (stack [lower]).at? p = some v := by
  rw [stack_one_of_isPlain hPlain]
  exact Tree.at?_overlay_upper hKeyed hv hLeaf _

/-- It holds mappings at least where they are written. -/
theorem spares_stack_one (hSpares : upper.tree.Spares lower.tree p) :
    upper.tree.Spares (stack [lower]) p :=
  hSpares.mono fun q hq => by
    rw [stack_one_of_isPlain hPlain]
    exact Tree.mapsAt_overlay hKeyed hq _

end Lower

section Upper

variable (hPlain : upper.IsPlain) (hKeyed : upper.tree.IsKeyed)

include hPlain hKeyed

theorem at?_stack_upper (hv : upper.tree.at? p = some v) (hLeaf : v.isMapping = false) :
    (stack [lower, upper]).at? p = some v := by
  rw [stack_two_of_isPlain hPlain]
  exact Tree.at?_overlay_upper hKeyed hv hLeaf _

theorem at?_stack_lower (hSpares : upper.tree.Spares (stack [lower]) p)
    (hv : (stack [lower]).at? p = some v) (hLeaf : v.isMapping = false) :
    (stack [lower, upper]).at? p = some v := by
  rw [stack_two_of_isPlain hPlain]
  exact Tree.at?_overlay_lower hKeyed hSpares hv hLeaf

/-- Mappings in two layers are merged: the keys of either are those of both. -/
theorem at?_stack_merged {names : List String} {o o' : Option String}
    {fields above : List (String × Tree)}
    (hFields : (stack [lower]).at? (names.map .key) = some (.fields o fields))
    (hAbove : upper.tree.at? (names.map .key) = some (.fields o' above)) :
    ∃ fields', (stack [lower, upper]).at? (names.map .key) = some (.fields o fields') ∧
      ∀ k, (fields'.lookup k).isSome = ((above.lookup k).isSome || (fields.lookup k).isSome) := by
  rw [stack_two_of_isPlain hPlain, Tree.at?_overlay_both hKeyed hAbove hFields, Tree.overlay]
  exact ⟨_, rfl, fun k => Tree.isSome_lookup_fieldsOver (hKeyed.at? hAbove).nodup k fields⟩

end Upper

section Settings

variable (hEnv : env.Perm (Environment.layer bindings))

include hEnv

/-- The layer of the environment in any order sets no path but those of the settings. -/
theorem forall_mem_layer {P : List Step → Prop} (h : ∀ e ∈ Environment.settings bindings, P e.1) :
    ∀ f ∈ env, P (Path.ofName f.1) := by
  intro f hf
  obtain ⟨b, hb, name, hName, rfl⟩ := Environment.exists_of_mem_layer (hEnv.mem_iff.mp hf)
  exact h _ (Environment.mem_settings.mpr ⟨b, hb, name, hName, rfl⟩)

theorem at?_stack_setting (hCompatible : Environment.AreCompatible bindings)
    {e : List Step × String} (he : e ∈ Environment.settings bindings) :
    (stack [lower, upper, env]).at? e.1 = some (.leaf (some Environment.origin) (.text e.2)) := by
  obtain ⟨name, hPath, hMem⟩ := Environment.mem_layer_of_mem_settings hCompatible he
  have hPairwise := (hEnv.pairwise_iff fun h => h.symm).mpr (Environment.pairwise_layer hCompatible)
  rw [hPath]
  exact Layer.at?_overlay_of_mem hPairwise (hEnv.mem_iff.mpr hMem) rfl _

theorem at?_stack_of_apart (hApart : ∀ e ∈ Environment.settings bindings, Apart e.1 p)
    (hv : (stack [lower, upper]).at? p = some v) : (stack [lower, upper, env]).at? p = some v :=
  Layer.at?_overlay_of_apart (forall_mem_layer (P := (Apart · p)) hEnv hApart) hv

end Settings

end Stack

/-! ### The whole tree -/

/-- Whether a path is compatible with the paths of all settings. -/
def Untouched (settings : List (List Step × String)) (p : List Step) : Prop :=
  ∀ e ∈ settings, Apart e.1 p

/-- What stands in a tree made of a lower layer, an upper one over it, and settings over both. -/
structure Layered (lower upper : Layer) (settings : List (List Step × String)) (t : Tree) : Prop where
  /-- At the path of each setting stands its text. -/
  setting : ∀ e ∈ settings, t.at? e.1 = some (.leaf (some Environment.origin) (.text e.2))
  /-- What is no mapping in the upper layer stands where it is written, if no setting touches it. -/
  upperLeaf : ∀ p v, Untouched settings p → upper.tree.at? p = some v → v.isMapping = false →
    t.at? p = some v
  /-- What is no mapping in the lower layer stands where it stood, if no setting touches it and the
  upper layer spares it. -/
  lowerLeaf : ∀ p v, Untouched settings p → upper.tree.Spares (stack [lower]) p →
    (stack [lower]).at? p = some v → v.isMapping = false → t.at? p = some v
  /-- A lower layer whose names are plain stands where it is written. -/
  plainLeaf : lower.IsPlain → ∀ p v, Untouched settings p → upper.tree.Spares lower.tree p →
    lower.tree.at? p = some v → v.isMapping = false → t.at? p = some v
  /-- Mappings in both layers are merged: the keys of either are those of both. -/
  merged : ∀ (names : List String) o o' fields above,
    (stack [lower]).at? (names.map .key) = some (.fields o fields) →
    upper.tree.at? (names.map .key) = some (.fields o' above) →
    ∃ fields', (stack [lower, upper]).at? (names.map .key) = some (.fields o fields') ∧
      ∀ k, (fields'.lookup k).isSome = ((above.lookup k).isSome || (fields.lookup k).isSome)
  /-- Settings change nothing that their paths are apart from. -/
  frame : ∀ p v, Untouched settings p → (stack [lower, upper]).at? p = some v → t.at? p = some v
  /-- Settings at indices within a sequence leave it a sequence of as many items. -/
  items : ∀ p o list, (stack [lower, upper]).at? p = some (.items o list) →
    (∀ e ∈ settings, Apart e.1 p ∨ GoesOnWithin list.length p e.1) →
    ∃ list', t.at? p = some (.items o list') ∧ list'.length = list.length

/-- The environment in any order over the second file over the first. -/
theorem layered_stack {lower upper env : Layer} {bindings : List (String × String)}
    (hLower : lower.tree.IsKeyed) (hUpper : upper.tree.IsKeyed) (hPlain : upper.IsPlain)
    (hCompatible : Environment.AreCompatible bindings)
    (hEnv : env.Perm (Environment.layer bindings)) :
    Layered lower upper (Environment.settings bindings) (stack [lower, upper, env]) where
  setting _ he := at?_stack_setting hEnv hCompatible he
  upperLeaf _ _ hFree hv hLeaf := at?_stack_of_apart hEnv hFree (at?_stack_upper hPlain hUpper hv hLeaf)
  lowerLeaf _ _ hFree hSpares hv hLeaf :=
    at?_stack_of_apart hEnv hFree (at?_stack_lower hPlain hUpper hSpares hv hLeaf)
  plainLeaf hPlain' _ _ hFree hSpares hv hLeaf :=
    at?_stack_of_apart hEnv hFree (at?_stack_lower hPlain hUpper
      (spares_stack_one hPlain' hLower hSpares) (at?_stack_one hPlain' hLower hv hLeaf) hLeaf)
  merged _ _ _ _ _ hFields hAbove := at?_stack_merged hPlain hUpper hFields hAbove
  frame _ _ hFree hv := at?_stack_of_apart hEnv hFree hv
  items p _ list hv hWithin := Layer.at?_overlay_items
    (forall_mem_layer (P := fun q => Apart q p ∨ GoesOnWithin list.length p q) hEnv hWithin) hv

/-- The settings of a directory are those of its files and of the environment in their places. -/
theorem load_layered {directory : String} {files : String → Option ByteArray} {lower upper : Layer}
    {bindings : List (String × String)} (hHolds : Holds directory files lower upper)
    (hPlain : upper.IsPlain) (hCompatible : Environment.AreCompatible bindings) :
    load directory files bindings =
        (read .lenient (stack [lower, upper, Environment.layer bindings])).mapError .fault ∧
      ∀ env, env.Perm (Environment.layer bindings) →
        Layered lower upper (Environment.settings bindings) (stack [lower, upper, env]) :=
  ⟨load_eq hHolds bindings, fun _ hEnv =>
    layered_stack hHolds.isSorted_base.isKeyed hHolds.isSorted_upper.isKeyed hPlain hCompatible hEnv⟩

/-! ### A directory with two files -/

/-- Two crawls in the first file. -/
def Sample.crawlFile : String := "crawls:\n- name: pool\n- name: rail\n"

/-- A part of the logging in the second file. -/
def Sample.logFile : String := "log: {level: warn}\n"

/-- The files of a directory. -/
def Sample.files (path : String) : Option ByteArray :=
  if path = "conf/config.yaml" then some Sample.crawlFile.toUTF8
  else if path = "conf/config.local.yaml" then some Sample.logFile.toUTF8
  else none

/-- What the first file holds. -/
def Sample.crawlLayer : Layer := (layerOf? "conf/config.yaml" crawlFile.toUTF8).getD []

/-- What the second file holds. -/
def Sample.logLayer : Layer := (layerOf? "conf/config.local.yaml" logFile.toUTF8).getD []

/-- Variables that set two settings, and one that sets none. -/
def Sample.bindings : List (String × String) :=
  [("APP_CRAWLS_1_NAME", "train"), ("HOME", "/"), ("APP_LOG_CALLER", "true")]

theorem Sample.holds : Holds "conf" files crawlLayer logLayer where
  base := by
    have hPath : plainPath (pathIn "conf" fileName) = "conf/config.yaml" := by decide +kernel
    have hRead : (layerOf? "conf/config.yaml" crawlFile.toUTF8).isSome = true := by decide +kernel
    rw [hPath]
    exact ⟨_, rfl, (Option.getD_of_ne_none (Option.isSome_iff_ne_none.mp hRead) []).symm⟩
  upper := by
    have hPath : plainPath (pathIn "conf" localFileName) = "conf/config.local.yaml" := by decide +kernel
    have hRead : (layerOf? "conf/config.local.yaml" logFile.toUTF8).isSome = true := by decide +kernel
    rw [hPath]
    exact .inr ⟨_, rfl, (Option.getD_of_ne_none (Option.isSome_iff_ne_none.mp hRead) []).symm⟩

theorem Sample.settings_bindings : Environment.settings bindings =
    [([.key "crawls", .index 1, .key "name"], "train"), ([.key "log", .key "caller"], "true")] := by
  decide +kernel

/-- In the directory the second name is that of the environment and the first one is as it was. -/
theorem directory_layered :
    ∃ t, load "conf" Sample.files Sample.bindings = (read .lenient t).mapError .fault ∧
      t.textAt? [.key "crawls", .index 1, .key "name"] = some "train" ∧
      t.textAt? [.key "crawls", .index 0, .key "name"] = some "pool" ∧
      t.textAt? [.key "log", .key "level"] = some "warn" ∧
      t.textAt? [.key "log", .key "caller"] = some "true" := by
  have hPlain : Sample.logLayer.IsPlain := by
    have hAll : Sample.logLayer.all (fun f => decide (Path.IsPlain f.1)) = true := by decide +kernel
    simpa [Layer.IsPlain] using hAll
  have hCompatible : Environment.AreCompatible Sample.bindings := by
    rw [Environment.AreCompatible, Sample.settings_bindings]
    exact List.pairwise_pair.mpr (.here (by decide))
  obtain ⟨hLoad, hLayered⟩ := load_layered Sample.holds hPlain hCompatible
  have h := hLayered _ (List.Perm.refl _)
  rw [Sample.settings_bindings] at h
  have hPool : (stack [Sample.crawlLayer]).textAt? [.key "crawls", .index 0, .key "name"] =
      some "pool" := by decide +kernel
  have hWarn : Sample.logLayer.tree.textAt? [.key "log", .key "level"] = some "warn" := by decide +kernel
  have hAbsent : (Sample.logLayer.lookup "crawls").isNone = true := by decide +kernel
  obtain ⟨o, hPool⟩ := Tree.textAt?_eq_some_iff.mp hPool
  obtain ⟨o', hWarn⟩ := Tree.textAt?_eq_some_iff.mp hWarn
  obtain ⟨fields, hFields⟩ := stack_one Sample.crawlLayer
  have hSpares : Sample.logLayer.tree.Spares (stack [Sample.crawlLayer])
      [.key "crawls", .index 0, .key "name"] := by
    rw [hFields]
    exact Tree.spares_of_lookup_eq_none (Option.isNone_iff_eq_none.mp hAbsent) none none fields _
  refine ⟨_, hLoad, Tree.textAt?_eq_some_iff.mpr ⟨_, h.setting (_, "train") (by simp)⟩,
    Tree.textAt?_eq_some_iff.mpr ⟨o, h.lowerLeaf _ _ ?_ hSpares hPool rfl⟩,
    Tree.textAt?_eq_some_iff.mpr ⟨o', h.upperLeaf _ _ ?_ hWarn rfl⟩,
    Tree.textAt?_eq_some_iff.mpr ⟨_, h.setting (_, "true") (by simp)⟩⟩
  · exact List.forall_mem_cons.mpr ⟨.behind (.here (by decide)),
      List.forall_mem_singleton.mpr (.here (by decide))⟩
  · exact List.forall_mem_cons.mpr ⟨.here (by decide),
      List.forall_mem_singleton.mpr (.behind (.here (by decide)))⟩

/-- The place of the name of the first crawl. -/
def Sample.firstName : List Step := [.key "crawls", .index 0, .key "name"]

/-- A second file that has a mapping without keys where the first one has a sequence. -/
def Sample.emptyLayer : Layer := [("crawls", .fields none [])]

theorem Sample.isMapping_of_emptyLayer {q : List Step} {u : Tree}
    (hu : emptyLayer.tree.at? q = some u) : u.isMapping = true := by
  cases q with
  | nil =>
    cases hu
    rfl
  | cons s rest =>
    obtain ⟨v, hv, hRest⟩ := Tree.at?_cons_eq_some_iff.mp hu
    obtain ⟨k, -, hk⟩ := Tree.part?_fields hv
    obtain ⟨-, rfl⟩ := Prod.mk.inj (List.mem_singleton.mp (Json.mem_of_lookup hk))
    cases rest with
    | nil =>
      cases hRest
      rfl
    | cons s' rest =>
      obtain ⟨w, hw, -⟩ := Tree.at?_cons_eq_some_iff.mp hRest
      obtain ⟨k', -, hk'⟩ := Tree.part?_fields hw
      simp at hk'

/-- A value can be lost though nothing but mappings of the second file, and no path of a setting, is
on the way to it or behind it. An empty mapping and a key replace a sequence, and an index from the
end moves the items of a sequence or leads to the item of another index. -/
theorem values_lost :
    (stack [Sample.crawlLayer]).textAt? Sample.firstName = some "pool" ∧
    ((∀ q u, Sample.emptyLayer.tree.at? q = some u → u.isMapping = true) ∧
      (stack [Sample.crawlLayer, Sample.emptyLayer, Environment.layer []]).textAt? Sample.firstName =
        none) ∧
    (Environment.settings [("APP_CRAWLS_NAME", "train")] = [([.key "crawls", .key "name"], "train")] ∧
      (stack [Sample.crawlLayer, [], Environment.layer [("APP_CRAWLS_NAME", "train")]]).textAt?
        Sample.firstName = none) ∧
    (Environment.settings [("APP_CRAWLS[-3]_NAME", "train")] =
        [([.key "crawls", .index (-3), .key "name"], "train")] ∧
      (stack [Sample.crawlLayer, [], Environment.layer [("APP_CRAWLS[-3]_NAME", "train")]]).textAt?
        Sample.firstName = some "train") ∧
    (Environment.settings [("APP_CRAWLS[-1]_NAME", "train"), ("APP_CRAWLS_1_NAME", "tram")] =
        [([.key "crawls", .index (-1), .key "name"], "train"),
          ([.key "crawls", .index 1, .key "name"], "tram")] ∧
      (stack [Sample.crawlLayer, [],
        Environment.layer [("APP_CRAWLS[-1]_NAME", "train"), ("APP_CRAWLS_1_NAME", "tram")]]).textAt?
          [.key "crawls", .index (-1), .key "name"] = some "tram") := by
  refine ⟨by decide +kernel, ⟨fun q u => Sample.isMapping_of_emptyLayer, by decide +kernel⟩,
    ⟨by decide +kernel, by decide +kernel⟩, ⟨by decide +kernel, by decide +kernel⟩,
    by decide +kernel, by decide +kernel⟩

end Lookout.Config
