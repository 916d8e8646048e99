import Lookout.Proofs.Config.Commuting
import Lookout.Proofs.Config.Files
/-!
Variables in any order. Nothing fixes the order in which variables are taken and their settings are laid over
the files. Where the paths of settings part by independent steps the result is the same in every order, and
variables that hold no setting do not count at all.
-/
namespace Lookout.Config

namespace Environment

open Json (keysIncrease_sortFields filter_sortFields sortFields_perm)

variable {R : Step → Step → Prop} {bindings bindings' named : List (String × String)}

/-! ### Which variables count -/

/-- Whether the rewritten name of a variable begins, in lower case, like those of all variables that hold
settings. -/
def beginsSetting (name : String) : Bool := nameStart.isPrefixOf (Text.lowered name).toList

/-- A variable by its rewritten name. -/
def rename (b : String × String) : String × String := (String.ofList (indexed b.1.toList), b.2)

/-- Whether a variable holds a setting. -/
def isSetting (b : String × String) : Bool := beginsSetting (rename b).1

/-- The settings that variables with rewritten names hold, in their order. -/
def held (named : List (String × String)) : List (String × Tree) :=
  named.filterMap fun b => (settingName? b.1).map fun name => fieldOf name b.2

theorem isSome_settingName? (name : String) : (settingName? name).isSome = beginsSetting name := by
  unfold settingName?
  split
  · rename_i hBegins
    exact hBegins.symm
  · rename_i hOther
    exact (Bool.not_eq_true _ ▸ hOther).symm

theorem held_filter (named : List (String × String)) :
    held (named.filter (beginsSetting ·.1)) = held named := by
  rw [held, List.filterMap_filter]
  refine List.filterMap_congr fun b _ => ?_
  split_ifs with hBegins
  · rfl
  · rw [← isSome_settingName?, Bool.not_eq_true, Option.isSome_eq_false_iff, Option.isNone_iff_eq_none]
      at hBegins
    rw [hBegins]
    rfl

theorem layerOf_filter (named : List (String × String)) :
    layerOf (named.filter (beginsSetting ·.1)) = layerOf named := by
  rw [layerOf_eq, layerOf_eq]
  exact congrArg Json.sortFields (held_filter named)

theorem filter_rewritten (bindings : List (String × String)) :
    (rewritten bindings).filter (beginsSetting ·.1) =
      Json.sortFields ((bindings.filter isSetting).map rename) := by
  have hRewritten : rewritten bindings = Json.sortFields (bindings.map rename) := rewritten_eq bindings
  have hSetting : (fun b : String × String => beginsSetting b.1) ∘ rename = isSetting := by
    funext b
    rw [Function.comp_apply, isSetting]
  rw [hRewritten, filter_sortFields, List.filter_map, hSetting]

/-! ### The settings in any order -/

/-- Whether the paths that variables set part by related steps, each two of them. -/
def ArePartedBy (R : Step → Step → Prop) (bindings : List (String × String)) : Prop :=
  (settings bindings).Pairwise fun d e => PartBy R d.1 e.1

theorem ArePartedBy.held (h : ArePartedBy R bindings) :
    (held (bindings.map rename)).Pairwise fun f g => PartBy R (Path.ofName f.1) (Path.ofName g.1) := by
  have hHeld : Environment.held (bindings.map rename) =
      bindings.filterMap fun b => (nameOf? b.1).map fun name => fieldOf name b.2 := by
    simp only [Environment.held, List.filterMap_map, Function.comp_def, rename, nameOf?]
  rw [ArePartedBy, settings, List.pairwise_filterMap] at h
  rw [hHeld, List.pairwise_filterMap]
  refine h.imp fun {b c} hParted f hf g hg => ?_
  obtain ⟨name, hName, rfl⟩ := Option.map_eq_some_iff.mp hf
  obtain ⟨name', hName', rfl⟩ := Option.map_eq_some_iff.mp hg
  exact hParted _ (Option.map_eq_some_iff.mpr ⟨name, hName, rfl⟩) _
    (Option.map_eq_some_iff.mpr ⟨name', hName', rfl⟩)

theorem nodup_held (h : ArePartedBy Step.Independent bindings) :
    ((held (bindings.map rename)).map (·.1)).Nodup := by
  refine List.pairwise_map.mpr (h.held.imp fun hParted hSame => ?_)
  rw [hSame] at hParted
  exact PartBy.irrefl _ hParted

/-- Where the names of settings differ, so do the rewritten names of the variables that hold them. -/
theorem nodup_filter_of_nodup_held (h : ((held named).map (·.1)).Nodup) :
    ((named.filter (beginsSetting ·.1)).map (·.1)).Nodup := by
  rw [List.Nodup, List.pairwise_map, held, List.pairwise_filterMap] at h
  rw [List.Nodup, List.pairwise_map, List.pairwise_filter]
  refine h.imp fun {b c} hNames hb hc hSame => ?_
  rw [← isSome_settingName?, Option.isSome_iff_exists] at hb
  obtain ⟨name, hName⟩ := hb
  have hName' : settingName? c.1 = some name := hSame ▸ hName
  apply hNames (fieldOf name b.2) _ (fieldOf name c.2)
  · rw [hName', Option.map_some]
  · rfl
  · rw [hName, Option.map_some]

/-- Whatever the order in which variables are taken, the layer holds just their settings. -/
theorem layerOf_perm (h : ArePartedBy Step.Independent bindings) (hNamed : named.Perm (rewritten bindings)) :
    (layerOf named).Perm (held (bindings.map rename)) := by
  have hNodup := nodup_held h
  have hSort : ((rewritten bindings).filter (beginsSetting ·.1)).Perm
      ((bindings.map rename).filter (beginsSetting ·.1)) := by
    have hRewritten : rewritten bindings = Json.sortFields (bindings.map rename) := rewritten_eq bindings
    rw [hRewritten, filter_sortFields]
    exact sortFields_perm (nodup_filter_of_nodup_held hNodup)
  have hHeld : (held named).Perm (held (bindings.map rename)) := by
    rw [← held_filter (bindings.map rename), ← held_filter named]
    exact ((hNamed.filter _).trans hSort).filterMap _
  rw [layerOf_eq]
  exact (sortFields_perm ((hHeld.map _).nodup_iff.mpr hNodup)).trans hHeld

theorem ArePartedBy.perm (h : ArePartedBy Step.Independent bindings) (hPerm : bindings'.Perm bindings) :
    ArePartedBy Step.Independent bindings' :=
  ((hPerm.filterMap _).pairwise_iff PartBy.symm).mpr h

theorem held_perm (hPerm : bindings'.Perm bindings) :
    (held (bindings'.map rename)).Perm (held (bindings.map rename)) :=
  (hPerm.map rename).filterMap _

/-- The layer of variables whose settings stand in increasing order of name. -/
theorem layer_of_settings {fields : List (String × String)}
    (hFields : ((rewritten bindings).filterMap fun b => (settingName? b.1).map fun name => (name, b.2)) = fields)
    (hKeys : Json.KeysIncrease fields) : layer bindings = fields.map fun f => fieldOf f.1 f.2 := by
  have hHeld : held (rewritten bindings) = fields.map fun f => fieldOf f.1 f.2 := by
    rw [← hFields, List.map_filterMap]
    simp only [held, Option.map_map, Function.comp_def]
  rw [layer, layerOf_eq]
  exact (congrArg Json.sortFields hHeld).trans
    (Json.sortFields_of_keysIncrease (List.pairwise_map.mpr hKeys))

/-! ### Variables that hold no setting -/

/-- Variables taken in some order can be taken so among others that hold no setting. -/
theorem exists_perm_rewritten (h : bindings'.filter isSetting = bindings.filter isSetting)
    (hNamed : named.Perm (rewritten bindings)) :
    ∃ named', named'.Perm (rewritten bindings') ∧ layerOf named' = layerOf named := by
  have hSame : (rewritten bindings).filter (beginsSetting ·.1) =
      (rewritten bindings').filter (beginsSetting ·.1) := by
    rw [filter_rewritten, filter_rewritten, h]
  refine ⟨named.filter (beginsSetting ·.1) ++ (rewritten bindings').filter (!beginsSetting ·.1), ?_, ?_⟩
  · apply List.Perm.trans _ (List.filter_append_perm (beginsSetting ·.1) (rewritten bindings'))
    rw [← hSame]
    exact (hNamed.filter _).append_right _
  · rw [← layerOf_filter, List.filter_append, List.filter_filter, List.filter_filter]
    simp only [Bool.and_self, Bool.and_not_self, List.filter_false, List.append_nil]
    exact layerOf_filter named

end Environment

/-! ### Loading -/

section Loading

variable {directory : String} {files : String → Option ByteArray} {bindings bindings' : List (String × String)}
  {r : Except LoadError Config}

/-- What loading may give: the variables are taken in some order, and their settings are laid over the files
in some order. -/
def MayLoad (directory : String) (files : String → Option ByteArray) (bindings : List (String × String))
    (r : Except LoadError Config) : Prop :=
  ∃ named env, named.Perm (Environment.rewritten bindings) ∧ env.Perm (Environment.layerOf named) ∧
    r = loadUnder env directory files

theorem mayLoad_load (directory : String) (files : String → Option ByteArray)
    (bindings : List (String × String)) : MayLoad directory files bindings (load directory files bindings) :=
  ⟨_, _, List.Perm.refl _, List.Perm.refl _, rfl⟩

theorem loadUnder_congr {env env' : Layer} (h : ∀ t, env.overlay t = env'.overlay t) (directory : String)
    (files : String → Option ByteArray) :
    loadUnder env directory files = loadUnder env' directory files := by
  simp only [loadUnder, stack, List.foldl_cons, List.foldl_nil, h]

theorem MayLoad.eq_load (h : MayLoad directory files bindings' r) (hPerm : bindings'.Perm bindings)
    (hParted : Environment.ArePartedBy Step.Independent bindings) : r = load directory files bindings := by
  obtain ⟨named, env, hNamed, hEnv, rfl⟩ := h
  have hHeld : env.Perm (Environment.held (bindings.map Environment.rename)) :=
    (hEnv.trans (Environment.layerOf_perm (hParted.perm hPerm) hNamed)).trans (Environment.held_perm hPerm)
  have hLayer : (Environment.layer bindings).Perm (Environment.held (bindings.map Environment.rename)) :=
    Environment.layerOf_perm hParted (List.Perm.refl _)
  apply loadUnder_congr
  intro t
  rw [← Layer.overlay_perm hParted.held hHeld.symm, Layer.overlay_perm hParted.held hLayer.symm]

theorem MayLoad.of_filter_eq (h : MayLoad directory files bindings r)
    (hSame : bindings'.filter Environment.isSetting = bindings.filter Environment.isSetting) :
    MayLoad directory files bindings' r := by
  obtain ⟨named, env, hNamed, hEnv, rfl⟩ := h
  obtain ⟨named', hNamed', hLayer⟩ := Environment.exists_perm_rewritten hSame hNamed
  exact ⟨named', env, hNamed', hLayer ▸ hEnv, rfl⟩

theorem load_of_filter_eq
    (hSame : bindings'.filter Environment.isSetting = bindings.filter Environment.isSetting) :
    load directory files bindings' = load directory files bindings := by
  have hLayer : Environment.layer bindings' = Environment.layer bindings := by
    rw [Environment.layer, Environment.layer, ← Environment.layerOf_filter, Environment.filter_rewritten, hSame,
      ← Environment.filter_rewritten, Environment.layerOf_filter]
  rw [load, load, hLayer]

end Loading

/-! ### Chats given by variables -/

/-- A directory with an empty file. -/
def Sample.emptyFile (path : String) : Option ByteArray :=
  if path = "conf/config.yaml" then some .empty else none

/-- Settings of nothing but chats. -/
def Sample.ofChats (chats : List String) : Config := { alerts := { telegram := { chatIds := chats } } }

/-- The path of a chat. -/
def Sample.chat (i : Int) : List Step := [.key "alerts", .key "telegram", .key "chat-ids", .index i]

/-- Two chats at indices from the start, and a variable that holds no setting. -/
def Sample.chats : List (String × String) :=
  [("APP_ALERTS_TELEGRAM_CHAT-IDS_1", "night"), ("HOME", "/"), ("APP_ALERTS_TELEGRAM_CHAT-IDS_0", "day")]

theorem Sample.settings_chats : Environment.settings chats = [(chat 1, "night"), (chat 0, "day")] := by
  decide +kernel

theorem Sample.layer_chats : Environment.layer chats =
    [("alerts.telegram.chat-ids[0]", "day"), ("alerts.telegram.chat-ids[1]", "night")].map
      fun f => Environment.fieldOf f.1 f.2 :=
  Environment.layer_of_settings (by decide +kernel) (List.pairwise_pair.mpr (by decide +kernel))

theorem eq_ok_of_toOption {ε α : Type} {r : Except ε α} {a : α} (h : r.toOption = some a) : r = .ok a := by
  cases r with
  | ok b => exact congrArg Except.ok (Option.some.inj h)
  | error e => cases h

/-- Two chats, one of them at an index from the end. -/
def Sample.mixedChats : List (String × String) :=
  [("APP_ALERTS_TELEGRAM_CHAT-IDS[-2]", "day"), ("APP_ALERTS_TELEGRAM_CHAT-IDS_0", "night")]

theorem Sample.settings_mixedChats :
    Environment.settings mixedChats = [(chat (-2), "day"), (chat 0, "night")] := by
  decide +kernel

theorem Sample.layer_mixedChats : Environment.layer mixedChats =
    [("alerts.telegram.chat-ids[-2]", "day"), ("alerts.telegram.chat-ids[0]", "night")].map
      fun f => Environment.fieldOf f.1 f.2 :=
  Environment.layer_of_settings (by decide +kernel) (List.pairwise_pair.mpr (by decide +kernel))

end Lookout.Config
