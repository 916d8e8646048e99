import Lookout.Proofs.Config.Files
import Lookout.Proofs.Pipeline.Faults
/-!
Settings read from trees whose mappings are in increasing order of key: the header fields and the
variables of every crawl are in the order of their names, and so they are in settings that are loaded.
-/
namespace Lookout.Config

open Json (KeysIncrease)

section Reading

variable {α : Type} {strictness : Strictness} {t : Tree}

theorem exists_of_bind {ε α β : Type} {r : Except ε α} {next : α → Except ε β} {b : β}
    (h : (r >>= next) = .ok b) : ∃ a, r = .ok a ∧ next a = .ok b := by
  cases r with
  | ok a => exact ⟨a, rfl, h⟩
  | error e => cases h

theorem exists_of_map {ε α β : Type} {r : Except ε α} {g : α → β} {b : β}
    (h : r.map g = .ok b) : ∃ a, r = .ok a ∧ g a = b := by
  cases r with
  | ok a => exact ⟨a, rfl, Except.ok.inj h⟩
  | error e => cases h

theorem of_underStep {step : Step} {r : Except Fault α} {a : α} (h : underStep step r = .ok a) :
    r = .ok a := by
  cases r with
  | ok b => exact h
  | error e => cases h

/-- The texts of a mapping are read under its keys. -/
theorem keys_of_readTexts {list : List (String × Tree)} {texts : List (String × String)}
    (h : readTexts strictness list = .ok texts) : texts.map (·.1) = list.map (·.1) := by
  induction list generalizing texts with
  | nil =>
    cases h
    rfl
  | cons f rest ih =>
    rw [readTexts] at h
    split at h
    · cases h
    · split at h
      · cases h
      · rename_i hRest
        cases h
        simp only [List.map_cons, ih hRest]

theorem keysIncrease_of_readTextMap {texts : List (String × String)} (ht : t.IsSorted)
    (h : readTextMap strictness t = .ok texts) : KeysIncrease texts := by
  unfold readTextMap at h
  split at h
  · have hKeys := (Tree.isSorted_fields.mp ht).1
    rw [KeysIncrease, ← List.pairwise_map, ← keys_of_readTexts h, List.pairwise_map] at hKeys
    exact hKeys
  · cases h

namespace Record

variable {r : Record α} {P : α → Prop} {a b : α}

section Put

/- What holds of a record at the start and after each field is read into it. -/
variable (hPut : ∀ name u b c, u.IsSorted → P b → r.put name u b = .ok c → P c)

include hPut

theorem of_putFields {list : List (String × Tree)} (hList : ∀ f ∈ list, f.2.IsSorted) (hb : P b)
    (h : r.putFields b list = .ok a) : P a := by
  induction list generalizing b with
  | nil =>
    cases h
    exact hb
  | cons f rest ih =>
    obtain ⟨hFirst, hRest⟩ := List.forall_mem_cons.mp hList
    rw [putFields] at h
    split at h
    · split at h
      · cases h
      · rename_i hField
        exact ih hRest (hPut _ _ _ _ hFirst hb (of_underStep hField)) h
    · exact ih hRest hb h

theorem of_putItems {list : List Tree} {names : List String} {i : Nat}
    (hList : ∀ u ∈ list, u.IsSorted) (hb : P b) (h : r.putItems b i names list = .ok a) : P a := by
  induction list generalizing b names i with
  | nil =>
    cases names <;> cases h <;> exact hb
  | cons u rest ih =>
    obtain ⟨hFirst, hRest⟩ := List.forall_mem_cons.mp hList
    cases names with
    | nil =>
      cases h
      exact hb
    | cons name names =>
      rw [putItems] at h
      split at h
      · cases h
      · rename_i hItem
        exact ih hRest (hPut _ _ _ _ hFirst hb (of_underStep hItem)) h

theorem of_readFrom {positional : Bool} (hStart : P r.start) (ht : t.IsSorted)
    (h : r.readFrom t = .ok (a, positional)) : P a := by
  unfold readFrom at h
  split at h
  · obtain ⟨c, hRead, hPair⟩ := exists_of_map h
    cases hPair
    exact of_putFields hPut (Tree.isSorted_fields.mp ht).2 hStart hRead
  · obtain ⟨c, hRead, hPair⟩ := exists_of_map h
    cases hPair
    exact of_putItems hPut (Tree.isSorted_items.mp ht) hStart hRead
  · cases h

theorem of_read (hStart : P r.start) (ht : t.IsSorted) (h : r.read strictness t = .ok a) : P a := by
  obtain ⟨⟨c, positional⟩, hRead, hRest⟩ := exists_of_bind h
  obtain ⟨-, -, hLast⟩ := exists_of_bind hRest
  cases hLast
  exact of_readFrom hPut hStart ht hRead

end Put

end Record

theorem HttpTarget.keysIncrease_of_read {target : HttpTarget} (ht : t.IsSorted)
    (h : HttpTarget.read strictness t = .ok target) : KeysIncrease target.header := by
  refine Record.of_read (r := record strictness) (P := fun a => KeysIncrease a.header)
    (fun name u b c hu hb hc => ?_) List.Pairwise.nil ht h
  simp only [record] at hc
  split at hc <;> obtain ⟨text, hText, hLast⟩ := exists_of_bind hc <;> cases hLast
  · exact hb
  · exact hb
  · exact keysIncrease_of_readTextMap hu hText
  · exact hb

theorem QueryTexts.keysIncrease_of_read {query : QueryTexts} (ht : t.IsSorted)
    (h : (QueryTexts.record strictness).read strictness t = .ok query) :
    KeysIncrease query.bindings := by
  refine Record.of_read (r := record strictness) (P := fun a => KeysIncrease a.bindings)
    (fun name u b c hu hb hc => ?_) List.Pairwise.nil ht h
  simp only [record] at hc
  split at hc <;> obtain ⟨text, hText, hLast⟩ := exists_of_bind hc <;> cases hLast
  · exact hb
  · exact keysIncrease_of_readTextMap hu hText

theorem Crawl.keysIncrease_of_readTarget {target : HttpTarget} (ht : t.IsSorted)
    (h : Crawl.readTarget strictness t = .ok target) : KeysIncrease target.header := by
  obtain ⟨⟨found, positional⟩, hRead, hRest⟩ := exists_of_bind h
  have hFound : ∀ target, found = some target → KeysIncrease target.header := by
    refine Record.of_readFrom (r := targetRecord strictness)
      (P := fun found => ∀ target, found = some target → KeysIncrease target.header)
      (fun name u b c hu _ hc => ?_) nofun ht hRead
    obtain ⟨target, hTarget, rfl⟩ := exists_of_map hc
    rintro _ ⟨⟩
    exact HttpTarget.keysIncrease_of_read hu hTarget
  cases found with
  | none => cases hRest
  | some target' =>
    obtain ⟨-, -, hLast⟩ := exists_of_bind hRest
    cases hLast
    exact hFound _ rfl

/-- Whether what is known of a crawl so far is in the order of its names. -/
structure Crawl.Draft.IsOrdered (d : Crawl.Draft) : Prop where
  header : ∀ target, d.target = some target → KeysIncrease target.header
  bindings : KeysIncrease d.query.bindings

theorem Crawl.isOrdered_of_read {crawl : Crawl} (ht : t.IsSorted)
    (h : Crawl.read strictness t = .ok crawl) : Pipeline.IsOrdered crawl := by
  obtain ⟨⟨draft, positional⟩, hRead, hRest⟩ := exists_of_bind h
  have hDraft : draft.IsOrdered := by
    refine Record.of_readFrom (r := record strictness) (P := Draft.IsOrdered)
      (fun name u b c hu hb hc => ?_) ⟨nofun, List.Pairwise.nil⟩ ht hRead
    simp only [record] at hc
    split at hc <;> obtain ⟨value, hValue, hLast⟩ := exists_of_bind hc <;> cases hLast
    · exact ⟨hb.header, hb.bindings⟩
    · exact ⟨hb.header, hb.bindings⟩
    · exact ⟨hb.header, hb.bindings⟩
    · refine ⟨?_, hb.bindings⟩
      rintro _ ⟨⟩
      exact keysIncrease_of_readTarget hu hValue
    · exact ⟨hb.header, QueryTexts.keysIncrease_of_read hu hValue⟩
    · exact ⟨hb.header, hb.bindings⟩
  dsimp only at hRest
  split at hRest
  · cases hRest
  · cases hRest
  · rename_i hTarget
    obtain ⟨-, -, hLast⟩ := exists_of_bind hRest
    cases hLast
    exact ⟨hDraft.header _ hTarget, hDraft.bindings⟩

theorem isOrdered_of_readEach {list : List Tree} {crawls : List Crawl} {i : Nat}
    (hList : ∀ u ∈ list, u.IsSorted) (h : readEach (Crawl.read strictness) i list = .ok crawls) :
    ∀ crawl ∈ crawls, Pipeline.IsOrdered crawl := by
  induction list generalizing crawls i with
  | nil =>
    cases h
    exact nofun
  | cons u rest ih =>
    obtain ⟨hFirst, hRest⟩ := List.forall_mem_cons.mp hList
    rw [readEach] at h
    split at h
    · cases h
    · rename_i hCrawl
      split at h
      · cases h
      · rename_i hMore
        cases h
        exact List.forall_mem_cons.mpr
          ⟨Crawl.isOrdered_of_read hFirst (of_underStep hCrawl), ih hRest hMore⟩

theorem isOrdered_of_read {c : Config} (ht : t.IsSorted) (h : read strictness t = .ok c) :
    ∀ crawl ∈ c.crawls, Pipeline.IsOrdered crawl := by
  refine Record.of_read (r := record strictness)
    (P := fun c => ∀ crawl ∈ c.crawls, Pipeline.IsOrdered crawl)
    (fun name u b d hu hb hd => ?_) nofun ht h
  simp only [record] at hd
  split at hd <;> obtain ⟨value, hValue, hLast⟩ := exists_of_bind hd <;> cases hLast
  · exact hb
  · cases u with
    | items o list => exact isOrdered_of_readEach (Tree.isSorted_items.mp hu) hValue
    | _ => cases hValue
  · exact hb

end Reading

/-- The header fields and variables of crawls that are loaded are in the order of their names. -/
theorem isOrdered_of_load {directory : String} {files : String → Option ByteArray}
    {bindings : List (String × String)} {c : Config} (h : load directory files bindings = .ok c) :
    ∀ crawl ∈ c.crawls, Pipeline.IsOrdered crawl := by
  obtain ⟨base, upper, hHolds, hRead⟩ := exists_of_load h
  have hLayers : ∀ layer ∈ [base, upper, Environment.layer bindings],
      ∀ f ∈ layer, f.2.IsSorted := by
    simp only [List.forall_mem_cons, List.not_mem_nil, false_imp_iff, implies_true, and_true]
    exact ⟨(Tree.isSorted_fields.mp hHolds.isSorted_base).2,
      (Tree.isSorted_fields.mp hHolds.isSorted_upper).2, Environment.isSorted_layer⟩
  exact isOrdered_of_read (isSorted_stack hLayers) hRead

end Lookout.Config
