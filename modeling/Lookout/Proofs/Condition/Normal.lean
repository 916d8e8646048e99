import Lookout.Proofs.Decimal.Whole
import Mathlib.Data.List.Forall2
/-!
The plainest form of a document. It is reached in one pass: nothing but the numbers of a document can
change, each of those only from a binary64 number to the whole number that it is, and none that could is
left at any depth.
-/
namespace Lookout.Json

/-! ### Numbers -/

namespace Number
variable {n : Number} {x : Float}

/-- Whether a number is a binary64 one that is whole, and below `2 ^ 53` in magnitude. -/
def IsDisguised : Number → Prop
  | .int _ => False
  | .float x => ∃ k : Int, (Number.float x).IsWhole k ∧ k.natAbs < 2 ^ 53

/-- What a number may turn into: itself, or the whole number that a binary64 one is. -/
inductive Becomes : Number → Number → Prop
  | same (n : Number) : Becomes n n
  | whole {x : Float} {k : Int} (hWhole : (Number.float x).IsWhole k) (hSmall : k.natAbs < 2 ^ 53) :
      Becomes (.float x) (.int k)

theorem plainWhole?_eq_some_iff {k : Int} :
    plainWhole? x = some k ↔ (Number.float x).IsWhole k ∧ k.natAbs < 2 ^ 53 := by
  unfold plainWhole?
  simp only [IsWhole, Decimal.Binary.value_eq_iff]
  split
  · rename_i hFinite
    rw [Option.filter_eq_some_iff, decide_eq_true_eq, and_iff_right hFinite]
    rfl
  · rename_i hInfinite
    exact iff_of_false nofun fun h => hInfinite h.1.1

theorem becomes_normalized (n : Number) : n.Becomes n.normalized := by
  cases n with
  | int n => exact .same _
  | float x =>
      rw [normalized]
      split
      · rename_i k hPlain
        obtain ⟨hWhole, hSmall⟩ := plainWhole?_eq_some_iff.1 hPlain
        exact .whole hWhole hSmall
      · exact .same _

theorem not_isDisguised_normalized (n : Number) : ¬ n.normalized.IsDisguised := by
  cases n with
  | int n => exact id
  | float x =>
      rw [normalized]
      split
      · exact id
      · rename_i hPlain
        rintro ⟨k, hk⟩
        cases hPlain.symm.trans (plainWhole?_eq_some_iff.2 hk)

theorem normalized_of_not_isDisguised (h : ¬ n.IsDisguised) : n.normalized = n := by
  cases n with
  | int n => rfl
  | float x =>
      rw [normalized]
      split
      · rename_i k hPlain
        exact absurd ⟨k, plainWhole?_eq_some_iff.1 hPlain⟩ h
      · rfl

end Number

/-! ### Documents -/

namespace Value

/-- Whether a number stands somewhere in a document, at whatever depth. -/
inductive Contains (n : Number) : Value → Prop
  | here : Contains n (.number n)
  | item {items : List Value} {v : Value} (hItem : v ∈ items) (h : Contains n v) : Contains n (.array items)
  | field {fields : List (String × Value)} {f : String × Value} (hField : f ∈ fields)
      (h : Contains n f.2) : Contains n (.object fields)

/-- What a document may turn into: one of the same shape, with the same keys in objects and with all that
is no number as it was. -/
inductive Becomes : Value → Value → Prop
  | null : Becomes .null .null
  | bool (b : Bool) : Becomes (.bool b) (.bool b)
  | number {n n' : Number} (h : n.Becomes n') : Becomes (.number n) (.number n')
  | string (s : String) : Becomes (.string s) (.string s)
  | array {items items' : List Value} (h : List.Forall₂ Becomes items items') :
      Becomes (.array items) (.array items')
  | object {fields fields' : List (String × Value)} (hKeys : fields.map (·.1) = fields'.map (·.1))
      (hValues : List.Forall₂ Becomes (fields.map (·.2)) (fields'.map (·.2))) :
      Becomes (.object fields) (.object fields')

end Value

theorem normalizedItems_eq (items : List Value) : normalizedItems items = items.map Value.normalized := by
  induction items with
  | nil => rfl
  | cons v rest ih => rw [normalizedItems, ih, List.map_cons]

theorem normalizedFields_eq (fields : List (String × Value)) :
    normalizedFields fields = fields.map fun f => (f.1, f.2.normalized) := by
  induction fields with
  | nil => rfl
  | cons f rest ih => rw [normalizedFields, ih, List.map_cons]

theorem normalizedItems_of_normalized {items : List Value} (h : ∀ v ∈ items, v.normalized = v) :
    normalizedItems items = items := by
  rw [normalizedItems_eq, List.map_congr_left h, List.map_id']

theorem normalizedFields_of_normalized {fields : List (String × Value)}
    (h : ∀ f ∈ fields, f.2.normalized = f.2) : normalizedFields fields = fields := by
  rw [normalizedFields_eq, List.map_congr_left fun f hf => congrArg (Prod.mk f.1) (h f hf), List.map_id']

/-- What holds of a document if it holds of all parts of it, holds of every document. -/
theorem Value.induct {P : Value → Prop} (hNull : P .null) (hBool : ∀ b, P (.bool b))
    (hNumber : ∀ n, P (.number n)) (hString : ∀ s, P (.string s))
    (hArray : ∀ items, (∀ v ∈ items, P v) → P (.array items))
    (hObject : ∀ fields : List (String × Value), (∀ f ∈ fields, P f.2) → P (.object fields)) (v : Value) :
    P v := by
  refine @Value.rec P (fun items => ∀ v ∈ items, P v) (fun fields => ∀ f ∈ fields, P f.2)
    (fun f => P f.2) hNull hBool hNumber hString hArray hObject ?_ ?_ ?_ ?_ ?_ v
  · nofun
  · exact fun v rest hFirst hRest => List.forall_mem_cons.2 ⟨hFirst, hRest⟩
  · nofun
  · exact fun f rest hFirst hRest => List.forall_mem_cons.2 ⟨hFirst, hRest⟩
  · exact fun _ _ h => h

namespace Value
variable {v : Value}

theorem becomes_normalized (v : Value) : v.Becomes v.normalized := by
  induction v using Value.induct with
  | hNull => exact .null
  | hBool b => exact .bool b
  | hNumber n => exact .number n.becomes_normalized
  | hString s => exact .string s
  | hArray items ih =>
      rw [normalized, normalizedItems_eq]
      exact .array (List.forall₂_map_right_iff.2 (List.forall₂_same.2 ih))
  | hObject fields ih =>
      rw [normalized, normalizedFields_eq]
      refine .object ?_ ?_
      · rw [List.map_map]
        rfl
      · rw [List.map_map, List.forall₂_map_left_iff, List.forall₂_map_right_iff]
        exact List.forall₂_same.2 ih

/-- No number at any depth can be made plainer any more. -/
theorem not_isDisguised_of_contains {n : Number} (h : v.normalized.Contains n) : ¬ n.IsDisguised := by
  induction v using Value.induct with
  | hNull => cases h
  | hBool b => cases h
  | hNumber n =>
      cases h
      exact n.not_isDisguised_normalized
  | hString s => cases h
  | hArray items ih =>
      rw [normalized, normalizedItems_eq] at h
      cases h with
      | item hItem h =>
          obtain ⟨v, hv, rfl⟩ := List.mem_map.1 hItem
          exact ih v hv h
  | hObject fields ih =>
      rw [normalized, normalizedFields_eq] at h
      cases h with
      | field hField h =>
          obtain ⟨f, hf, rfl⟩ := List.mem_map.1 hField
          exact ih f hf h

/-- A document whose numbers are plain is left alone. -/
theorem normalized_of_plain (h : ∀ n, v.Contains n → ¬ n.IsDisguised) : v.normalized = v := by
  induction v using Value.induct with
  | hNull => rfl
  | hBool b => rfl
  | hNumber n => rw [normalized, Number.normalized_of_not_isDisguised (h n .here)]
  | hString s => rfl
  | hArray items ih =>
      rw [normalized, normalizedItems_of_normalized fun v hv => ih v hv fun n hn => h n (.item hv hn)]
  | hObject fields ih =>
      rw [normalized, normalizedFields_of_normalized fun f hf => ih f hf fun n hn => h n (.field hf hn)]

/-- A document is brought to its plainest form in one pass: doing it again changes nothing; the form has the
shape of the document, with the same keys, texts and truth values, and of its numbers those that are stored
as whole ones; every other number is the same, or is the whole number that it was; and at no depth is there a
binary64 number left that is whole and below `2 ^ 53` in magnitude. -/
theorem normalized_in_one_pass (v : Value) :
    v.normalized.normalized = v.normalized ∧ v.Becomes v.normalized ∧
      ∀ n, v.normalized.Contains n → ¬ n.IsDisguised :=
  ⟨normalized_of_plain fun _ => not_isDisguised_of_contains, v.becomes_normalized,
    fun _ => not_isDisguised_of_contains⟩

/-- A number that becomes whole, one that is none, and the first one that is too great. -/
def mixedNumbers : Value :=
  .object [("list", .array [.number (.float 2), .number (.float 0.5), .number (.float 9007199254740992)])]

theorem mixedNumbers_in_one_pass :
    mixedNumbers.normalized =
      .object [("list", .array [.number (.int 2), .number (.float 0.5), .number (.float 9007199254740992)])] ∧
    mixedNumbers.normalized.normalized = mixedNumbers.normalized ∧
    mixedNumbers.normalized.Contains (.float 9007199254740992) ∧
    ¬ (Number.float 9007199254740992).IsDisguised := by
  have hTwo : plainWhole? 2 = some 2 := by decide +kernel
  have hHalf : plainWhole? 0.5 = none := by decide +kernel
  have hGreat : plainWhole? 9007199254740992 = none := by decide +kernel
  have hNormal : mixedNumbers.normalized = .object [("list", .array
      [.number (.int 2), .number (.float 0.5), .number (.float 9007199254740992)])] := by
    simp only [mixedNumbers, normalized, normalizedFields, normalizedItems, Number.normalized, hTwo, hHalf,
      hGreat]
  have hContains : mixedNumbers.normalized.Contains (.float 9007199254740992) := by
    rw [hNormal]
    exact .field List.mem_cons_self (.item (by simp) .here)
  obtain ⟨hAgain, -, hPlain⟩ := normalized_in_one_pass mixedNumbers
  exact ⟨hNormal, hAgain, hContains, hPlain _ hContains⟩

end Value

end Lookout.Json
