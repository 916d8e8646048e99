import Lookout.Proofs.Config.Places
/-!
Trees laid over others: what is no mapping in the upper tree is found as it was, and what the upper
tree spares in the lower one too.
-/
namespace Lookout.Config.Tree

variable {t u v upper lower lower' : Tree} {s : Step} {p q : List Step} {o o' : Option String}
  {fields above : List (String × Tree)} {k : String}

/-! ### Trees without a key that stands twice -/

mutual

/-- Whether no mapping has a key twice. Sequences are laid over others whole, so nothing is asked of
what is in them. -/
def IsKeyed : Tree → Prop
  | .fields _ list => (list.map (·.1)).Nodup ∧ AreKeyed list
  | _ => True

/-- Whether the values of fields are keyed. -/
def AreKeyed : List (String × Tree) → Prop
  | [] => True
  | (_, t) :: rest => IsKeyed t ∧ AreKeyed rest

end

theorem areKeyed_iff : AreKeyed fields ↔ ∀ f ∈ fields, IsKeyed f.2 := by
  induction fields with
  | nil => simp [AreKeyed]
  | cons f rest ih => simp [AreKeyed, ih]

theorem IsKeyed.nodup (h : IsKeyed (.fields o fields)) : (fields.map (·.1)).Nodup := by
  rw [IsKeyed] at h
  exact h.1

theorem IsKeyed.lookup (h : IsKeyed (.fields o fields)) (hu : fields.lookup k = some u) : IsKeyed u := by
  rw [IsKeyed, areKeyed_iff] at h
  exact h.2 (k, u) (Json.mem_of_lookup hu)

theorem IsKeyed.at? {names : List String} (h : IsKeyed t) (hu : t.at? (names.map .key) = some u) :
    IsKeyed u := by
  induction names generalizing t with
  | nil => simp_all
  | cons k rest ih =>
    obtain ⟨v, hv, hRest⟩ := at?_cons_eq_some_iff.mp hu
    obtain ⟨o, fields, rfl, hk⟩ := eq_fields_of_part?_key hv
    exact ih (h.lookup hk) hRest

/-! ### Fields over others -/

theorem lookup_fieldsOver_of_none (h : above.lookup k = none) (fields : List (String × Tree)) :
    (fieldsOver above fields).lookup k = fields.lookup k := by
  induction above generalizing fields with
  | nil => rw [fieldsOver]
  | cons f rest ih =>
    obtain ⟨key, t⟩ := f
    obtain ⟨hNe, hRest⟩ : k ≠ key ∧ rest.lookup k = none := by
      rw [List.lookup_cons] at h
      split at h
      · simp at h
      · exact ⟨beq_eq_false_iff_ne.mp ‹_›, h⟩
    rw [fieldsOver, ih hRest, Json.lookup_insertField_of_ne hNe]

theorem lookup_fieldsOver (hNodup : (above.map (·.1)).Nodup) (h : above.lookup k = some u)
    (fields : List (String × Tree)) :
    (fieldsOver above fields).lookup k = some (overlay u ((fields.lookup k).getD nothing)) := by
  induction above generalizing fields with
  | nil => simp at h
  | cons f rest ih =>
    obtain ⟨key, t⟩ := f
    obtain ⟨hFresh, hRest⟩ := List.nodup_cons.mp hNodup
    rw [fieldsOver]
    by_cases hk : k = key
    · subst hk
      obtain rfl : t = u := by simpa using h
      have hNone : rest.lookup k = none := List.lookup_eq_none_iff.mpr fun f hf =>
        bne_iff_ne.mpr fun hEq => hFresh (List.mem_map.mpr ⟨f, hf, hEq.symm⟩)
      rw [lookup_fieldsOver_of_none hNone, Json.lookup_insertField_self]
    · have hLookup : rest.lookup k = some u := by
        simpa [List.lookup_cons, beq_eq_false_iff_ne.mpr hk] using h
      rw [ih hRest hLookup, Json.lookup_insertField_of_ne hk]

/-- Mappings are merged: the keys of either are those of both. -/
theorem isSome_lookup_fieldsOver (hNodup : (above.map (·.1)).Nodup) (k : String)
    (fields : List (String × Tree)) :
    ((fieldsOver above fields).lookup k).isSome =
      ((above.lookup k).isSome || (fields.lookup k).isSome) := by
  cases h : above.lookup k with
  | none => simp [lookup_fieldsOver_of_none h]
  | some u => simp [lookup_fieldsOver hNodup h]

/-! ### Trees over others -/

theorem overlay_of_not_mapping (h : upper.isMapping = false) (lower : Tree) :
    overlay upper lower = upper := by
  cases upper <;> simp_all [overlay, isMapping]

/-- What is no mapping is found as it was in the upper tree. -/
theorem at?_overlay_upper (hKeyed : upper.IsKeyed) (hv : upper.at? p = some v)
    (hLeaf : v.isMapping = false) (lower : Tree) : (overlay upper lower).at? p = some v := by
  induction p generalizing upper lower with
  | nil =>
    obtain rfl : upper = v := by simpa using hv
    rw [overlay_of_not_mapping hLeaf, at?_nil]
  | cons s rest ih =>
    cases hKind : upper.isMapping with
    | false => rwa [overlay_of_not_mapping hKind]
    | true =>
      obtain ⟨o, above, rfl⟩ := eq_fields_of_isMapping hKind
      obtain ⟨u, hu, hRest⟩ := at?_cons_eq_some_iff.mp hv
      obtain ⟨k, rfl, hk⟩ := part?_fields hu
      rw [overlay]
      exact at?_cons_eq_some_iff.mpr
        ⟨_, lookup_fieldsOver hKeyed.nodup hk _, ih (hKeyed.lookup hk) hRest _⟩

/-- Where both trees have something behind the same keys, the one is laid over the other. -/
theorem at?_overlay_both {names : List String} (hKeyed : upper.IsKeyed)
    (hu : upper.at? (names.map .key) = some u) (hv : lower.at? (names.map .key) = some v) :
    (overlay upper lower).at? (names.map .key) = some (overlay u v) := by
  induction names generalizing upper lower with
  | nil => simp_all
  | cons k rest ih =>
    obtain ⟨u', hu', hRest⟩ := at?_cons_eq_some_iff.mp hu
    obtain ⟨v', hv', hRest'⟩ := at?_cons_eq_some_iff.mp hv
    obtain ⟨o, above, rfl, hk⟩ := eq_fields_of_part?_key hu'
    obtain ⟨o', fields, rfl, hk'⟩ := eq_fields_of_part?_key hv'
    rw [overlay]
    refine at?_cons_eq_some_iff.mpr ⟨_, lookup_fieldsOver hKeyed.nodup hk fields, ?_⟩
    rw [hk']
    exact ih (hKeyed.lookup hk) hRest hRest'

/-! ### What an upper tree spares -/

/-- Whether a mapping stands at the end of some steps. -/
def mapsAt (p : List Step) (t : Tree) : Bool := (t.at? p).any isMapping

theorem mapsAt_iff : t.mapsAt p = true ↔ ∃ o list, t.at? p = some (.fields o list) := by
  rw [mapsAt, Option.any_eq_true]
  constructor
  · rintro ⟨u, hu, hMapping⟩
    obtain ⟨o, list, rfl⟩ := eq_fields_of_isMapping hMapping
    exact ⟨o, list, hu⟩
  · rintro ⟨o, list, hu⟩
    exact ⟨_, hu, rfl⟩

/-- Whether an upper tree leaves a place of a lower one alone: nothing in it but mappings stands on
the way to the place or behind it, and those on the way lie over mappings. -/
structure Spares (upper lower : Tree) (p : List Step) : Prop where
  leaf : ∀ q u, upper.at? q = some u → u.isMapping = false → ¬ q <+: p ∧ ¬ p <+: q
  mapping : ∀ q, q <+: p → upper.mapsAt q = true → lower.mapsAt q = true

theorem Spares.part (h : Spares upper lower (s :: p)) (hu : upper.part? s = some u)
    (hv : lower.part? s = some v) : Spares u v p where
  leaf q w hw hLeaf := by
    have := h.leaf (s :: q) w (at?_cons_eq_some_iff.mpr ⟨u, hu, hw⟩) hLeaf
    simpa [List.cons_prefix_cons] using this
  mapping q hq hMaps := by
    have := h.mapping (s :: q) (List.cons_prefix_cons.mpr ⟨rfl, hq⟩)
    simp only [mapsAt, at?_cons, hu, hv, Option.bind_some] at this
    exact this hMaps

theorem Spares.isMapping_upper (h : Spares upper lower p) : upper.isMapping = true := by
  by_contra hLeaf
  exact (h.leaf [] upper rfl (Bool.eq_false_iff.mpr hLeaf)).1 List.nil_prefix

theorem Spares.isMapping_lower (h : Spares upper lower p) : lower.isMapping = true :=
  h.mapping [] List.nil_prefix h.isMapping_upper

/-- What an upper tree spares is found as it was in the lower one. -/
theorem at?_overlay_lower (hKeyed : upper.IsKeyed) (hSpares : Spares upper lower p)
    (hv : lower.at? p = some v) (hLeaf : v.isMapping = false) :
    (overlay upper lower).at? p = some v := by
  induction p generalizing upper lower with
  | nil =>
    obtain rfl : lower = v := by simpa using hv
    rw [hSpares.isMapping_lower] at hLeaf
    contradiction
  | cons s rest ih =>
    obtain ⟨o, above, rfl⟩ := eq_fields_of_isMapping hSpares.isMapping_upper
    obtain ⟨o', fields, rfl⟩ := eq_fields_of_isMapping hSpares.isMapping_lower
    obtain ⟨v', hv', hRest⟩ := at?_cons_eq_some_iff.mp hv
    obtain ⟨k, rfl, hk⟩ := part?_fields hv'
    rw [overlay]
    -- Both trees are mappings on the way, until the upper one has nothing at a key.
    cases hAbove : above.lookup k with
    | none =>
      exact at?_cons_eq_some_iff.mpr ⟨v', (lookup_fieldsOver_of_none hAbove fields).trans hk, hRest⟩
    | some u =>
      refine at?_cons_eq_some_iff.mpr ⟨_, lookup_fieldsOver hKeyed.nodup hAbove fields, ?_⟩
      rw [hk]
      exact ih (hKeyed.lookup hAbove) (hSpares.part hAbove hv') hRest

/-- A tree laid over another one maps at least where it did. -/
theorem mapsAt_overlay (hKeyed : upper.IsKeyed) (h : upper.mapsAt p = true) (lower : Tree) :
    (overlay upper lower).mapsAt p = true := by
  induction p generalizing upper lower with
  | nil =>
    obtain ⟨o, above, rfl⟩ := eq_fields_of_isMapping (t := upper) h
    rw [overlay]
    rfl
  | cons s rest ih =>
    cases hKind : upper.isMapping with
    | false => rwa [overlay_of_not_mapping hKind]
    | true =>
      obtain ⟨o, above, rfl⟩ := eq_fields_of_isMapping hKind
      obtain ⟨o', list, hAt⟩ := mapsAt_iff.mp h
      obtain ⟨u, hu, hRest⟩ := at?_cons_eq_some_iff.mp hAt
      obtain ⟨k, rfl, hk⟩ := part?_fields hu
      have hLookup := lookup_fieldsOver hKeyed.nodup hk lower.fieldList
      have ih := ih (hKeyed.lookup hk) (mapsAt_iff.mpr ⟨o', list, hRest⟩)
        ((lower.fieldList.lookup k).getD nothing)
      rw [mapsAt, overlay, at?_cons, part?_key, fieldList, hLookup]
      exact ih

theorem Spares.mono (h : Spares upper lower p)
    (hMaps : ∀ q, lower.mapsAt q = true → lower'.mapsAt q = true) : Spares upper lower' p :=
  ⟨h.leaf, fun q hq hUpper => hMaps q (h.mapping q hq hUpper)⟩

/-- A mapping without a key spares whatever is behind the key. -/
theorem spares_of_lookup_eq_none (h : above.lookup k = none) (o o' : Option String)
    (fields : List (String × Tree)) (rest : List Step) :
    Spares (.fields o above) (.fields o' fields) (.key k :: rest) where
  leaf q u hu hLeaf := by
    cases q with
    | nil =>
      cases hu
      simp [isMapping] at hLeaf
    | cons s q =>
      obtain ⟨w, hw, -⟩ := at?_cons_eq_some_iff.mp hu
      have hNe : s ≠ .key k := by
        rintro rfl
        rw [part?_key, fieldList, h] at hw
        simp at hw
      simp [List.cons_prefix_cons, hNe, hNe.symm]
  mapping q hq hMaps := by
    cases q with
    | nil => rfl
    | cons s q =>
      obtain rfl := (List.cons_prefix_cons.mp hq).1
      rw [mapsAt, at?_cons, part?_key, fieldList, h] at hMaps
      simp at hMaps

end Lookout.Config.Tree
