import Lookout.Template
import Mathlib.Data.List.Forall2
import Mathlib.Data.List.TakeWhile
import Mathlib.Tactic.SplitIfs
/-!
Templates are cut in one way only, whatever the variables are, and each placeholder is replaced in its
place. So values are never looked through for further placeholders.
-/
namespace Lookout.Template

open Text (isWord)

variable {cs rest after name stretch : List Char} {segs : List Segment} {s : Segment} {c : Char}

/-! ### The one way to cut a template -/

/-- Whether a text can be the name in a placeholder. -/
def IsName (name : List Char) : Prop := name ≠ [] ∧ ∀ c ∈ name, isWord c = true

/-- Whether a dollar sign in front of a text begins a placeholder: a word character follows it, or a name
between braces. -/
def BeginsName (cs : List Char) : Prop :=
  (∃ c ∈ cs.head?, isWord c = true) ∨ ∃ name rest, IsName name ∧ cs = '\x7b' :: (name ++ '\x7d' :: rest)

/-- Whether segments are what a template is made of. Literals are as long as can be and hold no dollar
sign that begins a placeholder; a name without braces is as long as can be. -/
inductive Cut : List Segment → List Char → Prop where
  | nil : Cut [] []
  | literal {stretch rest : List Char} {segs : List Segment} (hSome : stretch ≠ [])
      (hPlain : ∀ before behind, stretch = before ++ '$' :: behind → ¬ BeginsName (behind ++ rest))
      (hWhole : ∀ more behind, segs ≠ .literal more :: behind) (hRest : Cut segs rest) :
      Cut (.literal stretch :: segs) (stretch ++ rest)
  | braced {name rest : List Char} {segs : List Segment} (hName : IsName name) (hRest : Cut segs rest) :
      Cut (.placeholder true name :: segs) ('$' :: '\x7b' :: (name ++ '\x7d' :: rest))
  | bare {name rest : List Char} {segs : List Segment} (hName : IsName name)
      (hLongest : ∀ c ∈ rest.head?, isWord c = false) (hRest : Cut segs rest) :
      Cut (.placeholder false name :: segs) ('$' :: (name ++ rest))

theorem Cut.source (h : Cut segs cs) : segs.flatMap Segment.source = cs := by
  induction h with
  | nil => rfl
  | literal _ _ _ _ ih => rw [List.flatMap_cons, ih]; rfl
  | braced _ _ ih => simp [Segment.source, ih]
  | bare _ _ _ ih => rw [List.flatMap_cons, ih]; rfl

/-! ### Placeholders -/

theorem takeWhile_name (hName : ∀ c ∈ name, isWord c = true) (hEnds : ∀ c ∈ rest.head?, isWord c = false) :
    (name ++ rest).takeWhile isWord = name := by
  rw [List.takeWhile_append_of_pos hName]
  cases rest with
  | nil => simp
  | cons c rest => simp [hEnds c rfl]

theorem dropWhile_name (hName : ∀ c ∈ name, isWord c = true) (hEnds : ∀ c ∈ rest.head?, isWord c = false) :
    (name ++ rest).dropWhile isWord = rest := by
  rw [List.dropWhile_append_of_pos hName]
  cases rest with
  | nil => rfl
  | cons c rest => simp [hEnds c rfl]

/-- What follows a run of word characters does not go on with one. -/
theorem head_dropWhile_name (cs : List Char) : ∀ c ∈ (cs.dropWhile isWord).head?, isWord c = false := by
  intro c hc
  have hNot := List.head?_dropWhile_not isWord cs
  rw [hc] at hNot
  simpa using hNot

theorem placeholder?_braced (hName : IsName name) (rest : List Char) :
    placeholder? ('\x7b' :: (name ++ '\x7d' :: rest)) = some (.placeholder true name, rest) := by
  have hEnds : ∀ c ∈ ('\x7d' :: rest).head?, isWord c = false := by
    rintro c ⟨⟩
    decide
  obtain ⟨c, name, rfl⟩ := List.exists_cons_of_ne_nil hName.1
  simp only [placeholder?, takeWhile_name hName.2 hEnds, dropWhile_name hName.2 hEnds]

theorem placeholder?_bare (hName : IsName name) (hLongest : ∀ c ∈ rest.head?, isWord c = false) :
    placeholder? (name ++ rest) = some (.placeholder false name, rest) := by
  obtain ⟨c, name, rfl⟩ := List.exists_cons_of_ne_nil hName.1
  have hBrace : c ≠ '\x7b' := by
    rintro rfl
    exact absurd (hName.2 _ List.mem_cons_self) (by decide)
  unfold placeholder?
  split
  · rename_i hSame
    exact absurd (List.cons.inj hSame).1 hBrace
  · rw [takeWhile_name hName.2 hLongest, dropWhile_name hName.2 hLongest]

/-- A placeholder is a name between braces or one that is as long as can be. -/
theorem placeholder?_cases (h : placeholder? cs = some (s, after)) :
    (∃ name, s = .placeholder true name ∧ IsName name ∧ cs = '\x7b' :: (name ++ '\x7d' :: after)) ∨
      ∃ name, s = .placeholder false name ∧ IsName name ∧ (∀ c ∈ after.head?, isWord c = false) ∧
        cs = name ++ after := by
  have hName {cs name : List Char} {c : Char} (hTake : cs.takeWhile isWord = c :: name) : IsName (c :: name) :=
    ⟨List.cons_ne_nil c name, fun d hd => List.mem_takeWhile_imp (hTake ▸ hd)⟩
  unfold placeholder? at h
  split at h
  · rename_i rest
    split at h
    · rename_i c name tail hTake hDrop
      cases h
      refine .inl ⟨_, rfl, hName hTake, ?_⟩
      rw [← hTake, ← hDrop, List.takeWhile_append_dropWhile]
    · cases h
  · split at h
    · rename_i c name hTake
      cases h
      refine .inr ⟨_, rfl, hName hTake, head_dropWhile_name _, ?_⟩
      rw [← hTake, List.takeWhile_append_dropWhile]
    · cases h

/-- Where no placeholder is read, none begins. -/
theorem not_beginsName (h : placeholder? cs = none) : ¬ BeginsName cs := by
  rintro (⟨c, hc, hWord⟩ | ⟨name, rest, hName, rfl⟩)
  · have hName : IsName (cs.takeWhile isWord) := by
      refine ⟨?_, fun d hd => List.mem_takeWhile_imp hd⟩
      cases cs with
      | nil => cases hc
      | cons d cs =>
        cases hc
        simp [hWord]
    have hRead := placeholder?_bare hName (head_dropWhile_name cs)
    rw [List.takeWhile_append_dropWhile, h] at hRead
    cases hRead
  · rw [placeholder?_braced hName] at h
    cases h

theorem placeholder?_eq_none (h : ¬ BeginsName cs) : placeholder? cs = none := by
  cases hRead : placeholder? cs with
  | none => rfl
  | some read =>
    refine absurd ?_ h
    rcases placeholder?_cases hRead with ⟨name, -, hName, hText⟩ | ⟨name, -, hName, -, hText⟩
    · exact .inr ⟨name, read.2, hName, hText⟩
    · obtain ⟨c, name, rfl⟩ := List.exists_cons_of_ne_nil hName.1
      exact .inl ⟨c, by rw [hText]; rfl, hName.2 c List.mem_cons_self⟩

/-! ### Segments -/

theorem segments_nil : segments [] = [] := by rw [segments]

theorem segments_placeholder (h : placeholder? rest = some (s, after)) :
    segments ('$' :: rest) = s :: segments after := by
  rw [segments, if_pos rfl]
  split
  · rename_i hRead
    rw [h] at hRead
    cases hRead
    rfl
  · rename_i hRead
    rw [h] at hRead
    cases hRead

theorem segments_literal (h : c = '$' → ¬ BeginsName rest) :
    segments (c :: rest) = addLiteral c (segments rest) := by
  rw [segments]
  split_ifs with hDollar
  · split
    · rename_i hRead
      rw [placeholder?_eq_none (h hDollar)] at hRead
      cases hRead
    · rfl
  · rfl

/-- A character that begins no placeholder goes into a literal. -/
theorem Cut.addLiteral (h : Cut segs cs) (hPlain : c = '$' → ¬ BeginsName cs) :
    Cut (addLiteral c segs) (c :: cs) := by
  have hAlone (hWhole : ∀ more behind, segs ≠ .literal more :: behind) :
      Cut (.literal [c] :: segs) (c :: cs) := by
    refine .literal (List.cons_ne_nil c []) (fun before behind hSame => ?_) hWhole h
    obtain ⟨rfl, hDollar, rfl⟩ : before = [] ∧ c = '$' ∧ behind = [] := by
      cases before <;> simp_all
    exact hPlain hDollar
  cases h with
  | nil => exact hAlone nofun
  | @literal stretch rest segs hSome hOld hWhole hRest =>
    refine .literal (List.cons_ne_nil c stretch) (fun before behind hSame => ?_) hWhole hRest
    cases before with
    | nil =>
      obtain ⟨hDollar, rfl⟩ := List.cons.inj hSame
      exact hPlain hDollar
    | cons _ before => exact hOld before behind (List.cons.inj hSame).2
  | braced _ _ => exact hAlone nofun
  | bare _ _ _ => exact hAlone nofun

/-- The segments that are read are those of the template. -/
theorem cut_segments (cs : List Char) : Cut (segments cs) cs := by
  fun_induction segments cs with
  | case1 => exact .nil
  | case2 rest s after hRead ih =>
    rcases placeholder?_cases hRead with ⟨name, rfl, hName, rfl⟩ | ⟨name, rfl, hName, hLongest, rfl⟩
    · exact .braced hName ih
    · exact .bare hName hLongest ih
  | case3 rest hRead ih => exact ih.addLiteral fun _ => not_beginsName hRead
  | case4 c rest hDollar ih => exact ih.addLiteral fun hSame => absurd hSame hDollar

/-- A stretch without the beginning of a placeholder is read character by character. -/
theorem segments_stretch
    (hPlain : ∀ before behind, stretch = before ++ '$' :: behind → ¬ BeginsName (behind ++ rest)) :
    segments (stretch ++ rest) = stretch.foldr addLiteral (segments rest) := by
  induction stretch with
  | nil => rfl
  | cons c stretch ih =>
    have hFirst : c = '$' → ¬ BeginsName (stretch ++ rest) := by
      rintro rfl
      exact hPlain [] stretch rfl
    have hLater := ih fun before behind hSame => hPlain (c :: before) behind (congrArg (c :: ·) hSame)
    rw [List.cons_append, segments_literal hFirst, hLater, List.foldr_cons]

theorem foldr_addLiteral (hSome : stretch ≠ []) (hWhole : ∀ more behind, segs ≠ .literal more :: behind) :
    stretch.foldr addLiteral segs = .literal stretch :: segs := by
  induction stretch with
  | nil => exact absurd rfl hSome
  | cons c stretch ih =>
    cases stretch with
    | nil =>
      match segs, hWhole with
      | [], _ => rfl
      | .placeholder _ _ :: _, _ => rfl
      | .literal more :: behind, hWhole => exact absurd rfl (hWhole more behind)
    | cons d stretch =>
      rw [List.foldr_cons, ih (List.cons_ne_nil d stretch)]
      rfl

/-- A template cannot be cut in another way. -/
theorem segments_of_cut (h : Cut segs cs) : segments cs = segs := by
  induction h with
  | nil => exact segments_nil
  | literal hSome hPlain hWhole _ ih => rw [segments_stretch hPlain, ih, foldr_addLiteral hSome hWhole]
  | braced hName _ ih => rw [segments_placeholder (placeholder?_braced hName _), ih]
  | bare hName hLongest _ ih => rw [segments_placeholder (placeholder?_bare hName hLongest), ih]

/-! ### Rendering -/

/-- What becomes of a segment. A value stands as it is, and a placeholder without one as it was written. -/
inductive Becomes (bindings : List (String × String)) : Segment → List Char → Prop where
  | literal (stretch : List Char) : Becomes bindings (.literal stretch) stretch
  | value {isBraced : Bool} {name : List Char} {value : String}
      (h : bindings.lookup (String.ofList name) = some value) :
      Becomes bindings (.placeholder isBraced name) value.toList
  | kept {isBraced : Bool} {name : List Char} (h : bindings.lookup (String.ofList name) = none) :
      Becomes bindings (.placeholder isBraced name) (Segment.placeholder isBraced name).source

theorem becomes_render (bindings : List (String × String)) (s : Segment) :
    Becomes bindings s (s.render bindings) := by
  cases s with
  | literal stretch => exact .literal stretch
  | placeholder isBraced name =>
    cases hLookup : bindings.lookup (String.ofList name) with
    | some value =>
      simp only [Segment.render, hLookup]
      exact .value hLookup
    | none =>
      simp only [Segment.render, hLookup]
      exact .kept hLookup

theorem render_nil (s : Segment) : s.render [] = s.source := by
  cases s <;> rfl

theorem render_congr {bindings others : List (String × String)}
    (h : ∀ isBraced name, s = .placeholder isBraced name →
      bindings.lookup (String.ofList name) = others.lookup (String.ofList name)) :
    s.render bindings = s.render others := by
  cases s with
  | literal stretch => rfl
  | placeholder isBraced name => simp only [Segment.render, h isBraced name rfl]

/-- Every template has one way to be cut, which does not depend on variables. Whatever the variables are,
the text is what its segments become, put together. So a template without variables stays as it is, and no
variable counts but those with a placeholder. -/
theorem render_in_one_pass (template : String) :
    ∃ segs, (segs.flatMap Segment.source = template.toList ∧ Cut segs template.toList ∧
        ∀ others, Cut others template.toList → others = segs) ∧
      (∀ bindings, ∃ pieces, List.Forall₂ (Becomes bindings) segs pieces ∧
        (render template bindings).toList = pieces.flatten) ∧
      render template [] = template ∧
      ∀ bindings others,
        (∀ isBraced name, .placeholder isBraced name ∈ segs →
          bindings.lookup (String.ofList name) = others.lookup (String.ofList name)) →
        render template bindings = render template others := by
  have hCut := cut_segments template.toList
  refine ⟨segments template.toList, ⟨hCut.source, hCut, fun others hOther => ?_⟩, fun bindings => ?_, ?_,
    fun bindings others hSame => ?_⟩
  · exact (segments_of_cut hOther).symm
  · refine ⟨(segments template.toList).map (Segment.render bindings), ?_, ?_⟩
    · exact List.forall₂_map_right_iff.mpr (List.forall₂_same.mpr fun s _ => becomes_render bindings s)
    · rw [render, String.toList_ofList, List.flatMap_def]
  · have hSource : (segments template.toList).flatMap (Segment.render []) = template.toList := by
      rw [funext render_nil]
      exact hCut.source
    rw [render, hSource, String.ofList_toList]
  · have hEach : ∀ s ∈ segments template.toList, s.render bindings = s.render others := by
      rintro s hs
      exact render_congr fun isBraced name hPlace => hSame isBraced name (hPlace ▸ hs)
    rw [render, render, List.flatMap_def, List.flatMap_def, List.map_congr_left hEach]

end Lookout.Template
