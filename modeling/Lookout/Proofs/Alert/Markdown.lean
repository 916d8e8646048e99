import Lookout.Alert.Markdown
import Mathlib.Algebra.BigOperators.Group.List.Basic
/-!
Text written for chats and read back: what fits the limit is the longest beginning of the text whose
written form fits, and reading gives just that.
-/
namespace Lookout.Alert.Markdown

variable {c : Char} {limit : Nat} {text p : List Char}

/-! ### One character -/

theorem length_escapeChar (c : Char) : (escapeChar c).length = width c := by
  unfold escapeChar width
  split <;> rfl

theorem unescape?_cons (hNe : c ≠ '\\') (rest : List Char) :
    unescape? (c :: rest) = if isSpecial c then none else (unescape? rest).map (c :: ·) := by
  rw [unescape?]
  exact fun _ _ hSame _ => hNe hSame

/-- A character is read from its own written form, whatever follows it. -/
theorem unescape?_escapeChar (c : Char) (rest : List Char) :
    unescape? (escapeChar c ++ rest) = (unescape? rest).map (c :: ·) := by
  unfold escapeChar
  split
  · rename_i hSpecial
    rw [List.cons_append, List.singleton_append, unescape?, if_pos hSpecial]
  · rename_i hPlain
    have hNe : c ≠ '\\' := by
      rintro rfl
      exact hPlain (by decide)
    rw [List.singleton_append, unescape?_cons hNe, if_neg hPlain]

/-! ### What fits -/

/-- How many characters a text takes when it is written. -/
def widthOf : List Char → Nat
  | [] => 0
  | c :: text => width c + widthOf text

theorem widthOf_cons (c : Char) (text : List Char) : widthOf (c :: text) = width c + widthOf text :=
  rfl

theorem length_flatMap_escapeChar (text : List Char) :
    (text.flatMap escapeChar).length = widthOf text := by
  induction text with
  | nil => rfl
  | cons c rest ih => rw [List.flatMap_cons, List.length_append, length_escapeChar, ih, widthOf_cons]

/-- A written text is read back, whatever its characters. -/
theorem unescape?_flatMap_escapeChar (text : List Char) :
    unescape? (text.flatMap escapeChar) = some text := by
  induction text with
  | nil => rfl
  | cons c rest ih => rw [List.flatMap_cons, unescape?_escapeChar, ih, Option.map_some]

/-- Whether a text is the longest beginning of another one whose written form fits a limit. -/
structure IsLongestFit (limit : Nat) (text p : List Char) : Prop where
  begins : p <+: text
  fits : widthOf p ≤ limit
  longest : ∀ q, q <+: text → widthOf q ≤ limit → q <+: p
  /-- Nothing is lost of a text that fits. -/
  whole : widthOf text ≤ limit → p = text

theorem isLongestFit_nil (limit : Nat) : IsLongestFit limit [] [] where
  begins := List.prefix_refl []
  fits := Nat.zero_le limit
  longest _ hBegins _ := hBegins
  whole _ := rfl

/-- Nothing fits a limit that the first character passes. -/
theorem isLongestFit_of_lt (hWide : limit < width c) : IsLongestFit limit (c :: text) [] where
  begins := List.nil_prefix
  fits := Nat.zero_le limit
  longest q hBegins hFits := by
    cases q with
    | nil => exact List.prefix_refl []
    | cons d q =>
      obtain rfl := (List.cons_prefix_cons.mp hBegins).1
      rw [widthOf_cons] at hFits
      omega
  whole hFits := by
    rw [widthOf_cons] at hFits
    omega

/-- A first character that fits stands before what fits behind it. -/
theorem IsLongestFit.cons (hFits : width c ≤ limit) (h : IsLongestFit (limit - width c) text p) :
    IsLongestFit limit (c :: text) (c :: p) where
  begins := List.cons_prefix_cons.mpr ⟨rfl, h.begins⟩
  fits := by
    have hRest := h.fits
    rw [widthOf_cons]
    omega
  longest q hBegins hWidth := by
    cases q with
    | nil => exact List.nil_prefix
    | cons d q =>
      obtain ⟨rfl, hBehind⟩ := List.cons_prefix_cons.mp hBegins
      rw [widthOf_cons] at hWidth
      exact List.cons_prefix_cons.mpr ⟨rfl, h.longest q hBehind (by omega)⟩
  whole hWidth := by
    rw [widthOf_cons] at hWidth
    rw [h.whole (by omega)]

/-- What is written is the longest beginning of a text that fits. -/
theorem exists_longestFit (limit : Nat) (text : List Char) :
    ∃ p, escape limit text = p.flatMap escapeChar ∧ IsLongestFit limit text p := by
  induction text generalizing limit with
  | nil => exact ⟨[], rfl, isLongestFit_nil limit⟩
  | cons c rest ih =>
    rw [escape]
    split
    · rename_i hFits
      obtain ⟨p, hWritten, hLongest⟩ := ih (limit - width c)
      exact ⟨c :: p, by rw [hWritten, List.flatMap_cons], hLongest.cons hFits⟩
    · rename_i hWide
      exact ⟨[], rfl, isLongestFit_of_lt (Nat.lt_of_not_le hWide)⟩

/-- Whatever the text and the limit, what is written fits, and it is read back as the longest beginning of
the text that does. So it holds no markup, and no backslash without its character. -/
theorem unescape?_escape (limit : Nat) (text : List Char) :
    (escape limit text).length ≤ limit ∧
      ∃ p, unescape? (escape limit text) = some p ∧ IsLongestFit limit text p ∧
        escape limit text = p.flatMap escapeChar := by
  obtain ⟨p, hWritten, hLongest⟩ := exists_longestFit limit text
  refine ⟨?_, p, ?_, hLongest, hWritten⟩
  · rw [hWritten, length_flatMap_escapeChar]
    exact hLongest.fits
  · rw [hWritten, unescape?_flatMap_escapeChar]

end Lookout.Alert.Markdown
