import Lookout.Proofs.Condition.Truth
import Mathlib
/-!
The texts that count as true, as a grammar: the word or a number in range, between blanks.
-/
namespace Lookout.Condition

open Text

variable {cs before inner after digits : List Char} {n : Nat}

/-- What counts as true by itself: the word, each letter of it small or capital, or a decimal number above
zero that fits 64 bits with a sign, perhaps with a plus sign. Zeros in front of it do not matter. -/
inductive IsTrueText : List Char → Prop
  | word {cs : List Char}
      (hLetters : List.Forall₂ (fun c letter => c = letter ∨ c = letter.toUpper) cs ['t', 'r', 'u', 'e']) :
      IsTrueText cs
  | number {sign digits : List Char} (hSign : sign = [] ∨ sign = ['+']) (hSome : digits ≠ [])
      (hDigits : ∀ c ∈ digits, c.isDigit = true) (hPositive : 0 < Nat.ofDigitChars 10 digits 0)
      (hFits : Nat.ofDigitChars 10 digits 0 ≤ 2 ^ 63 - 1) :
      IsTrueText (sign ++ digits)

/-! ### The word -/

theorem toLower_eq_iff {c : Char} (letter : Char) (hSmall : letter.toLower = letter) :
    c.toLower = letter ↔ c = letter ∨ c = letter.toUpper := by
  constructor
  · rintro rfl
    by_cases hUpper : c.isUpper = true
    · right
      rw [Char.toUpper_toLower_eq_toUpper,
        Char.toUpper_eq_of_not_isLower (Char.not_isLower_of_isUpper hUpper)]
    · left
      exact (Char.toLower_eq_of_not_isUpper hUpper).symm
  · rintro (rfl | rfl)
    · exact hSmall
    · rw [Char.toLower_toUpper_eq_toLower, hSmall]

theorem isTrueWord_iff :
    isTrueWord cs = true ↔
      List.Forall₂ (fun c letter => c = letter ∨ c = letter.toUpper) cs ['t', 'r', 'u', 'e'] := by
  rw [isTrueWord, beq_iff_eq, ← List.forall₂_eq_eq_eq, List.forall₂_map_left_iff]
  simp only [List.forall₂_cons_right_iff, List.forall₂_nil_right_iff,
    toLower_eq_iff 't' rfl, toLower_eq_iff 'r' rfl,
    toLower_eq_iff 'u' rfl, toLower_eq_iff 'e' rfl]

/-! ### Numbers -/

theorem digitsFrom?_eq_some_iff :
    digitsFrom? 0 cs = some n ↔
      (∀ c ∈ cs, c.isDigit = true) ∧ Nat.ofDigitChars 10 cs 0 = n ∧ n ≤ maxWhole := by
  constructor
  · intro hRead
    have hDigits := isDigit_of_digitsFrom? hRead
    rw [digitsFrom?_of_digits hDigits (Nat.zero_le _)] at hRead
    split at hRead
    · rename_i hFits
      cases hRead
      exact ⟨hDigits, rfl, hFits⟩
    · cases hRead
  · rintro ⟨hDigits, rfl, hFits⟩
    rw [digitsFrom?_of_digits hDigits (Nat.zero_le _), if_pos hFits]

/-- A number is read of digits only, with or without the sign in front of them. -/
theorem unsigned?_eq_some_iff :
    unsigned? cs = some n ↔ ∃ sign digits, cs = sign ++ digits ∧ (sign = [] ∨ sign = ['+']) ∧
      digits ≠ [] ∧ digitsFrom? 0 digits = some n := by
  constructor
  · intro hRead
    unfold unsigned? at hRead
    split at hRead
    · cases hRead
    · cases hRead
    · rename_i hSome
      exact ⟨['+'], _, rfl, .inr rfl, fun hNone => hSome (by rw [hNone]), hRead⟩
    · rename_i hSome _ _
      exact ⟨[], cs, rfl, .inl rfl, hSome, hRead⟩
  · rintro ⟨sign, digits, rfl, rfl | rfl, hSome, hRead⟩
    · obtain ⟨c, rest, rfl⟩ := List.exists_cons_of_ne_nil hSome
      have hDigit := isDigit_of_digitsFrom? hRead c List.mem_cons_self
      -- A digit is no sign.
      have hc : c ≠ '+' := ne_of_isDigit hDigit rfl
      unfold unsigned?
      split <;> simp_all
    · obtain ⟨c, rest, rfl⟩ := List.exists_cons_of_ne_nil hSome
      exact hRead

theorem isTrueText_iff :
    IsTrueText cs ↔ (isTrueWord cs || (unsigned? cs).any (0 < ·)) = true := by
  rw [Bool.or_eq_true, isTrueWord_iff, Option.any_eq_true]
  constructor
  · intro h
    cases h with
    | word hLetters => exact .inl hLetters
    | @number sign digits hSign hSome hDigits hPositive hFits =>
        refine .inr ⟨Nat.ofDigitChars 10 digits 0, ?_, decide_eq_true hPositive⟩
        exact unsigned?_eq_some_iff.2
          ⟨sign, digits, rfl, hSign, hSome, digitsFrom?_eq_some_iff.2 ⟨hDigits, rfl, hFits⟩⟩
  · rintro (hLetters | ⟨n, hRead, hPositive⟩)
    · exact .word hLetters
    · obtain ⟨sign, digits, rfl, hSign, hSome, hDigits⟩ := unsigned?_eq_some_iff.1 hRead
      obtain ⟨hAll, rfl, hFits⟩ := digitsFrom?_eq_some_iff.1 hDigits
      exact .number hSign hSome hAll (of_decide_eq_true hPositive) hFits

/-! ### Blanks around -/

theorem not_blank_of_signed {sign : List Char} (hSign : sign = [] ∨ sign = ['+'])
    (hDigits : ∀ c ∈ digits, c.isDigit = true) : ∀ c ∈ sign ++ digits, isBlank c = false := by
  intro c hc
  rcases List.mem_append.1 hc with hc | hc
  · rcases hSign with rfl | rfl
    · cases hc
    · cases List.mem_singleton.1 hc
      rfl
  · exact isBlank_of_isDigit (hDigits c hc)

/-- All of a text that counts as true by itself stands between the blanks. -/
theorem IsTrueText.not_blank (h : IsTrueText cs) : ∀ c ∈ cs, isBlank c = false := by
  cases h with
  | word hLetters =>
      intro c hc
      have hWord := eq_of_beq (isTrueWord_iff.2 hLetters)
      have hLetter : c.toLower ∈ ['t', 'r', 'u', 'e'] := hWord ▸ List.mem_map_of_mem hc
      have hAlpha : c.toLower.isAlpha = true :=
        List.all_eq_true.1 (rfl : ['t', 'r', 'u', 'e'].all Char.isAlpha = true) _ hLetter
      exact isBlank_of_isAlpha (Char.isAlpha_toLower_eq_isAlpha c ▸ hAlpha)
  | number hSign _ hDigits _ _ => exact not_blank_of_signed hSign hDigits

theorem isTruthy_iff :
    isTruthy cs = true ↔ ∃ before inner after, cs = before ++ inner ++ after ∧
      (∀ c ∈ before, isBlank c = true) ∧ (∀ c ∈ after, isBlank c = true) ∧ IsTrueText inner := by
  have hTrimmed : isTruthy cs = true ↔ IsTrueText (trim cs) := isTrueText_iff.symm
  rw [hTrimmed]
  constructor
  · intro hTrue
    obtain ⟨before, after, hParts, hBefore, hAfter⟩ := exists_eq_trim cs
    exact ⟨before, trim cs, after, hParts, hBefore, hAfter, hTrue⟩
  · rintro ⟨before, inner, after, rfl, hBefore, hAfter, hTrue⟩
    rwa [trim_append hBefore hTrue.not_blank hAfter]

/-! ### What never counts as true -/

/-- What keeps a text from counting as true: a minus sign, a point, an exponent, a character beyond ASCII
such as a digit of another script, or a blank between other characters; or it is a number that does not
fit. -/
inductive IsSpoilt : List Char → Prop
  | minus {cs : List Char} (h : '-' ∈ cs) : IsSpoilt cs
  | point {cs : List Char} (h : '.' ∈ cs) : IsSpoilt cs
  | exponent {cs : List Char} {digit mark : Char} (hDigit : digit ∈ cs) (hIsDigit : digit.isDigit = true)
      (hMark : mark ∈ cs) (hIsMark : mark = 'e' ∨ mark = 'E') : IsSpoilt cs
  | beyond {cs : List Char} {c : Char} (h : c ∈ cs) (hBeyond : 128 ≤ c.toNat) (hBlank : isBlank c = false) :
      IsSpoilt cs
  | blankInside {cs : List Char} {before blank after : Char} (h : [before, blank, after].Sublist cs)
      (hBefore : isBlank before = false) (hBlank : isBlank blank = true) (hAfter : isBlank after = false) :
      IsSpoilt cs
  | tooGreat {before sign digits after : List Char} (hBefore : ∀ c ∈ before, isBlank c = true)
      (hSign : sign = [] ∨ sign = ['+']) (hDigits : ∀ c ∈ digits, c.isDigit = true)
      (hGreat : 2 ^ 63 ≤ Nat.ofDigitChars 10 digits 0) (hAfter : ∀ c ∈ after, isBlank c = true) :
      IsSpoilt (before ++ (sign ++ digits) ++ after)

theorem isForeign_of_beyond {c : Char} (hBeyond : 128 ≤ c.toNat) (hBlank : isBlank c = false) :
    isForeign c = true := by
  have hUpper : ¬ c.isUpper = true := by
    intro h
    simp only [Char.isUpper, decide_eq_true_eq] at h
    have hLow : c.toNat ≤ 90 := UInt32.le_iff_toNat_le.1 h.2
    omega
  have hDigit : ¬ c.isDigit = true := by
    rw [isDigit_iff]
    omega
  have hNone {x : Char} (hx : x.toNat < 128) : c ≠ x := by
    rintro rfl
    omega
  simp [isForeign, hBlank, Char.toLower_eq_of_not_isUpper hUpper, hDigit, hNone]

/-- The blanks at the ends of a text are no blanks inside it. -/
theorem IsTrueText.not_blankInside {x blank y : Char} (h : IsTrueText inner)
    (hBefore : ∀ c ∈ before, isBlank c = true) (hAfter : ∀ c ∈ after, isBlank c = true)
    (hParts : [x, blank, y].Sublist (before ++ inner ++ after)) (hx : isBlank x = false)
    (hBlank : isBlank blank = true) (hy : isBlank y = false) : False := by
  have hDiffer {a b : Char} (ha : isBlank a = true) (hb : isBlank b = false) : a ≠ b :=
    fun hSame => Bool.false_ne_true (hb.symm.trans (hSame ▸ ha))
  rw [List.append_assoc] at hParts
  obtain ⟨first, rest, hSplit, hFirst, hRest⟩ := List.sublist_append_iff.1 hParts
  cases first with
  | cons c first =>
      obtain rfl := (List.cons.inj hSplit).1
      exact hDiffer (hBefore x (hFirst.subset List.mem_cons_self)) hx rfl
  | nil =>
      obtain rfl := hSplit
      obtain ⟨middle, last, hSplit, hMiddle, hLast⟩ := List.sublist_append_iff.1 hRest
      rcases List.eq_nil_or_concat last with rfl | ⟨last, c, rfl⟩
      · rw [List.append_nil] at hSplit
        subst hSplit
        exact hDiffer hBlank (h.not_blank blank (hMiddle.subset (by simp))) rfl
      · have hEnds : [x, blank] ++ [y] = (middle ++ last) ++ [c] := by simpa using hSplit
        obtain ⟨-, hSame⟩ := List.append_inj' hEnds rfl
        obtain rfl := List.singleton_inj.1 hSame
        exact hDiffer (hAfter y (hLast.subset (by simp))) hy rfl

/-- The digits of a number that counts as true stand for one that fits. -/
theorem IsTrueText.ofDigitChars_le {sign : List Char} (h : IsTrueText (sign ++ digits))
    (hSign : sign = [] ∨ sign = ['+']) (hDigits : ∀ c ∈ digits, c.isDigit = true) :
    Nat.ofDigitChars 10 digits 0 ≤ 2 ^ 63 - 1 := by
  -- The digits are told from the text, whichever way it is split into a sign and digits.
  have hFilter {sign digits : List Char} (hSign : sign = [] ∨ sign = ['+'])
      (hDigits : ∀ c ∈ digits, c.isDigit = true) : (sign ++ digits).filter Char.isDigit = digits := by
    rw [List.filter_append, List.filter_eq_self.2 hDigits]
    rcases hSign with rfl | rfl <;> rfl
  generalize hText : sign ++ digits = cs at h
  cases h with
  | word hLetters =>
      cases digits with
      | nil => exact Nat.zero_le _
      | cons c rest =>
          have hMem : c ∈ cs := hText ▸ List.mem_append_right _ List.mem_cons_self
          have hWord := eq_of_beq (isTrueWord_iff.2 hLetters)
          exact absurd (hWord ▸ List.mem_map_of_mem hMem)
            (not_letter_of_isDigit (hDigits c List.mem_cons_self))
  | @number sign' digits' hSign' hSome hDigits' hPositive hFits =>
      have hSame : digits = digits' := by
        rw [← hFilter hSign hDigits, hText, hFilter hSign' hDigits']
      exact hSame ▸ hFits

theorem isTruthy_of_isSpoilt (h : IsSpoilt cs) : isTruthy cs = false := by
  cases h with
  | minus h => exact isTruthy_of_foreign h rfl
  | point h => exact isTruthy_of_foreign h rfl
  | beyond h hBeyond hBlank => exact isTruthy_of_foreign h (isForeign_of_beyond hBeyond hBlank)
  | exponent hDigit hIsDigit hMark hIsMark => exact isTruthy_of_exponent hDigit hIsDigit hMark hIsMark
  | blankInside h hBefore hBlank hAfter =>
      refine eq_false_of_ne_true fun hTrue => ?_
      obtain ⟨before, inner, after, rfl, hBlanks, hBlanks', hInner⟩ := isTruthy_iff.1 hTrue
      exact hInner.not_blankInside hBlanks hBlanks' h hBefore hBlank hAfter
  | @tooGreat before sign digits after hBefore hSign hDigits hGreat hAfter =>
      refine eq_false_of_ne_true fun hTrue => ?_
      have hInner : IsTrueText (sign ++ digits) := by
        rw [isTrueText_iff, ← trim_append hBefore (not_blank_of_signed hSign hDigits) hAfter]
        exact hTrue
      have hFits := hInner.ofDigitChars_le hSign hDigits
      omega

/-- A text counts as true just when it is, without the blanks at its ends, the word in any mix of cases or
a decimal number above zero that fits 64 bits with a sign, perhaps with a plus sign. A text never does that
has a minus sign, a blank inside, a point, an exponent or a digit beyond ASCII, and no number does from
`2 ^ 63` on. -/
theorem isTruthy_iff_grammar (cs : List Char) :
    (isTruthy cs = true ↔ ∃ before inner after, cs = before ++ inner ++ after ∧
      (∀ c ∈ before, isBlank c = true) ∧ (∀ c ∈ after, isBlank c = true) ∧ IsTrueText inner) ∧
    (IsSpoilt cs → isTruthy cs = false) :=
  ⟨isTruthy_iff, isTruthy_of_isSpoilt⟩

/-- Zeros, a plus sign and blanks of any script do not matter, but the first number that does not fit is not
true, and neither are two numbers. -/
theorem paddedNumber_isTruthy :
    isTruthy "\u3000+0007\n".toList = true ∧
    IsSpoilt " 9223372036854775808".toList ∧ isTruthy " 9223372036854775808".toList = false ∧
    IsSpoilt "1\u00a01".toList ∧ isTruthy "1\u00a01".toList = false := by
  have hGreat : IsSpoilt " 9223372036854775808".toList :=
    @IsSpoilt.tooGreat [' '] [] "9223372036854775808".toList []
      (List.all_eq_true.1 rfl) (.inl rfl) (List.all_eq_true.1 rfl) (by decide) nofun
  have hTwo : IsSpoilt "1\u00a01".toList := .blankInside (List.Sublist.refl _) rfl rfl rfl
  refine ⟨(isTruthy_iff_grammar _).1.2 ?_, hGreat, (isTruthy_iff_grammar _).2 hGreat, hTwo,
    (isTruthy_iff_grammar _).2 hTwo⟩
  refine ⟨['\u3000'], ['+'] ++ ['0', '0', '0', '7'], ['\n'], rfl, List.all_eq_true.1 rfl,
    List.all_eq_true.1 rfl, ?_⟩
  exact .number (.inr rfl) (by simp) (List.all_eq_true.1 rfl) (by decide) (by decide)

end Lookout.Condition
