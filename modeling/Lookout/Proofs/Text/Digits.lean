import Lookout.Text.Blank
import Mathlib.Data.List.TakeWhile
/-!
Decimal digits, and the numbers that they are the text of.
-/
namespace Lookout.Text
variable {c : Char} {n : Nat}

/-! ### One digit -/

theorem isDigit_iff : c.isDigit = true ↔ 48 ≤ c.toNat ∧ c.toNat ≤ 57 := Char.isDigit_iff_toNat

theorem ne_of_isDigit {other : Char} (hc : c.isDigit = true) (hOther : other.isDigit = false) :
    c ≠ other :=
  fun hSame => Bool.false_ne_true (hOther.symm.trans (hSame ▸ hc))

theorem isBlank_of_isDigit (h : c.isDigit = true) : isBlank c = false := by
  have hRange := isDigit_iff.1 h
  simp only [isBlank, Bool.or_eq_false_iff, Bool.and_eq_false_iff, decide_eq_false_iff_not,
    beq_eq_false_iff_ne]
  omega

theorem isBlank_of_isAlpha (h : c.isAlpha = true) : isBlank c = false := by
  have hRange : (65 ≤ c.toNat ∧ c.toNat ≤ 90) ∨ (97 ≤ c.toNat ∧ c.toNat ≤ 122) := by
    rcases Bool.or_eq_true_iff.1 h with hUpper | hLower
    · exact .inl ((of_decide_eq_true hUpper).imp UInt32.le_iff_toNat_le.1 UInt32.le_iff_toNat_le.1)
    · obtain ⟨hLow, hHigh⟩ := Bool.and_eq_true_iff.1 hLower
      have hLow : 97 ≤ c.val := of_decide_eq_true hLow
      have hHigh : c.val ≤ 122 := of_decide_eq_true hHigh
      exact .inr ⟨UInt32.le_iff_toNat_le.1 hLow, UInt32.le_iff_toNat_le.1 hHigh⟩
  simp only [isBlank, Bool.or_eq_false_iff, Bool.and_eq_false_iff, decide_eq_false_iff_not,
    beq_eq_false_iff_ne]
  omega

theorem toLower_of_isDigit (h : c.isDigit = true) : c.toLower = c := by
  have hRange := isDigit_iff.1 h
  refine dif_neg fun hUpper => ?_
  have hAbove : 65 ≤ c.toNat := UInt32.le_iff_toNat_le.1 hUpper.1
  omega

/-- A digit after a number, as the number is read. -/
theorem ofDigitChars_cons (cs : List Char) (value : Nat) :
    Nat.ofDigitChars 10 (c :: cs) value = Nat.ofDigitChars 10 cs (value * 10 + (c.toNat - 48)) := by
  rw [Nat.ofDigitChars_cons, Nat.mul_comm]
  rfl

/-! ### The text of a number -/

theorem isDigit_of_mem_toDigits (hc : c ∈ Nat.toDigits 10 n) : c.isDigit = true :=
  Nat.isDigit_of_mem_toDigits (by decide) (by decide) hc

theorem exists_digit (n : Nat) : ∃ c cs, Nat.toDigits 10 n = c :: cs ∧ c.isDigit = true := by
  obtain ⟨c, cs, hDigits⟩ := List.exists_cons_of_ne_nil (@Nat.toDigits_ne_nil n 10)
  have hMem : c ∈ Nat.toDigits 10 n := hDigits ▸ List.mem_cons_self
  exact ⟨c, cs, hDigits, isDigit_of_mem_toDigits hMem⟩

/-- A number above zero is written without a zero in front. -/
theorem toDigits_of_pos (h : 0 < n) : ∃ c cs, Nat.toDigits 10 n = c :: cs ∧ c ≠ '0' := by
  induction n using Nat.base_induction 10 (by decide) with
  | single m hm =>
      refine ⟨m.digitChar, [], Nat.toDigits_of_lt_base hm, fun hZero => ?_⟩
      exact Nat.ne_of_gt h (Nat.digitChar_eq_zero.1 hZero)
  | digit m k hk hm ih =>
      obtain ⟨c, cs, hDigits, hc⟩ := ih hm
      refine ⟨c, cs ++ Nat.toDigits 10 k, ?_, hc⟩
      rw [← Nat.toDigits_append_toDigits (by decide) hm hk, hDigits, List.cons_append]

/-- Further digits make no number smaller. -/
theorem le_ofDigitChars (cs : List Char) (value : Nat) : value ≤ Nat.ofDigitChars 10 cs value := by
  rw [Nat.ofDigitChars_eq_ofDigitChars_zero]
  exact Nat.le_add_right_of_le (Nat.le_mul_of_pos_left value (Nat.pow_pos (by decide)))

/-! ### Blanks -/

/-- Blanks around a text that neither begins nor ends with one are taken off again. -/
theorem trim_append {before inner after : List Char} (hBefore : ∀ c ∈ before, isBlank c = true)
    (hInner : ∀ c ∈ inner, isBlank c = false) (hAfter : ∀ c ∈ after, isBlank c = true) :
    trim (before ++ inner ++ after) = inner := by
  -- The same at both ends: the end of a text is the start of the text turned around.
  have hStart {blanks cs : List Char} (hBlanks : ∀ c ∈ blanks, isBlank c = true)
      (hFirst : ∀ c, cs.head? = some c → isBlank c = false) : (blanks ++ cs).dropWhile isBlank = cs := by
    rw [List.dropWhile_append_of_pos hBlanks]
    cases cs with
    | nil => rfl
    | cons c rest => exact List.dropWhile_cons_of_neg (by simp [hFirst c rfl])
  cases inner with
  | nil =>
      rw [List.append_nil, trim, trimStart, List.dropWhile_append_of_pos hBefore,
        List.dropWhile_eq_nil_iff.2 hAfter]
      rfl
  | cons c rest =>
      rw [trim, trimStart, List.append_assoc, hStart hBefore, trimEnd, List.reverse_append, hStart,
        List.reverse_reverse]
      · exact fun x hx => hAfter x (List.mem_reverse.1 hx)
      · exact fun x hx => hInner x (List.mem_reverse.1 (List.mem_of_head? hx))
      · rintro x hx
        cases hx
        exact hInner c List.mem_cons_self

/-- A text is what is left without the blanks at its ends, between such blanks. -/
theorem exists_eq_trim (cs : List Char) :
    ∃ before after, cs = before ++ trim cs ++ after ∧ (∀ c ∈ before, isBlank c = true) ∧
      ∀ c ∈ after, isBlank c = true := by
  refine ⟨cs.takeWhile isBlank, ((trimStart cs).reverse.takeWhile isBlank).reverse, ?_,
    List.all_eq_true.1 List.all_takeWhile, fun c hc => ?_⟩
  · rw [List.append_assoc, trim, trimEnd, ← List.reverse_append, List.takeWhile_append_dropWhile,
      List.reverse_reverse, trimStart, List.takeWhile_append_dropWhile]
  · exact List.all_eq_true.1 List.all_takeWhile c (List.mem_reverse.1 hc)

theorem trim_of_no_blank {cs : List Char} (h : ∀ c ∈ cs, isBlank c = false) : trim cs = cs := by
  have hNone : ∀ c ∈ ([] : List Char), isBlank c = true := nofun
  simpa using trim_append hNone h hNone

/-- What is no blank is kept. -/
theorem mem_trim {cs : List Char} (hMem : c ∈ cs) (hc : isBlank c = false) : c ∈ trim cs := by
  have hKept {cs : List Char} (hMem : c ∈ cs) : c ∈ cs.dropWhile isBlank := by
    induction cs with
    | nil => cases hMem
    | cons x cs ih =>
        by_cases hx : isBlank x = true
        · rw [List.dropWhile_cons_of_pos hx]
          refine ih ((List.mem_cons.1 hMem).resolve_left fun hSame => ?_)
          exact Bool.false_ne_true (hc.symm.trans (hSame ▸ hx))
        · rwa [List.dropWhile_cons_of_neg hx]
  exact List.mem_reverse.2 (hKept (List.mem_reverse.2 (hKept hMem)))

end Lookout.Text
