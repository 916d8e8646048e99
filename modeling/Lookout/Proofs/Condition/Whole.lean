import Lookout.Condition.Evaluation
import Lookout.Proofs.Json.RoundTrip
/-!
Checks whose first output is a whole number above zero. Its text is exactly that number, but it counts
as true only as long as it fits 64 bits with a sign, while documents have numbers of twice that range.
-/
namespace Lookout

open Text

variable {n : Nat}

/-! ### Numbers that pass through a query -/

namespace Query

/-- A whole number is the same number after it was a value of the query language, also if it does not
fit one with a sign. -/
theorem toJson_ofNumber {n : Int} (hRange : Json.Number.inRange n = true) :
    (Value.ofNumber (.int n)).toJson = .ok (.number (.int n)) := by
  simp only [Value.ofNumber]
  split
  · rfl
  · have hRead := Json.ofString_render (.whole hRange)
    have hText : (Json.Value.number (.int n)).render = toString n := rfl
    rw [Value.toJson, Value.numberOf, ← hText, hRead]

theorem first_identity (source : String) (document : Json.Value) :
    first ⟨source, .identity⟩ document = (Value.ofJson document).toJson.map some := by
  have hOutputs : outputs ⟨source, .identity⟩ document = .last (Value.ofJson document).toJson := by
    rw [outputs, fuel, run]
    rfl
  rw [first, hOutputs, Stream.first?]
  cases (Value.ofJson document).toJson <;> rfl

end Query

namespace Condition
variable {c : Condition} {q : Query} {document : Json.Value} {body : ByteArray}

/-! ### Digits that count as true -/

theorem digitsFrom?_of_digits {cs : List Char} {value : Nat} (hDigits : ∀ x ∈ cs, x.isDigit = true)
    (hFits : value ≤ maxWhole) :
    digitsFrom? value cs =
      if Nat.ofDigitChars 10 cs value ≤ maxWhole then some (Nat.ofDigitChars 10 cs value) else none := by
  induction cs generalizing value with
  | nil => rw [digitsFrom?, Nat.ofDigitChars_nil, if_pos hFits]
  | cons x cs ih =>
      obtain ⟨hx, hMore⟩ := List.forall_mem_cons.1 hDigits
      rw [digitsFrom?, if_pos hx, ofDigitChars_cons]
      simp only
      by_cases hNext : value * 10 + (x.toNat - 48) ≤ maxWhole
      · rw [if_pos hNext, ih hMore hNext]
      · rw [if_neg hNext, if_neg fun h => hNext (Nat.le_trans (le_ofDigitChars cs _) h)]

theorem unsigned?_whole (n : Nat) :
    unsigned? (Nat.toDigits 10 n) = if n ≤ maxWhole then some n else none := by
  have hAll : ∀ x ∈ Nat.toDigits 10 n, x.isDigit = true := fun x => isDigit_of_mem_toDigits
  have hRead : digitsFrom? 0 (Nat.toDigits 10 n) = if n ≤ maxWhole then some n else none := by
    rw [digitsFrom?_of_digits hAll (Nat.zero_le _), Nat.ofDigitChars_ten_toDigits]
  rw [← hRead]
  unfold unsigned?
  split
  · rename_i hNone
    exact absurd hNone Nat.toDigits_ne_nil
  -- The text has no sign, since all of it is digits.
  · rename_i hSign
    exact absurd (hAll '+' (hSign ▸ List.mem_cons_self)) (by decide)
  · rename_i hSign
    exact absurd (hAll '+' (hSign ▸ List.mem_cons_self)) (by decide)
  · rfl

theorem isTrueWord_whole (n : Nat) : isTrueWord (Nat.toDigits 10 n) = false := by
  refine beq_false_of_ne fun hWord => ?_
  obtain ⟨x, xs, hDigits, hx⟩ := exists_digit n
  rw [hDigits, List.map_cons, toLower_of_isDigit hx] at hWord
  exact ne_of_isDigit hx rfl (List.cons.inj hWord).1

/-- A whole number counts as true when it is above zero and fits 64 bits with a sign. -/
theorem isTruthy_whole (n : Nat) :
    isTruthy (toString n).toList = decide (0 < n ∧ n < 2 ^ 63) := by
  have hTrim : trim (Nat.toDigits 10 n) = Nat.toDigits 10 n :=
    trim_of_no_blank fun x hx => isBlank_of_isDigit (isDigit_of_mem_toDigits hx)
  have hLimit : n ≤ maxWhole ↔ n < 2 ^ 63 := Nat.le_sub_one_iff_lt (by decide)
  rw [Nat.toString_eq_repr, Nat.toList_repr, isTruthy, hTrim, isTrueWord_whole, unsigned?_whole,
    Bool.false_or]
  by_cases hBelow : n < 2 ^ 63
  · rw [if_pos (hLimit.2 hBelow), Option.any_some]
    exact decide_eq_decide.2 (iff_self_and.2 fun _ => hBelow)
  · rw [if_neg (hBelow ∘ hLimit.1), Option.any_none]
    exact (decide_eq_false fun h => hBelow h.2).symm

/-! ### What a condition finds -/

/-- The text of a whole number is exactly the number. -/
theorem firstText_whole (hFirst : q.first document = .ok (some (.number (.int n)))) :
    firstText q document = .ok (toString n) := by
  rw [firstText, hFirst]
  rfl

/-- Either all variables have their texts, or one of them fails. -/
theorem applyVariables_cases (document : Json.Value) (bindings : List (String × Query)) :
    (∃ texts, applyVariables document bindings = .ok texts ∧
      Json.KeyByKey (fun q text => firstText q document = .ok text) bindings texts) ∨
    ∃ name q stop, (name, q) ∈ bindings ∧ firstText q document = .error stop ∧
      applyVariables document bindings = .error (.ofVariable name stop) := by
  induction bindings with
  | nil => exact .inl ⟨[], rfl, .nil⟩
  | cons b rest ih =>
      obtain ⟨name, q⟩ := b
      rw [applyVariables]
      cases hFirst : firstText q document with
      | error stop => exact .inr ⟨name, q, stop, List.mem_cons_self, hFirst, rfl⟩
      | ok text =>
          rcases ih with ⟨texts, hRest, hTexts⟩ | ⟨other, q', stop, hMem, hFails, hRest⟩ <;> rw [hRest]
          · exact .inl ⟨(name, text) :: texts, rfl, .cons ⟨rfl, hFirst⟩ hTexts⟩
          · exact .inr ⟨other, q', stop, List.mem_cons_of_mem _ hMem, hFails, rfl⟩

theorem exists_of_applyVariables {bindings : List (String × Query)} {e : ApplyError}
    (h : applyVariables document bindings = .error e) : ∃ name stop, e = .ofVariable name stop := by
  rcases applyVariables_cases document bindings with ⟨texts, hTexts, -⟩ | ⟨name, q, stop, -, -, hFails⟩
  · cases h.symm.trans hTexts
  · exact ⟨name, stop, Except.error.inj (h.symm.trans hFails)⟩

/-- Only a variable can fail when the check has given a whole number. -/
theorem apply_whole (hBody : Json.ofOctets body = .ok document)
    (hFirst : c.check.first document = .ok (some (.number (.int n)))) (hPositive : 0 < n) :
    c.apply body = (applyVariables document c.bindings).map fun bindings =>
      ⟨decide (n < 2 ^ 63), bindings⟩ := by
  rw [apply, hBody]
  simp only
  rw [applyTo, firstText_whole hFirst]
  simp only [isTruthy_whole, hPositive, true_and]
  cases applyVariables document c.bindings <;> rfl

/-- The check `.` on a body that is only a number above zero. -/
theorem apply_identity_whole (hPositive : 0 < n) (hFits : n < 2 ^ 64) :
    ∃ c, compile "." [] = .ok c ∧
      c.check.first (.number (.int n)) = .ok (some (.number (.int n))) ∧
      c.apply (toString n).toUTF8 = .ok ⟨decide (n < 2 ^ 63), []⟩ := by
  have hRange : Json.Number.inRange n = true := by
    simp only [Json.Number.inRange, Bool.and_eq_true, decide_eq_true_eq]
    omega
  have hFirst : Query.first ⟨".", .identity⟩ (.number (.int n)) = .ok (some (.number (.int n))) := by
    rw [Query.first_identity, Query.Value.ofJson, Query.toJson_ofNumber hRange]
    rfl
  exact ⟨⟨⟨".", .identity⟩, []⟩, rfl, hFirst, apply_whole (Json.ofOctets_whole hFits) hFirst hPositive⟩

/-- If the first output of the check is a whole number above zero, its text is exactly that number, which
is also how a document has it, and the condition matches just when the number is below `2 ^ 63`, unless
a variable fails. -/
theorem isMatch_whole_iff (hBody : Json.ofOctets body = .ok document)
    (hFirst : c.check.first document = .ok (some (.number (.int n)))) (hPositive : 0 < n)
    (hFits : n < 2 ^ 64) :
    Json.ofOctets (toString n).toUTF8 = .ok (.number (.int n)) ∧
    firstText c.check document = .ok (toString n) ∧
    ((∃ name stop, c.apply body = .error (.ofVariable name stop)) ∨
      ∃ found, c.apply body = .ok found ∧ (found.isMatch = true ↔ n < 2 ^ 63)) := by
  refine ⟨Json.ofOctets_whole hFits, firstText_whole hFirst, ?_⟩
  rw [apply_whole hBody hFirst hPositive]
  cases hVariables : applyVariables document c.bindings with
  | error e =>
      obtain ⟨name, stop, rfl⟩ := exists_of_applyVariables hVariables
      exact .inl ⟨name, stop, rfl⟩
  | ok bindings => exact .inr ⟨_, rfl, decide_eq_true_iff⟩

/-- The greatest number that matches. -/
theorem greatest_isMatch :
    ∃ c, compile "." [] = .ok c ∧
      firstText c.check (.number (.int 9223372036854775807)) = .ok "9223372036854775807" ∧
      ∃ found, c.apply "9223372036854775807".toUTF8 = .ok found ∧ found.isMatch = true := by
  have hFits : 9223372036854775807 < 2 ^ 64 := by decide
  obtain ⟨c, hCompile, hFirst, hApply⟩ := apply_identity_whole (n := 9223372036854775807) (by decide) hFits
  obtain ⟨_, hText, hMatch⟩ := isMatch_whole_iff (Json.ofOctets_whole hFits) hFirst (by decide) hFits
  refine ⟨c, hCompile, hText, hMatch.elim (fun ⟨name, stop, hFails⟩ => ?_) fun ⟨found, hFound, hIff⟩ => ?_⟩
  · cases hApply.symm.trans hFails
  · exact ⟨found, hFound, hIff.2 (by decide)⟩

/-- The next number is above zero as well, and one that documents have, but it does not match. -/
theorem next_not_isMatch :
    ∃ c, compile "." [] = .ok c ∧
      Json.ofOctets "9223372036854775808".toUTF8 = .ok (.number (.int 9223372036854775808)) ∧
      c.check.first (.number (.int 9223372036854775808)) =
        .ok (some (.number (.int 9223372036854775808))) ∧
      c.apply "9223372036854775808".toUTF8 = .ok ⟨false, []⟩ := by
  have hFits : 9223372036854775808 < 2 ^ 64 := by decide
  obtain ⟨c, hCompile, hFirst, hApply⟩ := apply_identity_whole (n := 9223372036854775808) (by decide) hFits
  have hRead := Json.ofOctets_whole hFits
  exact ⟨c, hCompile, hRead, hFirst, hApply⟩

end Condition

end Lookout
