import Lookout.Proofs.Condition.Whole
import Lookout.Proofs.Decimal.Text
import Lookout.Proofs.Decimal.Whole
/-!
What makes a condition match. It is decided on the text of the first output of the check, but the text of
no other value than `true` and the whole numbers above zero counts as true: each of them has a character
that neither the word nor a number has, or mixes those of both.
-/
namespace Lookout.Condition

open Text

variable {cs : List Char}

/-! ### Characters of texts that count as true -/

theorem isDigit_of_digitsFrom? {value n : Nat} (h : digitsFrom? value cs = some n) :
    ∀ c ∈ cs, c.isDigit = true := by
  induction cs generalizing value with
  | nil => nofun
  | cons x cs ih =>
      rw [digitsFrom?] at h
      split at h
      · rename_i hx
        simp only at h
        split at h
        · exact List.forall_mem_cons.2 ⟨hx, ih h⟩
        · cases h
      · cases h

theorem mem_of_unsigned? {n : Nat} (h : unsigned? cs = some n) :
    ∀ c ∈ cs, c = '+' ∨ c.isDigit = true := by
  unfold unsigned? at h
  split at h
  · cases h
  · cases h
  · exact List.forall_mem_cons.2 ⟨.inl rfl, fun c hc => .inr (isDigit_of_digitsFrom? h c hc)⟩
  · exact fun c hc => .inr (isDigit_of_digitsFrom? h c hc)

/-- Beside blanks, a text that counts as true has the letters of the word only, or those of a number
only. -/
theorem mem_of_isTruthy (h : isTruthy cs = true) :
    (∀ c ∈ cs, isBlank c = false → c.toLower ∈ ['t', 'r', 'u', 'e']) ∨
      ∀ c ∈ cs, isBlank c = false → c = '+' ∨ c.isDigit = true := by
  rcases Bool.or_eq_true_iff.1 h with hWord | hNumber
  · left
    intro c hc hBlank
    rw [← eq_of_beq hWord]
    exact List.mem_map_of_mem (mem_trim hc hBlank)
  · right
    obtain ⟨n, hRead, -⟩ := (Option.any_eq_true _ _).1 hNumber
    exact fun c hc hBlank => mem_of_unsigned? hRead c (mem_trim hc hBlank)

/-- Whether a character stands in no text that counts as true. -/
def isForeign (c : Char) : Bool :=
  !isBlank c && c.toLower ∉ ['t', 'r', 'u', 'e'] && c != '+' && !c.isDigit

theorem isTruthy_of_foreign {c : Char} (hMem : c ∈ cs) (hForeign : isForeign c = true) :
    isTruthy cs = false := by
  simp only [isForeign, Bool.and_eq_true, Bool.not_eq_true', decide_eq_true_eq, bne_iff_ne] at hForeign
  obtain ⟨⟨⟨hBlank, hLetter⟩, hPlus⟩, hDigit⟩ := hForeign
  refine eq_false_of_ne_true fun hTrue => ?_
  rcases mem_of_isTruthy hTrue with hWord | hNumber
  · exact hLetter (hWord c hMem hBlank)
  · rcases hNumber c hMem hBlank with rfl | hSome
    · exact hPlus rfl
    · exact Bool.false_ne_true (hDigit.symm.trans hSome)

theorem not_letter_of_isDigit {c : Char} (h : c.isDigit = true) : c.toLower ∉ ['t', 'r', 'u', 'e'] := by
  rw [toLower_of_isDigit h]
  intro hLetter
  have hNone : ['t', 'r', 'u', 'e'].all (fun x => !x.isDigit) = true := rfl
  simpa [h] using List.all_eq_true.1 hNone c hLetter

/-- A text with a digit and the mark of an exponent mixes the characters of numbers with those of the
word. -/
theorem isTruthy_of_exponent {digit mark : Char} (hDigit : digit ∈ cs) (hIsDigit : digit.isDigit = true)
    (hMark : mark ∈ cs) (hIsMark : mark = 'e' ∨ mark = 'E') : isTruthy cs = false := by
  refine eq_false_of_ne_true fun hTrue => ?_
  rcases mem_of_isTruthy hTrue with hWord | hNumber
  · exact not_letter_of_isDigit hIsDigit (hWord digit hDigit (isBlank_of_isDigit hIsDigit))
  · rcases hIsMark with rfl | rfl
    · exact absurd (hNumber 'e' hMark rfl) (by decide)
    · exact absurd (hNumber 'E' hMark rfl) (by decide)

/-- A number with a point or an exponent never counts as true, whatever its value. -/
theorem isTruthy_of_fractional (h : Decimal.IsFractional cs) : isTruthy cs = false := by
  rcases h.mark with hPoint | hExponent
  · exact isTruthy_of_foreign hPoint rfl
  · obtain ⟨c, hMem, hc⟩ := h.digit
    exact isTruthy_of_exponent hMem hc hExponent (.inl rfl)

/-! ### Values -/

theorem pos_of_isTruthy_int {n : Int} (h : isTruthy (toString n).toList = true) : 0 < n := by
  cases n with
  | ofNat n =>
      have hText : toString (Int.ofNat n) = toString n := rfl
      rw [hText, isTruthy_whole, decide_eq_true_eq] at h
      exact Int.natCast_pos.2 h.1
  | negSucc n =>
      have hText : toString (Int.negSucc n) = "-" ++ toString (n + 1) := rfl
      have hSign : '-' ∈ (toString (Int.negSucc n)).toList := by
        rw [hText, String.toList_append]
        exact List.mem_append_left _ (by decide)
      rw [isTruthy_of_foreign hSign rfl] at h
      cases h

/-- A number whose text counts as true is whole and above zero. -/
theorem isWhole_of_isTruthy {n : Json.Number} (h : isTruthy n.normalized.render.toList = true) :
    ∃ k, n.IsWhole k ∧ 0 < k := by
  cases n with
  | int n => exact ⟨n, rfl, pos_of_isTruthy_int h⟩
  | float x =>
      rw [Json.Number.normalized] at h
      cases hPlain : Json.plainWhole? x with
      | some k =>
          rw [hPlain] at h
          exact ⟨k, Json.isWhole_of_plainWhole? hPlain, pos_of_isTruthy_int h⟩
      | none =>
          rw [hPlain] at h
          exact absurd h (ne_true_of_eq_false (isTruthy_of_fractional (Decimal.isFractional_ofFloat rfl x)))

/-- The values whose text counts as true. -/
theorem eq_of_isTruthy {v : Json.Value} (h : isTruthy v.normalized.render.toList = true) :
    v = .bool true ∨ ∃ n k, v = .number n ∧ n.IsWhole k ∧ 0 < k := by
  have hForeign {c : Char} (hMem : c ∈ v.normalized.render.toList) : isForeign c ≠ true :=
    fun hc => Bool.false_ne_true ((isTruthy_of_foreign hMem hc).symm.trans h)
  cases v with
  | null => exact absurd rfl (hForeign (c := 'n') (by decide))
  | bool b =>
      cases b with
      | false => exact absurd rfl (hForeign (c := 'f') (by decide))
      | true => exact .inl rfl
  | number n =>
      obtain ⟨k, hWhole, hPositive⟩ := isWhole_of_isTruthy h
      exact .inr ⟨n, k, rfl, hWhole, hPositive⟩
  | string s =>
      exact absurd rfl (hForeign (c := '"')
        (by simp [Json.Value.normalized, Json.Value.render, Json.quote, Json.quoteChars]))
  | array items =>
      exact absurd rfl (hForeign (c := '[') (by simp [Json.Value.normalized, Json.Value.render]))
  | object fields =>
      exact absurd rfl (hForeign (c := '\x7b') (by simp [Json.Value.normalized, Json.Value.render]))

/-! ### What a match tells -/

variable {c : Condition} {q : Query} {document : Json.Value} {body : ByteArray} {found : Outcome}

theorem firstText_cases {text : String} (h : firstText q document = .ok text) :
    (q.first document = .ok none ∧ text = "") ∨
      ∃ v, q.first document = .ok (some v) ∧ text = v.normalized.render := by
  unfold firstText at h
  split at h
  · cases h
  · rename_i hFirst
    cases h
    exact .inl ⟨hFirst, rfl⟩
  · rename_i v hFirst
    cases h
    exact .inr ⟨v, hFirst, rfl⟩

/-- A condition that is decided has read the body, and the text of its check has decided it. -/
theorem exists_of_apply (h : c.apply body = .ok found) :
    ∃ document text, Json.ofOctets body = .ok document ∧ firstText c.check document = .ok text ∧
      found.isMatch = isTruthy text.toList := by
  unfold apply at h
  split at h
  · cases h
  · rename_i document hBody
    unfold applyTo at h
    split at h
    · cases h
    · rename_i text hText
      split at h
      · cases h
      · cases h
        exact ⟨document, text, hBody, hText, rfl⟩

/-- If a condition matches a body, the first output of its check on the document there is `true` or a
number that is whole and above zero. -/
theorem first_of_isMatch (hApply : c.apply body = .ok found) (hMatch : found.isMatch = true) :
    ∃ document v, Json.ofOctets body = .ok document ∧ c.check.first document = .ok (some v) ∧
      (v = .bool true ∨ ∃ n k, v = .number n ∧ n.IsWhole k ∧ 0 < k) := by
  obtain ⟨document, text, hBody, hText, hTruth⟩ := exists_of_apply hApply
  rw [hTruth] at hMatch
  rcases firstText_cases hText with ⟨-, rfl⟩ | ⟨v, hFirst, rfl⟩
  · cases hMatch
  · exact ⟨document, v, hBody, hFirst, eq_of_isTruthy hMatch⟩

/-- The check `.` matches the body `5`. -/
theorem five_isMatch :
    ∃ c, compile "." [] = .ok c ∧ c.apply "5".toUTF8 = .ok ⟨true, []⟩ ∧
      ∃ document v, Json.ofOctets "5".toUTF8 = .ok document ∧ c.check.first document = .ok (some v) ∧
        (v = .bool true ∨ ∃ n k, v = .number n ∧ n.IsWhole k ∧ 0 < k) := by
  obtain ⟨c, hCompile, -, hApply⟩ := apply_identity_whole (n := 5) (by decide) (by decide)
  exact ⟨c, hCompile, hApply, first_of_isMatch hApply rfl⟩

end Lookout.Condition
