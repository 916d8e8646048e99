import Lookout.Json.Reader
import Lookout.Json.Writer
import Lookout.Proofs.Json.Fields
/-!
Texts between quotes: what is written of a text, with its backslashes, is read back as the same text.
-/
namespace Lookout.Json

open Lookout.Text

variable {rest : List Symbol}

/-! ### Places -/

/-- Whether a text is read as a value, wherever it stands, up to what follows it. -/
def Reads {α : Type} (read : Cursor → Except ReadError (α × Cursor)) (text : List Char) (a : α)
    (rest : List Symbol) : Prop :=
  ∀ line column, ∃ line' column',
    read ⟨text.map .char ++ rest, line, column⟩ = .ok (a, ⟨rest, line', column'⟩)

namespace Reads

variable {α β : Type} {read : Cursor → Except ReadError (α × Cursor)} {text : List Char} {a : α}

/-- A character is read, and then a text. -/
theorem cons {x : Char} {first : Cursor → Except ReadError (α × Cursor)} (h : Reads read text a rest)
    (hFirst : ∀ line column, first ⟨.char x :: (text.map .char ++ rest), line, column⟩ =
      read ⟨text.map .char ++ rest, line, column + 1⟩) : Reads first (x :: text) a rest := by
  intro line column
  obtain ⟨line', column', hRead⟩ := h line (column + 1)
  exact ⟨line', column', (hFirst line column).trans hRead⟩

theorem map (h : Reads read text a rest) (f : α → β) :
    Reads (fun c => read c >>= fun r => pure (f r.1, r.2)) text (f a) rest := by
  intro line column
  obtain ⟨line', column', hRead⟩ := h line column
  refine ⟨line', column', ?_⟩
  simp only [hRead]
  rfl

/-- A text is read after another one. -/
theorem bind {behind : List Char} {b : β} (h : Reads read text a (behind.map .char ++ rest))
    (next : α → Cursor → Except ReadError (β × Cursor)) (hNext : Reads (next a) behind b rest) :
    Reads (fun c => read c >>= fun r => next r.1 r.2) (text ++ behind) b rest := by
  intro line column
  obtain ⟨line', column', hRead⟩ := h line column
  obtain ⟨line'', column'', hLast⟩ := hNext line' column'
  refine ⟨line'', column'', ?_⟩
  rw [List.map_append, List.append_assoc]
  simp only [hRead]
  exact hLast

end Reads

theorem exists_advance (s : Symbol) (rest : List Symbol) (line column : Nat) :
    ∃ line' column', (Cursor.mk (s :: rest) line column).advance = ⟨rest, line', column'⟩ := by
  unfold Cursor.advance
  split
  · rename_i hNil
    cases hNil
  · rename_i hLine
    cases hLine
    exact ⟨_, _, rfl⟩
  · rename_i hOther
    cases hOther
    exact ⟨_, _, rfl⟩

/-! ### One character -/

theorem hexValue?_hexDigit {n : Nat} (h : n < 16) : hexValue? (hexDigit n) = some n := by
  have hAll : ∀ m : Fin 16, hexValue? (hexDigit m) = some m.val := by decide
  exact hAll ⟨n, h⟩

/-- A character is written with a letter that names it, with its code, or as it is. -/
theorem escapeChar_cases (c : Char) :
    (∃ y, escapeChar c = ['\\', y] ∧ escape? y = some c) ∨
    (c.toNat < 32 ∧
      escapeChar c = ['\\', 'u', '0', '0', hexDigit (c.toNat / 16), hexDigit (c.toNat % 16)]) ∨
    (escapeChar c = [c] ∧ c ≠ '"' ∧ c ≠ '\\' ∧ 32 ≤ c.toNat) := by
  unfold escapeChar
  split_ifs with hQuote hBackslash hLine hReturn hTab hBack hForm hControl
  · exact .inl ⟨'"', rfl, (eq_of_beq hQuote).symm ▸ rfl⟩
  · exact .inl ⟨'\\', rfl, (eq_of_beq hBackslash).symm ▸ rfl⟩
  · exact .inl ⟨'n', rfl, (eq_of_beq hLine).symm ▸ rfl⟩
  · exact .inl ⟨'r', rfl, (eq_of_beq hReturn).symm ▸ rfl⟩
  · exact .inl ⟨'t', rfl, (eq_of_beq hTab).symm ▸ rfl⟩
  · exact .inl ⟨'b', rfl, (eq_of_beq hBack).symm ▸ rfl⟩
  · exact .inl ⟨'f', rfl, (eq_of_beq hForm).symm ▸ rfl⟩
  · exact .inr (.inl ⟨hControl, rfl⟩)
  · exact .inr (.inr ⟨rfl, by simpa using hQuote, by simpa using hBackslash, Nat.not_lt.1 hControl⟩)

section Character

variable {c : Char} {fuel line column : Nat} {done : List Char}

theorem readString_named {y : Char} (h : escape? y = some c) :
    readString (fuel + 1) ⟨.char '\\' :: .char y :: rest, line, column⟩ true done =
      readString fuel (Cursor.mk (.char y :: rest) line (column + 1)).advance true (c :: done) := by
  have hy : y ≠ 'u' := fun hSame => nomatch (hSame ▸ h : escape? 'u' = some c)
  simp only [readString, Char.reduceBEq, Bool.false_eq_true, if_false, BEq.rfl, if_true, h]
  rfl

theorem readCode_control (hc : c.toNat < 32) (rest : List Symbol) (line column : Nat) :
    readCode ⟨.char '0' :: .char '0' :: .char (hexDigit (c.toNat / 16)) ::
      .char (hexDigit (c.toNat % 16)) :: rest, line, column⟩ = .ok (c, ⟨rest, line, column + 4⟩) := by
  have hZero : hexValue? '0' = some 0 := rfl
  have hHigh := hexValue?_hexDigit (n := c.toNat / 16) (by omega)
  have hLow := hexValue?_hexDigit (n := c.toNat % 16) (by omega)
  have hFour : fourDigits (.char '0' :: .char '0' :: .char (hexDigit (c.toNat / 16)) ::
      .char (hexDigit (c.toNat % 16)) :: rest) = some c.toNat := by
    simp only [fourDigits, hZero, hHigh, hLow, Option.bind_eq_bind, Option.bind_some, Option.pure_def,
      Option.some.injEq]
    omega
  have hLower : ¬ 0xDC00 ≤ c.toNat := by omega
  have hBelow : c.toNat < 0xD800 := by omega
  simp only [readCode, readHex, bind, Except.bind, hFour, hLower, hBelow, decide_false, decide_true,
    Bool.false_and, Bool.true_or, Bool.false_eq_true, if_false, if_true, Char.ofNat_toNat]
  rfl

theorem readString_control (hc : c.toNat < 32) :
    readString (fuel + 1) ⟨.char '\\' :: .char 'u' :: .char '0' :: .char '0' ::
      .char (hexDigit (c.toNat / 16)) :: .char (hexDigit (c.toNat % 16)) :: rest, line, column⟩ true done =
      readString fuel ⟨rest, line, column + 6⟩ true (c :: done) := by
  have hCode := readCode_control hc rest line (column + 2)
  simp only [readString, Char.reduceBEq, Bool.false_eq_true, if_false, BEq.rfl, if_true]
  change (readCode ⟨.char '0' :: .char '0' :: .char (hexDigit (c.toNat / 16)) ::
    .char (hexDigit (c.toNat % 16)) :: rest, line, column + 2⟩ >>= fun r =>
      readString fuel r.2 true (r.1 :: done)) = _
  rw [hCode]
  rfl

theorem readString_plain (hQuote : c ≠ '"') (hBackslash : c ≠ '\\') (hc : 32 ≤ c.toNat) :
    readString (fuel + 1) ⟨.char c :: rest, line, column⟩ true done =
      readString fuel (Cursor.mk (.char c :: rest) line column).advance true (c :: done) := by
  have hControl : ¬ c.toNat < 32 := Nat.not_lt.2 hc
  simp [readString, hQuote, hBackslash, hControl]

/-- One character is read from what is written of it. -/
theorem readString_escapeChar (c : Char) (rest : List Symbol) (fuel line column : Nat) (done : List Char) :
    ∃ line' column', readString (fuel + 1) ⟨(escapeChar c).map .char ++ rest, line, column⟩ true done =
      readString fuel ⟨rest, line', column'⟩ true (c :: done) := by
  rcases escapeChar_cases c with ⟨y, hText, hy⟩ | ⟨hControl, hText⟩ | ⟨hText, hQuote, hBackslash, hc⟩
  · obtain ⟨line', column', hPast⟩ := exists_advance (.char y) rest line (column + 1)
    refine ⟨line', column', ?_⟩
    rw [hText, ← hPast]
    exact readString_named hy
  · refine ⟨line, column + 6, ?_⟩
    rw [hText]
    exact readString_control hControl
  · obtain ⟨line', column', hPast⟩ := exists_advance (.char c) rest line column
    refine ⟨line', column', ?_⟩
    rw [hText, ← hPast]
    exact readString_plain hQuote hBackslash hc

end Character

/-! ### Texts -/

/-- A text is read from what is written of it up to its closing quote. -/
theorem reads_escaped (cs : List Char) (rest : List Symbol) {fuel : Nat} (hFuel : cs.length < fuel)
    (done : List Char) :
    Reads (readString fuel · true done) (cs.flatMap escapeChar ++ ['"'])
      (String.ofList (done.reverse ++ cs)) rest := by
  induction cs generalizing fuel done with
  | nil =>
      intro line column
      obtain ⟨fuel, rfl⟩ := Nat.exists_eq_add_one_of_ne_zero (Nat.ne_zero_of_lt hFuel)
      refine ⟨line, column + 1, ?_⟩
      rw [List.append_nil]
      rfl
  | cons c cs ih =>
      intro line column
      obtain ⟨fuel, rfl⟩ := Nat.exists_eq_add_one_of_ne_zero (Nat.ne_zero_of_lt hFuel)
      obtain ⟨line', column', hFirst⟩ := readString_escapeChar c
        ((cs.flatMap escapeChar ++ ['"']).map .char ++ rest) fuel line column done
      obtain ⟨line'', column'', hRest⟩ := ih (Nat.lt_of_succ_lt_succ hFuel) (c :: done) line' column'
      refine ⟨line'', column'', ?_⟩
      rw [List.flatMap_cons, List.append_assoc, List.map_append, List.append_assoc]
      exact hFirst.trans (hRest.trans (by simp))

/-- A whole text is read behind its opening quote. -/
theorem reads_text (s : String) (rest : List Symbol) {fuel : Nat} (hFuel : s.toList.length < fuel) :
    Reads (readString fuel · true []) (s.toList.flatMap escapeChar ++ ['"']) s rest := by
  have hRead := reads_escaped s.toList rest hFuel []
  rwa [List.reverse_nil, List.nil_append, String.ofList_toList] at hRead

theorem length_le_escaped (cs : List Char) : cs.length ≤ (cs.flatMap escapeChar).length := by
  induction cs with
  | nil => exact Nat.zero_le _
  | cons c cs ih =>
      have hSome : 1 ≤ (escapeChar c).length := by
        rcases escapeChar_cases c with ⟨y, hText, -⟩ | ⟨-, hText⟩ | ⟨hText, -⟩ <;> simp [hText]
      rw [List.flatMap_cons, List.length_append, List.length_cons]
      omega

end Lookout.Json
