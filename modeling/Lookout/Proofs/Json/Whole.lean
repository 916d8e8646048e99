import Lookout.Json.Reader
import Lookout.Proofs.Text.Digits
import Lookout.Proofs.Text.Utf8
import Mathlib.Algebra.Ring.Nat
/-!
Whole numbers in documents: what is written of one that fits 64 bits is read back as the same number.
-/
namespace Lookout.Json

open Lookout.Text

variable {rest : List Symbol} {value count line column n : Nat}

/-! ### Digits -/

/-- Whether no number goes on at this place: there is no digit, no point and no exponent. -/
def Cursor.EndsNumber (c : Cursor) : Prop :=
  ∀ x, c.peek? = some x → x.isDigit = false ∧ x ≠ '.' ∧ x ≠ 'e' ∧ x ≠ 'E'

namespace Cursor.EndsNumber
variable {c : Cursor}

theorem atDigit (h : c.EndsNumber) : c.atDigit = false := by
  unfold Cursor.atDigit
  split
  · rename_i x hPeek
    exact (h x hPeek).1
  · rfl

theorem peek_ne_point (h : c.EndsNumber) : (c.peek? == some '.') = false :=
  beq_false_of_ne fun hPoint => (h '.' hPoint).2.1 rfl

theorem atExponent (h : c.EndsNumber) : c.atExponent = false := by
  have hLower : (c.peek? == some 'e') = false := beq_false_of_ne fun he => (h 'e' he).2.2.1 rfl
  have hUpper : (c.peek? == some 'E') = false := beq_false_of_ne fun hE => (h 'E' hE).2.2.2 rfl
  rw [Cursor.atExponent, hLower, hUpper]
  rfl

end Cursor.EndsNumber

theorem takeDigits_of_digits {cs : List Char} (hDigits : ∀ x ∈ cs, x.isDigit = true)
    (hEnds : (Cursor.start rest).EndsNumber) (hFits : Nat.ofDigitChars 10 cs value < 2 ^ 64) :
    takeDigits value count ⟨cs.map .char ++ rest, line, column⟩ (cs.map .char ++ rest) =
      (Nat.ofDigitChars 10 cs value, count + cs.length, ⟨rest, line, column + cs.length⟩) := by
  induction cs generalizing value count column with
  | nil =>
      cases rest with
      | nil => rfl
      | cons s rest =>
          cases s with
          | stray => rfl
          | char x => simp [takeDigits, (hEnds x rfl).1]
  | cons x cs ih =>
      obtain ⟨hx, hMore⟩ := List.forall_mem_cons.1 hDigits
      rw [ofDigitChars_cons] at hFits ⊢
      have hBelow : value * 10 + (x.toNat - 48) < 18446744073709551616 :=
        Nat.lt_of_le_of_lt (le_ofDigitChars cs _) hFits
      rw [List.map_cons, List.cons_append, takeDigits, if_pos hx]
      simp only
      rw [if_pos hBelow, ih hMore hFits, List.length_cons]
      simp only [Nat.add_assoc, Nat.add_comm 1]

/-! ### Reading -/

/-- The number of a sign and digits. -/
def Number.ofSigned (positive : Bool) (n : Nat) : Number :=
  if positive then .int n
  else if n == 0 || n > 9223372036854775808 then .float (-(Float.ofNat n))
  else .int (-(n : Int))

theorem Number.ofSigned_negative (hPos : 0 < n) (hFits : n ≤ 2 ^ 63) : ofSigned false n = .int (-n) := by
  have hRange : (n == 0 || decide (n > 9223372036854775808)) = false := by
    simp only [Bool.or_eq_false_iff, beq_eq_false_iff_ne, decide_eq_false_iff_not]
    omega
  rw [ofSigned, if_neg Bool.false_ne_true, hRange]
  rfl

/-- A number that ends after its first digits has these digits only. -/
theorem readNumber_of_digits {c past : Cursor} (positive : Bool) (hDigit : c.atDigit = true)
    (hTaken : (if c.peek? == some '0' then (0, 1, c.advance) else takeDigits 0 0 c c.rest) =
      (value, count, past))
    (hEnds : past.EndsNumber) : readNumber positive c = .ok (.ofSigned positive value, past) := by
  have hMore : c.atEnd = false := by
    cases hRest : c.rest with
    | nil => simp [Cursor.atDigit, Cursor.peek?, hRest] at hDigit
    | cons s more => simp [Cursor.atEnd, hRest]
  unfold readNumber Number.ofSigned
  simp only [hMore, hDigit, hTaken, hEnds.atDigit, hEnds.peek_ne_point, hEnds.atExponent, Bool.not_true,
    Bool.and_false, Bool.false_eq_true, if_false]
  split_ifs <;> rfl

/-- A whole number is read from its digits behind its sign, wherever they stand. -/
theorem readNumber_signed (positive : Bool) (hEnds : (Cursor.start rest).EndsNumber) (hFits : n < 2 ^ 64) :
    readNumber positive ⟨(Nat.toDigits 10 n).map .char ++ rest, line, column⟩ =
      .ok (.ofSigned positive n, ⟨rest, line, column + (Nat.toDigits 10 n).length⟩) := by
  have hPast : (Cursor.mk rest line (column + (Nat.toDigits 10 n).length)).EndsNumber := hEnds
  rcases Nat.eq_zero_or_pos n with rfl | hPositive
  · rw [Nat.toDigits_zero] at hPast ⊢
    exact readNumber_of_digits positive rfl rfl hPast
  · obtain ⟨x, xs, hDigits, hx⟩ := toDigits_of_pos hPositive
    have hValue : Nat.ofDigitChars 10 (x :: xs) 0 = n := hDigits ▸ Nat.ofDigitChars_ten_toDigits
    have hAll : ∀ y ∈ x :: xs, y.isDigit = true := fun y hy => isDigit_of_mem_toDigits (hDigits ▸ hy)
    have hTaken : takeDigits 0 0 ⟨(x :: xs).map .char ++ rest, line, column⟩
        ((x :: xs).map .char ++ rest) =
          (n, 0 + (x :: xs).length, ⟨rest, line, column + (x :: xs).length⟩) := by
      rw [takeDigits_of_digits hAll hEnds (by rwa [hValue]), hValue]
    rw [hDigits] at hPast ⊢
    exact readNumber_of_digits positive (hAll x List.mem_cons_self)
      ((if_neg fun hZero => hx (Option.some.inj (eq_of_beq hZero))).trans hTaken) hPast

theorem readNumber_whole (hEnds : (Cursor.start rest).EndsNumber) (hFits : n < 2 ^ 64) :
    readNumber true ⟨(Nat.toDigits 10 n).map .char ++ rest, line, column⟩ =
      .ok (.int n, ⟨rest, line, column + (Nat.toDigits 10 n).length⟩) :=
  readNumber_signed true hEnds hFits

/-- A value that begins with a digit is a number. -/
theorem readValue_of_digit {x : Char} (hx : x.isDigit = true) (fuel depth : Nat) :
    readValue (fuel + 1) depth ⟨.char x :: rest, line, column⟩ = (do
      let (number, past) ← readNumber true ⟨.char x :: rest, line, column⟩
      return (.number number, past)) := by
  have hOther {y : Char} (hy : y.isDigit = false) : x ≠ y := ne_of_isDigit hx hy
  have hSkip : (Cursor.mk (.char x :: rest) line column).skipBlanks = ⟨.char x :: rest, line, column⟩ := by
    simp [Cursor.skipBlanks, skipBlanksFrom, isBlank, hOther]
  have hPeek : (Cursor.mk (.char x :: rest) line column).peek? = some x := rfl
  have hMore : (Cursor.mk (.char x :: rest) line column).atEnd = false := rfl
  rw [readValue, hSkip]
  simp only [hPeek, hMore, Bool.false_eq_true, if_false]
  split
  case h_7 hSame =>
    cases hSame
    rw [if_neg (by simp [hOther]), if_pos hx]
  case h_8 hNone => cases hNone
  -- No other kind of value begins with a digit.
  all_goals
    rename_i hSame
    exact absurd (Option.some.inj hSame) (hOther rfl)

theorem readSymbols_whole (hFits : n < 2 ^ 64) (depth : Nat) :
    readSymbols depth ((Nat.toDigits 10 n).map .char) = .ok (.number (.int n)) := by
  obtain ⟨x, xs, hDigits, hx⟩ := exists_digit n
  have hRead : readNumber true (.start ((Nat.toDigits 10 n).map .char ++ [])) =
      .ok (.int n, ⟨[], 1, 0 + (Nat.toDigits 10 n).length⟩) := readNumber_whole nofun hFits
  rw [List.append_nil, Cursor.start, hDigits] at hRead
  rw [readSymbols, hDigits, List.map_cons, Cursor.start, readValue_of_digit hx, ← List.map_cons, hRead]
  rfl

/-- A document that is only a whole number. -/
theorem ofString_whole (hFits : n < 2 ^ 64) : ofString (toString n) = .ok (.number (.int n)) := by
  rw [ofString, Symbol.ofString, Nat.toString_eq_repr, Nat.toList_repr, readSymbols_whole hFits]

theorem ofOctets_toUTF8 (s : String) : ofOctets s.toUTF8 = ofString s := by
  rw [ofOctets, Symbol.ofOctets_toUTF8, ofString]

theorem ofOctets_whole (hFits : n < 2 ^ 64) : ofOctets (toString n).toUTF8 = .ok (.number (.int n)) :=
  (ofOctets_toUTF8 _).trans (ofString_whole hFits)

end Lookout.Json
