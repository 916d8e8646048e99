import Lookout.Text.Utf8
import Mathlib.Tactic.SplitIfs
/-!
UTF-8 octets read back as the characters that they were written for.
-/
namespace Lookout.Text

namespace Utf8
variable {c : Char}

/-! ### One character -/

/-- The continuation octet of the low six bits. -/
abbrev tailOf (n : Nat) : UInt8 := .ofNat (n % 64 + 128)

theorem toNat_ofNat {n : Nat} (h : n < 256) : (UInt8.ofNat n).toNat = n := by
  rw [UInt8.toNat_ofNat']
  omega

theorem toNat_tailOf (n : Nat) : (tailOf n).toNat = n % 64 + 128 := toNat_ofNat (by omega)

theorem isTail_tailOf (n : Nat) : isTail (tailOf n) = true := by
  simp only [isTail, UInt8.le_iff_toNat_le, toNat_tailOf, Bool.and_eq_true, decide_eq_true_eq,
    UInt8.reduceToNat]
  omega

theorem low_tailOf (n : Nat) : low (tailOf n) = n % 64 := by
  rw [low, toNat_tailOf]
  omega

theorem fits_iff {lead second : UInt8} {l s : Nat} (hLead : lead.toNat = l) (hSecond : second.toNat = s) :
    fits lead second = true ↔ 0x80 ≤ s ∧ s ≤ 0xBF ∧ (l = 0xE0 → 0xA0 ≤ s) ∧ (l = 0xED → s ≤ 0x9F) ∧
      (l = 0xF0 → 0x90 ≤ s) ∧ (l = 0xF4 → s ≤ 0x8F) := by
  simp only [fits, secondRange, beq_iff_eq, ← UInt8.toNat_inj, hLead, UInt8.reduceToNat]
  -- One case for each lead octet with a narrower range, and one for all others.
  split_ifs <;>
  · simp only [UInt8.le_iff_toNat_le, hSecond, Bool.and_eq_true, decide_eq_true_eq, UInt8.reduceToNat]
    omega

theorem head_one (h : c.toNat ≤ 0x7F) (rest : List UInt8) :
    head (.ofNat c.toNat) rest = .char c 1 := by
  have hLead : (UInt8.ofNat c.toNat).toNat = c.toNat := toNat_ofNat (by omega)
  simp only [head, UInt8.lt_iff_toNat_lt, hLead, UInt8.reduceToNat, Char.ofNat_toNat]
  rw [if_pos (by omega)]

theorem head_two (hAbove : 0x7F < c.toNat) (h : c.toNat ≤ 0x7FF) (rest : List UInt8) :
    head (.ofNat (c.toNat / 64 % 32 + 192)) (tailOf c.toNat :: rest) = .char c 2 := by
  have hLead := toNat_ofNat (n := c.toNat / 64 % 32 + 192) (by omega)
  have hValue : (c.toNat / 64 % 32 + 192) % 32 * 64 + c.toNat % 64 = c.toNat := by omega
  simp only [head, UInt8.lt_iff_toNat_lt, hLead, UInt8.reduceToNat, isTail_tailOf, low_tailOf, hValue,
    Char.ofNat_toNat]
  rw [if_neg (by omega), if_neg (by omega), if_pos (by omega)]
  rfl

theorem head_three (hAbove : 0x7FF < c.toNat) (h : c.toNat ≤ 0xFFFF) (rest : List UInt8) :
    head (.ofNat (c.toNat / 4096 % 16 + 224)) (tailOf (c.toNat / 64) :: tailOf c.toNat :: rest) =
      .char c 3 := by
  have hLead := toNat_ofNat (n := c.toNat / 4096 % 16 + 224) (by omega)
  have hScalar : c.toNat < 0xD800 ∨ 0xDFFF < c.toNat ∧ c.toNat < 0x110000 := c.valid
  have hFits := (fits_iff hLead (toNat_tailOf (c.toNat / 64))).2 (by omega)
  have hValue : (c.toNat / 4096 % 16 + 224) % 16 * 4096 + c.toNat / 64 % 64 * 64 + c.toNat % 64 =
      c.toNat := by omega
  simp only [head, UInt8.lt_iff_toNat_lt, hLead, UInt8.reduceToNat, isTail_tailOf, low_tailOf, hValue,
    hFits, Char.ofNat_toNat]
  rw [if_neg (by omega), if_neg (by omega), if_neg (by omega), if_pos (by omega)]
  rfl

theorem head_four (hAbove : 0xFFFF < c.toNat) (rest : List UInt8) :
    head (.ofNat (c.toNat / 262144 % 8 + 240))
      (tailOf (c.toNat / 4096) :: tailOf (c.toNat / 64) :: tailOf c.toNat :: rest) = .char c 4 := by
  have hLead := toNat_ofNat (n := c.toNat / 262144 % 8 + 240) (by omega)
  have hScalar : c.toNat < 0xD800 ∨ 0xDFFF < c.toNat ∧ c.toNat < 0x110000 := c.valid
  have hFits := (fits_iff hLead (toNat_tailOf (c.toNat / 4096))).2 (by omega)
  have hValue : (c.toNat / 262144 % 8 + 240) % 8 * 262144 + c.toNat / 4096 % 64 * 4096 +
      c.toNat / 64 % 64 * 64 + c.toNat % 64 = c.toNat := by omega
  simp only [head, UInt8.lt_iff_toNat_lt, hLead, UInt8.reduceToNat, isTail_tailOf, low_tailOf, hValue,
    hFits, Char.ofNat_toNat]
  rw [if_neg (by omega), if_neg (by omega), if_neg (by omega), if_neg (by omega), if_pos (by omega)]
  rfl

/-- A character is read from its own octets, whatever follows them. -/
theorem head_encodeChar (c : Char) (rest : List UInt8) :
    ∃ lead tail, String.utf8EncodeChar c = lead :: tail ∧
      head lead (tail ++ rest) = .char c (tail.length + 1) := by
  have hCode : c.val.toNat = c.toNat := rfl
  unfold String.utf8EncodeChar
  simp only [hCode]
  split_ifs with h1 h2 h3
  · exact ⟨_, [], rfl, head_one h1 rest⟩
  · exact ⟨_, [_], rfl, head_two (by omega) h2 rest⟩
  · exact ⟨_, [_, _], rfl, head_three (by omega) h3 rest⟩
  · exact ⟨_, [_, _, _], rfl, head_four (by omega) rest⟩

/-! ### Texts -/

theorem symbolsFrom_append (taken rest : List UInt8) :
    symbolsFrom taken.length (taken ++ rest) = symbolsFrom 0 rest := by
  induction taken with
  | nil => rfl
  | cons b taken ih => exact ih

theorem symbolsFrom_encode (cs : List Char) :
    symbolsFrom 0 (cs.flatMap String.utf8EncodeChar) = cs.map .char := by
  induction cs with
  | nil => rfl
  | cons c cs ih =>
      obtain ⟨lead, tail, hEncode, hHead⟩ := head_encodeChar c (cs.flatMap String.utf8EncodeChar)
      rw [List.flatMap_cons, hEncode, List.cons_append, symbolsFrom, hHead]
      simp only [Nat.add_sub_cancel, symbolsFrom_append, ih, List.map_cons]

theorem lossyFrom_append (taken rest : List UInt8) :
    lossyFrom taken.length (taken ++ rest) = lossyFrom 0 rest := by
  induction taken with
  | nil => rfl
  | cons b taken ih => exact ih

theorem lossyFrom_encode (cs : List Char) :
    lossyFrom 0 (cs.flatMap String.utf8EncodeChar) = cs := by
  induction cs with
  | nil => rfl
  | cons c cs ih =>
      obtain ⟨lead, tail, hEncode, hHead⟩ := head_encodeChar c (cs.flatMap String.utf8EncodeChar)
      rw [List.flatMap_cons, hEncode, List.cons_append, lossyFrom, hHead]
      simp only [Nat.add_sub_cancel, lossyFrom_append, ih]

theorem toList_loop (bytes : ByteArray) (i : Nat) (done : List UInt8) :
    ByteArray.toList.loop bytes i done = done.reverse ++ bytes.data.toList.drop i := by
  fun_induction ByteArray.toList.loop bytes i done with
  | case1 i done hi ih =>
      have hi' : i < bytes.data.toList.length := by simpa using hi
      rw [ih, List.drop_eq_getElem_cons hi']
      simp [ByteArray.get!, hi]
  | case2 i done hi =>
      rw [List.drop_eq_nil_of_le (by simpa using Nat.le_of_not_lt hi)]
      simp

theorem toList_toByteArray (l : List UInt8) : l.toByteArray.toList = l := by
  rw [ByteArray.toList, toList_loop, List.toList_data_toByteArray]
  rfl

theorem toList_toUTF8 (s : String) : s.toUTF8.toList = s.toList.flatMap String.utf8EncodeChar := by
  have hBytes : s.toUTF8 = s.toList.utf8Encode := by
    rw [String.toUTF8, ← String.toByteArray_ofList, String.ofList_toList]
  rw [hBytes, List.utf8Encode, toList_toByteArray]

end Utf8

/-- The octets of a text are read as its characters. -/
theorem Symbol.ofOctets_toUTF8 (s : String) : Symbol.ofOctets s.toUTF8 = Symbol.ofString s := by
  rw [ofOctets, Utf8.toList_toUTF8, Utf8.symbolsFrom_encode]
  rfl

/-- Nothing of a text is replaced when it is read leniently. -/
theorem decodeLossy_toUTF8 (s : String) : decodeLossy s.toUTF8 = s := by
  rw [decodeLossy, Utf8.toList_toUTF8, Utf8.lossyFrom_encode, String.ofList_toList]

end Lookout.Text
