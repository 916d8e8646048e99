import Lookout.Proofs.Text.Utf8
import Mathlib.Data.String.Basic
import Mathlib.Data.List.Lex
/-!
Texts in order. The order of texts by their characters is the order by their octets.
-/
namespace Lookout.Text

/-- The octets of a text, as numbers. -/
def octets (s : String) : List Nat := s.toUTF8.toList.map UInt8.toNat

/-- The octets of a character, as numbers. -/
def octetsOf (c : Char) : List Nat := (String.utf8EncodeChar c).map UInt8.toNat

theorem octets_eq (s : String) : octets s = s.toList.flatMap octetsOf := by
  rw [octets, Utf8.toList_toUTF8, List.map_flatMap]
  rfl

/-- Of two characters the lower one has the lower octets, whatever follows them. -/
theorem octetsOf_append_lt {c d : Char} (h : c < d) (rest more : List Nat) :
    octetsOf c ++ rest < octetsOf d ++ more := by
  have hBelow : c.val.toNat < d.val.toNat := h
  have hLimit : d.val.toNat < 0x110000 := by
    have hScalar : d.toNat < 0xD800 ∨ 0xDFFF < d.toNat ∧ d.toNat < 0x110000 := d.valid
    have hCode : d.val.toNat = d.toNat := rfl
    omega
  unfold octetsOf String.utf8EncodeChar
  simp only
  generalize c.val.toNat = low at hBelow ⊢
  generalize d.val.toNat = high at hBelow hLimit ⊢
  have hSecond (n : Nat) : n / 4096 = n / 64 / 64 := by omega
  have hThird (n : Nat) : n / 262144 = n / 64 / 64 / 64 := by omega
  have hOctet {n : Nat} (hn : n < 256) : (UInt8.ofNat n).toNat = n := Utf8.toNat_ofNat hn
  -- One case for each pair of lengths. Leads of different lengths differ, and equal ones are followed
  -- by the lower digits of the two characters to base 64.
  split_ifs <;>
    simp (disch := omega) only [List.map_cons, List.map_nil, List.cons_append, List.nil_append,
      List.cons_lt_cons_iff, hOctet, hSecond, hThird] <;>
    omega

theorem lt_append_octetsOf (c : Char) (more : List Nat) : [] < octetsOf c ++ more := by
  unfold octetsOf String.utf8EncodeChar
  simp only
  split_ifs <;> exact List.nil_lt_cons _ _

/-- Texts are in the order of their octets. -/
theorem octets_lt {a b : String} (h : a < b) : octets a < octets b := by
  have hChars : a.toList < b.toList := String.lt_iff_toList_lt.1 h
  rw [octets_eq, octets_eq]
  generalize a.toList = as at hChars ⊢
  generalize b.toList = bs at hChars ⊢
  induction hChars with
  | nil => exact lt_append_octetsOf _ _
  | rel hFirst => exact octetsOf_append_lt hFirst _ _
  | cons _ ih => exact List.append_left_lt ih

end Lookout.Text
