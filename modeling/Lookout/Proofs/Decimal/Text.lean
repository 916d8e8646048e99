import Lookout.Decimal.Shortest
import Lookout.Proofs.Text.Digits
/-!
What sets the text of a binary64 number apart from that of a whole one: beside its digits it has a point
or an exponent.
-/
namespace Lookout.Decimal

/-- Whether a text has a digit, and a point or the mark of an exponent. -/
structure IsFractional (cs : List Char) : Prop where
  digit : ∃ c ∈ cs, c.isDigit = true
  mark : '.' ∈ cs ∨ 'e' ∈ cs

namespace IsFractional
variable {cs : List Char}

theorem append_left (h : IsFractional cs) (before : List Char) : IsFractional (before ++ cs) where
  digit := h.digit.imp fun _ hc => ⟨List.mem_append_right _ hc.1, hc.2⟩
  mark := h.mark.imp (List.mem_append_right _) (List.mem_append_right _)

end IsFractional

/-- Whole numbers have a point in a style that keeps it, and all others have one in any style, unless
there is an exponent. -/
theorem isFractional_write {style : Style} (hPoint : style.keepsPoint = true) (d : Decimal) :
    IsFractional (style.write d).toList := by
  obtain ⟨c, cs, hDigits, hc⟩ := Text.exists_digit d.digits
  have hText : (toString d.digits).toList = c :: cs := by
    rw [Nat.toString_eq_repr, Nat.toList_repr, hDigits]
  unfold Style.write
  generalize toString d.digits = digits at hText ⊢
  simp only [hText, hPoint, if_true]
  split
  · split
    · exact ⟨⟨c, by simp [hText], hc⟩, by simp⟩
    · split
      · rename_i hInside
        obtain ⟨before, hBefore⟩ := Nat.exists_eq_add_of_lt (Int.lt_toNat.2 hInside)
        exact ⟨⟨c, by simp [hBefore], hc⟩, by simp⟩
      · exact ⟨⟨c, by simp [hText], hc⟩, by simp⟩
  · cases cs with
    | nil => exact ⟨⟨c, by simp, hc⟩, by simp⟩
    | cons x more => exact ⟨⟨c, by simp, hc⟩, by simp⟩

theorem isFractional_ofFloat {style : Style} (hPoint : style.keepsPoint = true) (x : Float) :
    IsFractional (style.ofFloat x).toList := by
  simp only [Style.ofFloat, hPoint, if_true]
  split
  · rw [String.toList_append]
    exact IsFractional.append_left ⟨⟨'0', by decide, rfl⟩, .inl (by decide)⟩ _
  · rw [String.toList_append]
    exact (isFractional_write hPoint _).append_left _

end Lookout.Decimal
