import Lookout.Condition.Normal
import Mathlib.Algebra.Order.Field.Power
import Mathlib.Data.Rat.Cast.Order
import Mathlib.Tactic.FieldSimp
import Mathlib.Tactic.NormNum
/-!
The exact values of numbers, and which of them are whole.
-/
namespace Lookout

namespace Decimal.Binary
variable {b : Binary} {n : Nat} {k : Int}

/-- The magnitude of a finite number, exactly. -/
def magnitude (b : Binary) : ℚ := b.mantissa * 2 ^ b.exponent

/-- A finite number, exactly. -/
def value (b : Binary) : ℚ := if b.negative then -b.magnitude else b.magnitude

theorem magnitude_eq_iff : b.magnitude = n ↔ b.magnitude? = some n := by
  have hTwo : (2 : ℚ) ≠ 0 := two_ne_zero
  unfold magnitude magnitude?
  simp only [Nat.pow_eq]
  rcases le_or_gt 0 b.exponent with hUp | hDown
  · obtain ⟨up, hExponent⟩ := Int.eq_ofNat_of_zero_le hUp
    rw [if_pos hUp, hExponent, Int.toNat_natCast, zpow_natCast, Option.some_inj]
    exact_mod_cast Iff.rfl
  · obtain ⟨down, hExponent⟩ := Int.eq_ofNat_of_zero_le (neg_nonneg.2 hDown.le)
    have hPower : (0 : ℚ) < 2 ^ down := by positivity
    have hScaled : (b.mantissa : ℚ) * 2 ^ b.exponent = n ↔ b.mantissa = n * 2 ^ down := by
      rw [← neg_neg b.exponent, hExponent, zpow_neg, zpow_natCast, ← div_eq_mul_inv,
        div_eq_iff hPower.ne']
      exact_mod_cast Iff.rfl
    rw [if_neg hDown.not_ge, hExponent, Int.toNat_natCast, hScaled]
    split
    · rename_i hDivides
      rw [Option.some_inj, Nat.div_eq_iff_eq_mul_left (by positivity) (Nat.dvd_of_mod_eq_zero hDivides)]
    · rename_i hRest
      refine iff_of_false (fun hWhole => hRest ?_) nofun
      rw [hWhole, Nat.mul_mod_left]

theorem magnitude_nonneg (b : Binary) : 0 ≤ b.magnitude := by
  unfold magnitude
  positivity

/-- A number is whole just when a whole number is found of it, and then it is that number. -/
theorem value_eq_iff : b.value = k ↔ b.whole? = some k := by
  have hNonneg := b.magnitude_nonneg
  unfold value whole?
  simp only [Option.map_eq_some_iff, ← magnitude_eq_iff]
  cases b.negative with
  | false =>
      simp only [Bool.false_eq_true, if_false]
      constructor
      · intro hValue
        rw [hValue] at hNonneg
        obtain ⟨n, rfl⟩ := Int.eq_ofNat_of_zero_le (Int.cast_nonneg_iff.1 hNonneg)
        exact ⟨n, mod_cast hValue, rfl⟩
      · rintro ⟨n, hMagnitude, rfl⟩
        exact_mod_cast hMagnitude
  | true =>
      simp only [if_true, neg_eq_iff_eq_neg]
      constructor
      · intro hValue
        rw [hValue, ← Int.cast_neg] at hNonneg
        obtain ⟨n, hn⟩ := Int.eq_ofNat_of_zero_le (Int.cast_nonneg_iff.1 hNonneg)
        refine ⟨n, ?_, by omega⟩
        rw [hValue, ← Int.cast_neg, hn, Int.cast_natCast]
      · rintro ⟨n, hMagnitude, hk⟩
        rw [hMagnitude, ← Int.cast_neg, ← hk, Int.cast_natCast]

end Decimal.Binary

namespace Json
variable {x : Float} {k : Int}

/-- Whether a number is the given whole number. -/
def Number.IsWhole (k : Int) : Number → Prop
  | .int n => n = k
  | .float x => x.isFinite ∧ (Decimal.Binary.ofFloat x).value = k

/-- The plainest form of a number is the same number. -/
theorem isWhole_of_plainWhole? (h : plainWhole? x = some k) : (Number.float x).IsWhole k := by
  unfold plainWhole? at h
  split at h
  · rename_i hFinite
    exact ⟨hFinite, Decimal.Binary.value_eq_iff.2 (Option.filter_eq_some_iff.1 h).1⟩
  · cases h

end Json

end Lookout
