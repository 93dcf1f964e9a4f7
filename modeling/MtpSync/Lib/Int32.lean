import Mathlib.Algebra.Group.Int.Defs
import Mathlib.Algebra.Group.Nat.Defs

/-!
# Integers an `int` holds

A value of more bits that is read as an `int` keeps its low 32 bits: it comes through unchanged
if it is in the range of an `int`, and only then.
-/

namespace MtpSync

/-- In the range of an `int`. -/
def FitsInt (n : ℤ) : Prop := -2 ^ 31 ≤ n ∧ n < 2 ^ 31

instance (n : ℤ) : Decidable (FitsInt n) := inferInstanceAs (Decidable (_ ∧ _))

/-- What the low 32 bits stand for is in the range. -/
theorem fitsInt_bmod (n : ℤ) : FitsInt (n.bmod (2 ^ 32)) := by
  have hle : -((2 ^ 32 : ℕ) : ℤ) / 2 ≤ n.bmod (2 ^ 32) := Int.le_bmod (by decide)
  have hlt : n.bmod (2 ^ 32) < (((2 ^ 32 : ℕ) : ℤ) + 1) / 2 := Int.bmod_lt (by decide)
  rw [FitsInt]
  omega

theorem bmod_eq_iff_fitsInt (n : ℤ) : n.bmod (2 ^ 32) = n ↔ FitsInt n := by
  constructor
  · intro h
    rw [← h]
    exact fitsInt_bmod n
  · rintro ⟨hle, hlt⟩
    exact Int.bmod_eq_of_le_mul_two (by omega) (by omega)

/-- An integer of 64 bits, read with 32. -/
theorem toInt_toInt32_eq_iff (value : Int64) :
    value.toInt32.toInt = value.toInt ↔ FitsInt value.toInt := by
  rw [Int64.toInt_toInt32, bmod_eq_iff_fitsInt]

end MtpSync
