import Mathlib.Algebra.Order.Round
import Mathlib.Tactic.Linarith
import Mathlib.Tactic.FieldSimp

/-!
# Lib — Rounding

One number on two grids: rounded to whole units, and rounded to the `k`-th
part of a unit, halves going up. The two agree exactly for the numbers less
than half a fine step away from a whole unit; the number itself agrees with
its rounding exactly on the grid.
-/

namespace Lib

variable {α : Type*} [Field α] [LinearOrder α] [IsStrictOrderedRing α] [FloorRing α] {q : α}

/-- The numbers that round to `n`. -/
theorem round_eq_iff {n : ℤ} : round q = n ↔ (n : α) - 1 / 2 ≤ q ∧ q < n + 1 / 2 := by
  rw [round_eq, Int.floor_eq_iff]
  constructor
  · rintro ⟨hle, hlt⟩
    exact ⟨by linarith, by linarith⟩
  · rintro ⟨hle, hlt⟩
    exact ⟨by linarith, by linarith⟩

section

variable {k : ℕ}

/-- On the fine grid, near a whole unit. -/
theorem round_mul_eq_mul_iff (hk : 0 < k) {n : ℤ} :
    round (q * k) = n * k ↔ (n : α) - 1 / (2 * k) ≤ q ∧ q < n + 1 / (2 * k) := by
  have hpos : (0 : α) < k := Nat.cast_pos.mpr hk
  have hhalf : 1 / (2 * k) * (k : α) = 1 / 2 := by
    field_simp
  rw [round_eq_iff, Int.cast_mul, Int.cast_natCast, ← hhalf, ← sub_mul, ← add_mul]
  exact and_congr (mul_le_mul_iff_of_pos_right hpos) (mul_lt_mul_iff_of_pos_right hpos)

/-- **The two roundings agree** exactly near the whole units. -/
theorem round_mul_eq_round_mul_iff (hk : 0 < k) :
    round (q * k) = round q * k ↔
      ∃ n : ℤ, (n : α) - 1 / (2 * k) ≤ q ∧ q < n + 1 / (2 * k) := by
  constructor
  · intro h
    exact ⟨round q, (round_mul_eq_mul_iff hk).mp h⟩
  · rintro ⟨n, hnear⟩
    -- half a fine step is at most half a unit
    have hhalf : 1 / (2 * (k : α)) ≤ 1 / 2 := by
      have hone : (1 : α) ≤ k := Nat.one_le_cast.mpr hk
      exact one_div_le_one_div_of_le two_pos (by linarith)
    have hround : round q = n := round_eq_iff.mpr ⟨by linarith [hnear.1], by linarith [hnear.2]⟩
    rw [hround]
    exact (round_mul_eq_mul_iff hk).mpr hnear

end

/-- **A number is its own rounding** exactly on the grid. -/
theorem eq_round_iff : q = round q ↔ ∃ n : ℤ, q = n := by
  constructor
  · intro h
    exact ⟨round q, h⟩
  · rintro ⟨n, rfl⟩
    rw [round_intCast]

end Lib
