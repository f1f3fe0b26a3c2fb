/-
MmorpgServer.Lib.Cells — points of a line sorted into cells of one size.

`cell S x` is the number of the cell of size `S` that `x` lies in, cell
zero beginning at zero. Points at most `R` sizes apart lie at most `R`
cells apart (`abs_cell_sub_le`); points at most `R` cells apart lie less
than `R + 1` sizes apart (`abs_sub_lt`). To count every cell below zero as
cell zero is to count every point below zero as zero (`clamp_cell`).
-/
import Mathlib.Algebra.Order.Floor.Ring
import Mathlib.Algebra.Order.Group.MinMax
import Mathlib.Algebra.Order.Field.Basic
import Mathlib.Tactic.Linarith

namespace MmorpgServer.Lib

universe u

variable {K : Type u} [Field K] [LinearOrder K] [IsStrictOrderedRing K] [FloorRing K]

/-- The number of the cell of size `S` that `x` lies in. -/
def cell (S x : K) : ℤ := ⌊x / S⌋

variable {S x y : K} {R : ℤ}

theorem cell_le_add (hS : 0 < S) (h : x ≤ y + R * S) : cell S x ≤ cell S y + R := by
  have hdiv : x / S ≤ y / S + R := by
    rw [div_le_iff₀ hS, add_mul, div_mul_cancel₀ y hS.ne']
    exact h
  calc cell S x ≤ ⌊y / S + R⌋ := Int.floor_mono hdiv
    _ = cell S y + R := Int.floor_add_intCast _ R

/-- Near points lie in near cells. -/
theorem abs_cell_sub_le (hS : 0 < S) (h : |x - y| ≤ R * S) : |cell S x - cell S y| ≤ R := by
  rw [abs_le] at h ⊢
  have hxy := cell_le_add (x := x) (y := y) (R := R) hS (by linarith)
  have hyx := cell_le_add (x := y) (y := x) (R := R) hS (by linarith)
  omega

theorem lt_of_cell_le (hS : 0 < S) (h : cell S x ≤ cell S y + R) : x < y + (R + 1) * S := by
  have hfloor : (⌊x / S⌋ : K) ≤ ⌊y / S⌋ + R := by exact_mod_cast h
  have hx := Int.lt_floor_add_one (x / S)
  have hy := Int.floor_le (y / S)
  have hdiv : x / S < y / S + (R + 1) := by linarith
  rwa [div_lt_iff₀ hS, add_mul, div_mul_cancel₀ y hS.ne'] at hdiv

/-- Points in near cells are near. -/
theorem abs_sub_lt (hS : 0 < S) (h : |cell S x - cell S y| ≤ R) : |x - y| < (R + 1) * S := by
  rw [abs_le] at h
  have hxy := lt_of_cell_le (x := x) (y := y) (R := R) hS (by omega)
  have hyx := lt_of_cell_le (x := y) (y := x) (R := R) hS (by omega)
  rw [abs_lt]
  exact ⟨by linarith, by linarith⟩

/-- Cells below zero count as zero when points below zero do. -/
theorem clamp_cell (hS : 0 < S) (x : K) :
    (if cell S x < 0 then 0 else cell S x) = cell S (max x 0) := by
  by_cases hx : x < 0
  · have hneg : cell S x < 0 := by
      rw [cell, Int.floor_lt, Int.cast_zero]
      exact div_neg_of_neg_of_pos hx hS
    rw [if_pos hneg, max_eq_right hx.le, cell, zero_div, Int.floor_zero]
  · have hnn : 0 ≤ cell S x := Int.floor_nonneg.mpr (div_nonneg (not_lt.mp hx) hS.le)
    rw [if_neg (not_lt.mpr hnn), max_eq_left (not_lt.mp hx)]

end MmorpgServer.Lib
