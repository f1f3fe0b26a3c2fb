/-
MmorpgServer.Lib.Plane — how far apart two points of the plane are.

`Reach r dx dy` says that the displacement `(dx, dy)` is no longer than
`r`, without a square root: over any ordered field, exact roots or not.
Displacements one after the other reach as far as their lengths add up
(`Reach.add`, `Reach.sum`); who follows one direction comes no less far
(`Reach.le_of_along`).
-/
import Mathlib.Algebra.BigOperators.Group.Finset.Basic
import Mathlib.Algebra.Order.Field.Basic
import Mathlib.Tactic.Linarith
import Mathlib.Tactic.Ring

namespace MmorpgServer.Lib

universe u

variable {K : Type u} [Field K] [LinearOrder K] [IsStrictOrderedRing K]

/-- The displacement `(dx, dy)` is no longer than `r`. -/
structure Reach (r dx dy : K) : Prop where
  nonneg : 0 ≤ r
  sq_le : dx * dx + dy * dy ≤ r * r

namespace Reach

variable {r s a b c d : K}

omit [IsStrictOrderedRing K] in
theorem zero : Reach (0 : K) 0 0 := ⟨le_rfl, by simp⟩

/-- No displacement is longer than its sides together. -/
theorem abs_add (a b : K) : Reach (|a| + |b|) a b where
  nonneg := add_nonneg (abs_nonneg a) (abs_nonneg b)
  sq_le := by
    have hmul : 0 ≤ |a| * |b| := mul_nonneg (abs_nonneg a) (abs_nonneg b)
    have ha : |a| * |a| = a * a := abs_mul_abs_self a
    have hb : |b| * |b| = b * b := abs_mul_abs_self b
    calc a * a + b * b ≤ |a| * |a| + |b| * |b| + 2 * (|a| * |b|) := by linarith
      _ = (|a| + |b|) * (|a| + |b|) := by ring

theorem mono (h : Reach r a b) (hrs : r ≤ s) : Reach s a b :=
  ⟨h.nonneg.trans hrs, h.sq_le.trans (mul_self_le_mul_self h.nonneg hrs)⟩

/-- Cauchy's inequality. -/
theorem inner_le (h : Reach r a b) (h' : Reach s c d) : a * c + b * d ≤ r * s := by
  have hlagrange : (a * c + b * d) ^ 2 + (a * d - b * c) ^ 2 =
      (a * a + b * b) * (c * c + d * d) := by ring
  have hcross : 0 ≤ (a * d - b * c) ^ 2 := sq_nonneg _
  have hsq : (a * c + b * d) ^ 2 ≤ (r * s) ^ 2 :=
    calc (a * c + b * d) ^ 2 ≤ (a * a + b * b) * (c * c + d * d) := by linarith
      _ ≤ (r * r) * (s * s) :=
        mul_le_mul h.sq_le h'.sq_le (add_nonneg (mul_self_nonneg c) (mul_self_nonneg d))
          (mul_self_nonneg r)
      _ = (r * s) ^ 2 := by ring
  exact le_of_abs_le (abs_le_of_sq_le_sq hsq (mul_nonneg h.nonneg h'.nonneg))

/-- **Triangle inequality.** -/
theorem add (h : Reach r a b) (h' : Reach s c d) : Reach (r + s) (a + c) (b + d) where
  nonneg := add_nonneg h.nonneg h'.nonneg
  sq_le := by
    have hinner := inner_le h h'
    have hr := h.sq_le
    have hs := h'.sq_le
    calc (a + c) * (a + c) + (b + d) * (b + d)
        = (a * a + b * b) + 2 * (a * c + b * d) + (c * c + d * d) := by ring
      _ ≤ r * r + 2 * (r * s) + s * s := by linarith
      _ = (r + s) * (r + s) := by ring

omit [IsStrictOrderedRing K] in
/-- A unit direction followed for a length. -/
theorem along {len : K} (hunit : a * a + b * b = 1) (hlen : 0 ≤ len) :
    Reach len (a * len) (b * len) where
  nonneg := hlen
  sq_le := le_of_eq <|
    calc a * len * (a * len) + b * len * (b * len) = (a * a + b * b) * (len * len) := by ring
      _ = len * len := by rw [hunit, one_mul]

omit [IsStrictOrderedRing K] in
theorem neg (h : Reach r a b) : Reach r (-a) (-b) :=
  ⟨h.nonneg, by rw [neg_mul_neg, neg_mul_neg]; exact h.sq_le⟩

/-- Steps of bounded lengths lead as far as the bounds add up. -/
theorem sum {x y len : ℕ → K} (h : ∀ n, Reach (len n) (x (n + 1) - x n) (y (n + 1) - y n)) (n : ℕ) :
    Reach (∑ i ∈ Finset.range n, len i) (x n - x 0) (y n - y 0) := by
  induction n with
  | zero =>
    rw [Finset.sum_range_zero, sub_self, sub_self]
    exact zero
  | succ n ih =>
    rw [Finset.sum_range_succ]
    have hadd := ih.add (h n)
    rw [← sub_add_sub_cancel' (x n) (x 0) (x (n + 1)),
      ← sub_add_sub_cancel' (y n) (y 0) (y (n + 1))]
    exact hadd

end Reach

end MmorpgServer.Lib
