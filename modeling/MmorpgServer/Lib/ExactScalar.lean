/-
MmorpgServer.Lib.ExactScalar — exact arithmetic as a `Scalar`.

`ExactScalar` is an ordered field with some functions in the place of
those of `<cmath>`, and a `Scalar` by its operations. `ExactRoots` says
that the square roots are exact as well, `ExactTrig` that sine and cosine
are those of one angle, `PositiveRoots` that roots are not rounded to zero
too early. The real numbers have all three, the rational numbers, which
compute, the last.
-/
import Mathlib.Analysis.SpecialFunctions.Trigonometric.Basic
import MmorpgServer.Lib.Scalar

namespace MmorpgServer.Lib

universe u

/-- An ordered field, and functions called as those of `<cmath>` are. -/
class ExactScalar (K : Type u) extends Field K, LinearOrder K, IsStrictOrderedRing K where
  root : K → K
  cosine : K → K
  sine : K → K

/-- Exact arithmetic. -/
instance (priority := low) ExactScalar.toScalar {K : Type u} [ExactScalar K] : Scalar K where
  toDecidableEq := inferInstance
  toDecidableLT := inferInstance
  toDecidableLE := inferInstance
  lit q := (q : K)
  sqrt := root
  cos := cosine
  sin := sine

/-- Square roots of what is not negative are exact. -/
class ExactRoots (K : Type u) [ExactScalar K] : Prop where
  root_nonneg : ∀ x : K, 0 ≤ ExactScalar.root x
  root_mul_self : ∀ x : K, 0 ≤ x → ExactScalar.root x * ExactScalar.root x = x

/-- Cosine and sine are the coordinates of a point of the unit circle. -/
class ExactTrig (K : Type u) [ExactScalar K] : Prop where
  cosine_sq_add_sine_sq : ∀ x : K,
    ExactScalar.cosine x * ExactScalar.cosine x + ExactScalar.sine x * ExactScalar.sine x = 1

/-- Square roots from `10^-6` on are positive. -/
class PositiveRoots (K : Type u) [ExactScalar K] : Prop where
  root_pos : ∀ x : K, 0.000001 ≤ x → 0 < ExactScalar.root x

instance ExactScalar.rational : ExactScalar ℚ where
  root := Scalar.sqrt
  cosine := Scalar.cos
  sine := Scalar.sin

noncomputable instance ExactScalar.real : ExactScalar ℝ where
  root := Real.sqrt
  cosine := Real.cos
  sine := Real.sin

instance ExactRoots.real : ExactRoots ℝ where
  root_nonneg := Real.sqrt_nonneg
  root_mul_self _ := Real.mul_self_sqrt

instance ExactTrig.real : ExactTrig ℝ where
  cosine_sq_add_sine_sq x := by
    rw [← sq, ← sq]
    exact Real.cos_sq_add_sin_sq x

instance PositiveRoots.real : PositiveRoots ℝ where
  root_pos x hx := Real.sqrt_pos.mpr (lt_of_lt_of_le (by norm_num) hx)

instance PositiveRoots.rational : PositiveRoots ℚ where
  root_pos x hx := by
    have hden : (0 : ℚ) < x.den := by exact_mod_cast x.den_pos
    have hnum : (x.den : ℚ) ≤ x.num * 10 ^ 12 := by
      have hdiv : (x.num : ℚ) = x * x.den := (Rat.mul_den_eq_num x).symm
      rw [hdiv]
      nlinarith
    have hnum' : (x.den : ℤ) ≤ x.num * 10 ^ 12 := by exact_mod_cast hnum
    have hone : 1 ≤ x.num * 10 ^ 12 / x.den := by
      rw [Int.le_ediv_iff_mul_le (by exact_mod_cast x.den_pos), one_mul]
      exact hnum'
    have hsqrt : 0 < Nat.sqrt (x.num * 10 ^ 12 / x.den).toNat := Nat.sqrt_pos.mpr (by omega)
    show (0 : ℚ) < (Nat.sqrt (x.num * 10 ^ 12 / x.den).toNat : ℚ) / 10 ^ 6
    positivity

namespace ExactScalar

variable {K : Type u} [ExactScalar K]

@[simp] theorem lit_eq (q : ℚ) : (Scalar.lit q : K) = (q : K) := rfl

@[simp] theorem sqrt_eq (x : K) : Scalar.sqrt x = root x := rfl

theorem lit_zero : (Scalar.lit 0 : K) = 0 := Rat.cast_zero

/-- What is divided by its length is a unit vector. -/
theorem unit_of_root [ExactRoots K] {x y : K} (h : 0 < x * x + y * y) :
    x * (1 / root (x * x + y * y)) * (x * (1 / root (x * x + y * y))) +
      y * (1 / root (x * x + y * y)) * (y * (1 / root (x * x + y * y))) = 1 := by
  have hroot := ExactRoots.root_mul_self (x * x + y * y) h.le
  have hne : root (x * x + y * y) ≠ 0 := by
    intro h0
    rw [h0, mul_zero] at hroot
    exact h.ne hroot
  generalize root (x * x + y * y) = r at hroot hne ⊢
  calc x * (1 / r) * (x * (1 / r)) + y * (1 / r) * (y * (1 / r))
      = (x * x + y * y) * (1 / r * (1 / r)) := by ring
    _ = r * r * (1 / r * (1 / r)) := by rw [hroot]
    _ = 1 := by field_simp

/-- A root is bounded as its square is. -/
theorem root_le [ExactRoots K] {x r : K} (hx : 0 ≤ x) (hr : 0 ≤ r) (h : x ≤ r * r) :
    root x ≤ r := by
  rw [← ExactRoots.root_mul_self x hx] at h
  exact (mul_self_le_mul_self_iff (ExactRoots.root_nonneg x) hr).mpr h

end ExactScalar

end MmorpgServer.Lib
