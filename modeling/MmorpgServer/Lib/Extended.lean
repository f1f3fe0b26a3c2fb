/-
MmorpgServer.Lib.Extended — exact numbers with infinities and NaN.

An `Extended` number is finite, an infinity of either sign, or not a
number, and computes as IEEE 754 says: a NaN stays one, the difference of
infinities, zero times infinity and the root of a negative number are NaN,
and every ordered comparison with NaN is false. Finite numbers are exact
and never overflow, and there is one zero.

Arithmetic that divides by nothing too small does not leave the finite
numbers (`finite_closed`).
-/
import MmorpgServer.Lib.ClosedScalars
import MmorpgServer.Lib.ExactScalar

namespace MmorpgServer.Lib

universe u

/-- A finite number, an infinity, or not a number. -/
inductive Extended (F : Type u) where
  | fin (x : F)
  | inf (negative : Bool)
  | nan
  deriving DecidableEq, Repr

namespace Extended

variable {F : Type u}

/-- `std::isfinite`. -/
def isFinite : Extended F → Bool
  | fin _ => true
  | inf _ | nan => false

abbrev Finite (x : Extended F) : Prop := x.isFinite = true

theorem eq_fin_of_isFinite {x : Extended F} (h : x.isFinite = true) : ∃ a, x = fin a := by
  cases x with
  | fin a => exact ⟨a, rfl⟩
  | inf s => cases h
  | nan => cases h

variable [ExactScalar F]

protected def neg : Extended F → Extended F
  | fin x => fin (-x)
  | inf s => inf !s
  | nan => nan

protected def add : Extended F → Extended F → Extended F
  | fin x, fin y => fin (x + y)
  | inf s, inf t => if s = t then inf s else nan
  | inf s, fin _ => inf s
  | fin _, inf t => inf t
  | _, _ => nan

protected def mul : Extended F → Extended F → Extended F
  | fin x, fin y => fin (x * y)
  | inf s, inf t => inf (s ^^ t)
  | inf s, fin y => if y = 0 then nan else inf (s ^^ decide (y < 0))
  | fin x, inf t => if x = 0 then nan else inf (t ^^ decide (x < 0))
  | _, _ => nan

protected def div : Extended F → Extended F → Extended F
  | fin x, fin y =>
    if y = 0 then (if x = 0 then nan else inf (decide (x < 0))) else fin (x / y)
  | fin _, inf _ => fin 0
  | inf s, fin y => inf (s ^^ decide (y < 0))
  | _, _ => nan

protected def lt : Extended F → Extended F → Bool
  | fin x, fin y => x < y
  | fin _, inf t => !t
  | inf s, fin _ => s
  | inf s, inf t => s && !t
  | _, _ => false

protected def le : Extended F → Extended F → Bool
  | fin x, fin y => x ≤ y
  | fin _, inf t => !t
  | inf s, fin _ => s
  | inf s, inf t => s || !t
  | _, _ => false

protected def sqrt : Extended F → Extended F
  | fin x => if x < 0 then nan else fin (ExactScalar.root x)
  | inf false => inf false
  | _ => nan

/-- A function of `<cmath>` that has no limit at infinity. -/
protected def lift (f : F → F) : Extended F → Extended F
  | fin x => fin (f x)
  | inf _ | nan => nan

/-- IEEE arithmetic. `DecidableEq` is equality of values, also of NaN. -/
instance scalar : Scalar (Extended F) where
  neg := Extended.neg
  add := Extended.add
  sub x y := Extended.add x (Extended.neg y)
  mul := Extended.mul
  div := Extended.div
  lt x y := Extended.lt x y = true
  le x y := Extended.le x y = true
  toDecidableEq := inferInstance
  toDecidableLT x y := inferInstanceAs (Decidable (Extended.lt x y = true))
  toDecidableLE x y := inferInstanceAs (Decidable (Extended.le x y = true))
  lit q := fin (q : F)
  sqrt := Extended.sqrt
  cos := Extended.lift ExactScalar.cosine
  sin := Extended.lift ExactScalar.sine

theorem lit_lt_fin (q : ℚ) (a : F) : (Scalar.lit q : Extended F) < fin a ↔ (q : F) < a :=
  decide_eq_true_iff

theorem fin_lt_lit (a : F) (q : ℚ) : (fin a : Extended F) < Scalar.lit q ↔ a < (q : F) :=
  decide_eq_true_iff

/-- **Arithmetic stays finite**, as long as nothing is divided by zero or
by a root close to it. -/
theorem finite_closed [PositiveRoots F] :
    Scalar.Closed (Finite : Extended F → Prop) where
  lit _ := rfl
  neg x hx := by
    obtain ⟨a, rfl⟩ := eq_fin_of_isFinite hx
    rfl
  add x y hx hy := by
    obtain ⟨a, rfl⟩ := eq_fin_of_isFinite hx
    obtain ⟨b, rfl⟩ := eq_fin_of_isFinite hy
    rfl
  sub x y hx hy := by
    obtain ⟨a, rfl⟩ := eq_fin_of_isFinite hx
    obtain ⟨b, rfl⟩ := eq_fin_of_isFinite hy
    rfl
  mul x y hx hy := by
    obtain ⟨a, rfl⟩ := eq_fin_of_isFinite hx
    obtain ⟨b, rfl⟩ := eq_fin_of_isFinite hy
    rfl
  cos x hx := by
    obtain ⟨a, rfl⟩ := eq_fin_of_isFinite hx
    rfl
  sin x hx := by
    obtain ⟨a, rfl⟩ := eq_fin_of_isFinite hx
    rfl
  divLit x q hx hq := by
    obtain ⟨a, rfl⟩ := eq_fin_of_isFinite hx
    have hne : (q : F) ≠ 0 := Rat.cast_ne_zero.mpr hq
    show (if (q : F) = 0 then _ else fin (a / q)).isFinite = true
    rw [if_neg hne]
    rfl
  invRoot x q hx hq hle := by
    obtain ⟨a, rfl⟩ := eq_fin_of_isFinite hx
    have hqa : (q : F) ≤ a := by
      rw [lit_lt_fin, fin_lt_lit] at hle
      exact hle.elim le_of_lt not_lt.mp
    have hsmall : (0.000001 : F) ≤ a := by
      refine le_trans ?_ hqa
      have hcast : ((0.000001 : ℚ) : F) ≤ (q : F) := Rat.cast_le.mpr hq
      norm_num at hcast ⊢
      exact hcast
    have hroot := PositiveRoots.root_pos a hsmall
    have hpos : ¬ a < 0 := not_lt.mpr (le_trans (by norm_num) hsmall)
    show (Extended.div (fin ((1 : ℚ) : F)) (if a < 0 then nan else fin (ExactScalar.root a))).isFinite
      = true
    rw [if_neg hpos]
    show (if ExactScalar.root a = 0 then _ else fin _).isFinite = true
    rw [if_neg hroot.ne']
    rfl

/-- The squared length of a direction that is not finite is not finite
either, so it is never below a bound. Divided by its length, the direction
has a component that is NaN. -/
theorem not_finite_unit {x y : Extended F} (h : ¬ (x.Finite ∧ y.Finite)) (q : ℚ) :
    ¬ x * x + y * y < Scalar.lit q ∧
      (x * (Scalar.lit 1 / Scalar.sqrt (x * x + y * y)) = nan ∨
        y * (Scalar.lit 1 / Scalar.sqrt (x * x + y * y)) = nan) := by
  -- zero times infinity, once the length is infinite
  have hzero : ∀ s : Bool, (inf s : Extended F) * fin 0 = nan := fun s => if_pos rfl
  have hsq : ∀ s, (inf s : Extended F) * inf s = inf false := by
    intro s
    cases s <;> rfl
  have hlt : ∀ z : Extended F, z = nan ∨ z = inf false → ¬ z < Scalar.lit q := by
    rintro z (rfl | rfl) hz
    · cases hz
    · cases hz
  cases x with
  | nan => exact ⟨hlt _ (.inl rfl), .inl rfl⟩
  | inf s =>
    rw [hsq]
    cases y with
    | nan => exact ⟨hlt _ (.inl rfl), .inr rfl⟩
    | inf t =>
      rw [hsq]
      exact ⟨hlt _ (.inr rfl), .inl (hzero s)⟩
    | fin b => exact ⟨hlt _ (.inr rfl), .inl (hzero s)⟩
  | fin a =>
    cases y with
    | nan => exact ⟨hlt _ (.inl rfl), .inr rfl⟩
    | inf t =>
      rw [hsq]
      exact ⟨hlt _ (.inr rfl), .inr (hzero t)⟩
    | fin b => exact absurd ⟨rfl, rfl⟩ h

end Extended

end MmorpgServer.Lib
