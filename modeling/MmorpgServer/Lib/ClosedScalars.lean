/-
MmorpgServer.Lib.ClosedScalars — sets of scalars that arithmetic does not
leave.

`Closed P` says that the literals are in `P` and that the operations of a
`Scalar` stay in it, as long as nothing is divided by zero or by the root
of a number close to zero.
-/
import MmorpgServer.Lib.Scalar

namespace MmorpgServer.Lib.Scalar

universe u

variable {K : Type u} [Scalar K]

/-- Arithmetic stays in `P`. -/
structure Closed (P : K → Prop) : Prop where
  lit : ∀ q, P (lit q)
  neg : ∀ x, P x → P (-x)
  add : ∀ x y, P x → P y → P (x + y)
  sub : ∀ x y, P x → P y → P (x - y)
  mul : ∀ x y, P x → P y → P (x * y)
  cos : ∀ x, P x → P (cos x)
  sin : ∀ x, P x → P (sin x)
  divLit : ∀ x q, P x → q ≠ 0 → P (x / Scalar.lit q)
  invRoot : ∀ x q, P x → 0.000001 ≤ q → Scalar.lit q < x ∨ ¬ x < Scalar.lit q →
    P (Scalar.lit 1 / sqrt x)

namespace Closed

variable {P : K → Prop} (hP : Closed P)

include hP

theorem sq_add_sq {x y : K} (hx : P x) (hy : P y) : P (x * x + y * y) :=
  hP.add _ _ (hP.mul _ _ hx hx) (hP.mul _ _ hy hy)

/-- A step from `x` along `d`. -/
theorem along {x d speed dt : K} (hx : P x) (hd : P d) (hspeed : P speed) (hdt : P dt) :
    P (x + d * speed * dt) :=
  hP.add _ _ hx (hP.mul _ _ (hP.mul _ _ hd hspeed) hdt)

end Closed

end MmorpgServer.Lib.Scalar
