/-
MmorpgServer.Lib.Scalar — the arithmetic of a program's `float`s.

`Scalar` is the operations a program uses, with no law: what is proved
over an arbitrary `Scalar` holds of IEEE floats, of exact numbers and of
anything else that has the operations. `Scalar.rational` computes with
exact rationals.
-/
import Mathlib.Data.Rat.Floor

namespace MmorpgServer.Lib

universe u

/-- Arithmetic, ordered comparisons, decimal literals and the functions of
`<cmath>`. -/
class Scalar (K : Type u) extends Add K, Sub K, Mul K, Div K, Neg K, LT K, LE K where
  [toDecidableEq : DecidableEq K]
  [toDecidableLT : DecidableLT K]
  [toDecidableLE : DecidableLE K]
  lit : ℚ → K
  sqrt : K → K
  cos : K → K
  sin : K → K

attribute [instance] Scalar.toDecidableEq Scalar.toDecidableLT Scalar.toDecidableLE

namespace Scalar

variable {K : Type u} [Scalar K]

/-- `std::max`. -/
def max (a b : K) : K := if a < b then b else a

/-- `clampf`. -/
def clampf (v lo hi : K) : K := if v < lo then lo else if hi < v then hi else v

/-- An integer converted to the scalar type. -/
def ofInt (n : Int) : K := lit (n : ℚ)

end Scalar

/-- Rational arithmetic. Square roots are rounded down to six decimals,
the trigonometric functions are their Taylor polynomials of degree two
and three. -/
instance Scalar.rational : Scalar ℚ where
  toDecidableEq := inferInstance
  toDecidableLT := inferInstance
  toDecidableLE := inferInstance
  lit q := q
  sqrt q := (Nat.sqrt ((q.num * 10 ^ 12 / q.den).toNat) : ℚ) / 10 ^ 6
  cos q := 1 - q * q / 2
  sin q := q - q * q * q / 6

end MmorpgServer.Lib
