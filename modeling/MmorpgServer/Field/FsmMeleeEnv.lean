/-
MmorpgServer.Field.FsmMeleeEnv — the observation of the training
environment, `fsm_melee_env_v2.py`.

The policy of the melee monsters was trained on what `_obs` returns, and
is served what `MakeObs16` returns. `FsmMeleeEnvV2` is the part of the
environment that `_obs` reads, in the arithmetic of `MakeObs16`: `float32`
casts are not part of the model.
-/
import MmorpgServer.Field.Monster

namespace MmorpgServer.Field

open MmorpgServer.Lib Scalar

/-- What `_obs` reads of an environment, with the ranges of `__init__`. -/
structure FsmMeleeEnvV2 (K : Type) [Scalar K] where
  sight : K := lit 11
  attackRange : K := lit 1.3
  keepAttackRange : K := lit 1.8
  lowHpRatio : K := lit 0.25
  mPos : K × K
  mHp : K
  mMaxHp : K := lit 100
  mAttackCd : K
  tPos : K × K
  targetActive : Bool
  lastAction : Fin 5

variable {K : Type} [Scalar K]

/-- `np.clip`: the minimum with `hi` of the maximum with `lo`. -/
def clip (x lo hi : K) : K :=
  let x := if x < lo then lo else x
  if hi < x then hi else x

/-- `np.linalg.norm`, of a vector of two. -/
def linalgNorm (v : K × K) : K := sqrt (v.1 * v.1 + v.2 * v.2)

namespace FsmMeleeEnvV2

/-- `_lowhp`. -/
def lowhp (e : FsmMeleeEnvV2 K) : Bool := decide (e.mHp / e.mMaxHp ≤ e.lowHpRatio)

/-- `_dir_to_target`: a direction and a distance. -/
def dirToTarget (e : FsmMeleeEnvV2 K) : (K × K) × K :=
  let v := (e.tPos.1 - e.mPos.1, e.tPos.2 - e.mPos.2)
  let d := linalgNorm v
  if d < lit 0.000001 then ((lit 0, lit 0), lit 0)
  else ((v.1 / d, v.2 / d), d)

/-- `_obs`. -/
def obs (e : FsmMeleeEnvV2 K) : List K :=
  let flag (c : Bool) : K := if c then lit 1 else lit 0
  let o : K × K × K × Bool × Bool × Bool :=
    if e.targetActive then
      let r := e.dirToTarget
      let inAttack := decide (r.2 ≤ e.attackRange)
      (clip (r.2 / e.sight) (lit 0) (lit 2), r.1.1, r.1.2,
        decide (e.mAttackCd ≤ lit 0) && inAttack, inAttack, decide (r.2 ≤ e.keepAttackRange))
    else (lit 0, lit 0, lit 0, false, false, false)
  [flag e.targetActive, o.1, o.2.1, o.2.2.1, clip (e.mHp / e.mMaxHp) (lit 0) (lit 1),
    flag e.lowhp, flag o.2.2.2.1, flag o.2.2.2.2.1, flag o.2.2.2.2.2,
    flag (decide (e.lastAction.val = 0)), flag (decide (e.lastAction.val = 1)),
    flag (decide (e.lastAction.val = 2)), flag (decide (e.lastAction.val = 3)),
    flag (decide (e.lastAction.val = 4)), lit 0, lit 0]

end FsmMeleeEnvV2

end MmorpgServer.Field
