/-
MmorpgServer.Field.FsmMeleeEpisode — the episodes the policy of the melee
monsters is trained in, `fsm_melee_env_v2.py`.

`reset` places a monster and perhaps a target, `step` lets the monster do
what it was told and the target what it always does, until one of them is
dead or the time is up. What the random generator draws is an argument.
As in `Field.FsmMeleeEnv`, `float32` casts are not part of the model.
-/
import MmorpgServer.Field.FsmMeleeEnv
import MmorpgServer.Lib.TransitionSystem

namespace MmorpgServer.Field

open MmorpgServer.Lib Scalar

/-- `FsmMeleeEnvV2`, with all its state. -/
structure MeleeEpisode (K : Type) [Scalar K] extends FsmMeleeEnvV2 K where
  dt : K
  maxSteps : Nat
  forceCombat : Bool
  stepCount : Nat := 0
  tHp : K
  tAttackCd : K
  patrolDir : K × K
  patrolTimer : K

/-- What `reset` draws. -/
structure ResetDraws (K : Type) where
  mPos : K × K
  coin : K
  tPos : K × K
  angle : K

/-- What `step` draws. -/
structure StepDraws (K : Type) where
  patrolTimer : K
  angle : K

namespace MeleeEpisode

/-! ## Constants -/

section

variable (K : Type) [Scalar K]

def worldHalf : K := lit 14
def playerSpeed : K := lit 5
def patrolSpeed : K := playerSpeed K * lit 0.5
def chaseSpeed : K := playerSpeed K * lit 1.1
def fleeSpeed : K := playerSpeed K * lit 0.7
def attackDamage : K := lit 10
def attackCdBase : K := lit 0.9

def targetSpeed : K := lit 5
def targetAttackRange : K := lit 1.2
def targetDamage : K := lit 6
def targetAttackCdBase : K := lit 1
def targetFleeDist : K := lit 1.4
def targetChaseDist : K := lit 7

end

/-- `ACT_IDLE` to `ACT_RETURN`. -/
def actIdle : Nat := 0
def actPatrol : Nat := 1
def actChase : Nat := 2
def actAttack : Nat := 3
def actReturn : Nat := 4

variable {K : Type} [Scalar K]

/-! ## `reset` -/

/-- `_rand_dir`, of the angle drawn. -/
def randDir (angle : K) : K × K := (cos angle, sin angle)

/-- `__init__`. -/
def init (dt : K) (maxSteps : Nat) (forceCombat : Bool) : MeleeEpisode K where
  dt := dt
  maxSteps := maxSteps
  forceCombat := forceCombat
  mPos := (lit 0, lit 0)
  mHp := lit 100
  mAttackCd := lit 0
  tPos := (lit 0, lit 0)
  tHp := lit 100
  tAttackCd := lit 0
  targetActive := true
  patrolDir := (lit 1, lit 0)
  patrolTimer := lit 0
  lastAction := ⟨actIdle, by decide⟩

/-- `reset`. -/
def reset (e : MeleeEpisode K) (d : ResetDraws K) : MeleeEpisode K :=
  let targetActive := e.forceCombat || decide (lit 0.35 ≤ d.coin)
  let tPos :=
    if targetActive then
      if linalgNorm (d.tPos.1 - d.mPos.1, d.tPos.2 - d.mPos.2) < lit 2 then
        (d.tPos.1 + lit 2.5, d.tPos.2 + lit 0)
      else d.tPos
    else (lit 999, lit 999)
  { e with
    stepCount := 0
    mPos := d.mPos
    mHp := lit 100
    mAttackCd := lit 0
    targetActive
    tPos
    tHp := if targetActive then lit 100 else lit 0
    tAttackCd := lit 0
    patrolDir := randDir d.angle
    patrolTimer := lit 0
    lastAction := ⟨actIdle, by decide⟩ }

/-! ## `step` -/

/-- `_dist`. -/
def dist (e : MeleeEpisode K) : K :=
  linalgNorm (e.tPos.1 - e.mPos.1, e.tPos.2 - e.mPos.2)

/-- A position moved along a direction. -/
def advance (pos dir : K × K) (len : K) : K × K := (pos.1 + dir.1 * len, pos.2 + dir.2 * len)

/-- `np.clip` to the world. -/
def clipWorld (pos : K × K) : K × K :=
  (clip pos.1 (-worldHalf K) (worldHalf K), clip pos.2 (-worldHalf K) (worldHalf K))

/-- The first lines of `step`: the action and the cooldowns. -/
def begin (e : MeleeEpisode K) (action : Fin 5) : MeleeEpisode K :=
  { e with
    stepCount := e.stepCount + 1
    lastAction := action
    mAttackCd := max (lit 0) (e.mAttackCd - e.dt)
    tAttackCd := max (lit 0) (e.tAttackCd - e.dt) }

/-- What the monster does. -/
def act (e : MeleeEpisode K) (action : Fin 5) (d : StepDraws K) : MeleeEpisode K :=
  let e : MeleeEpisode K :=
    if action.val = actPatrol then
      let e : MeleeEpisode K :=
        if e.patrolTimer ≤ lit 0 then
          { e with patrolTimer := d.patrolTimer, patrolDir := randDir d.angle }
        else { e with patrolTimer := max (lit 0) (e.patrolTimer - e.dt) }
      { e with mPos := advance e.mPos e.patrolDir (patrolSpeed K * e.dt) }
    else if action.val = actChase then
      if e.targetActive then
        { e with mPos := advance e.mPos e.dirToTarget.1 (chaseSpeed K * e.dt) }
      else e
    else if action.val = actReturn then
      if e.targetActive then
        let dir := e.dirToTarget.1
        { e with mPos := advance e.mPos (-dir.1, -dir.2) (fleeSpeed K * e.dt) }
      else e
    else e
  { e with mPos := clipWorld e.mPos }

/-- `_target_bot_move`. -/
def targetBotMove (e : MeleeEpisode K) : MeleeEpisode K :=
  let r := e.dirToTarget
  let v : K × K :=
    if r.2 < targetFleeDist K then r.1
    else if targetChaseDist K < r.2 then (-r.1.1, -r.1.2)
    else (lit 0, lit 0)
  { e with tPos := clipWorld (advance e.tPos v (targetSpeed K * e.dt)) }

/-- `_resolve_monster_attack`, with the damage dealt. -/
def resolveMonsterAttack (e : MeleeEpisode K) (action : Fin 5) : MeleeEpisode K × K :=
  let r : MeleeEpisode K × K :=
    if action.val = actAttack ∧ e.mAttackCd ≤ lit 0 ∧ e.dist ≤ e.attackRange then
      ({ e with mAttackCd := attackCdBase K, tHp := e.tHp - attackDamage K }, attackDamage K)
    else (e, lit 0)
  ({ r.1 with tHp := max (lit 0) r.1.tHp }, r.2)

/-- `_resolve_target_attack`, with the damage taken. -/
def resolveTargetAttack (e : MeleeEpisode K) : MeleeEpisode K × K :=
  let r : MeleeEpisode K × K :=
    if e.tAttackCd ≤ lit 0 ∧ e.dist ≤ targetAttackRange K then
      ({ e with tAttackCd := targetAttackCdBase K, mHp := e.mHp - targetDamage K }, targetDamage K)
    else (e, lit 0)
  ({ r.1 with mHp := max (lit 0) r.1.mHp }, r.2)

/-- What `step` returns, and the environment after it. -/
structure StepResult (K : Type) [Scalar K] where
  env : MeleeEpisode K
  obs : List K
  reward : K
  terminated : Bool
  truncated : Bool
  dealt : K
  taken : K

/-- The reward before the end of the episode is looked at: of the action,
the damage, whether the hp were low, the distance before, and what is
now. -/
def shaped (e : MeleeEpisode K) (action : Fin 5) (dealt taken : K) (lowhp : Bool) (prevDist : K) :
    K :=
  let hasTarget := e.targetActive
  let reward : K := lit 0 + dealt * lit 0.15 - taken * lit 0.08
  let reward := if hasTarget && decide (action.val = actIdle) then reward - lit 0.01 else reward
  let reward :=
    if hasTarget then reward
    else if action.val = actPatrol ∨ action.val = actIdle then reward + lit 0.002
    else reward - lit 0.01
  let reward :=
    if lowhp then
      if action.val = actReturn then reward + lit 0.02 else reward - lit 0.02
    else reward
  let reward :=
    if hasTarget && lowhp && decide (action.val = actReturn) then
      reward + (e.dist - prevDist) * lit 0.03
    else reward
  let reward :=
    if hasTarget && decide (action.val = actAttack) then
      if e.dist ≤ e.keepAttackRange then reward + lit 0.01 else reward - lit 0.01
    else reward
  reward - lit 0.001

/-- `step`. -/
def step (e : MeleeEpisode K) (action : Fin 5) (d : StepDraws K) : StepResult K :=
  let e := e.begin action
  let hasTarget := e.targetActive
  let lowhp := e.lowhp
  let prevDist := if hasTarget then e.dist else lit 0
  let e := e.act action d
  let r : MeleeEpisode K × K × K :=
    if hasTarget then
      let m := e.targetBotMove.resolveMonsterAttack action
      let t := m.1.resolveTargetAttack
      (t.1, m.2, t.2)
    else (e, lit 0, lit 0)
  let e := r.1
  let reward := e.shaped action r.2.1 r.2.2 lowhp prevDist
  let ending : Bool × K :=
    if e.mHp ≤ lit 0 then (true, reward - lit 1)
    else if hasTarget ∧ e.tHp ≤ lit 0 then (true, reward + lit 1)
    else (false, reward)
  { env := e
    obs := e.obs
    reward := ending.2
    terminated := ending.1
    truncated := decide (e.maxSteps ≤ e.stepCount)
    dealt := r.2.1
    taken := r.2.2 }

/-! ## Episodes -/

/-- An episode that has ended. -/
def Over (e : MeleeEpisode K) : Prop :=
  e.mHp ≤ lit 0 ∨ e.targetActive = true ∧ e.tHp ≤ lit 0 ∨ e.maxSteps ≤ e.stepCount

instance (e : MeleeEpisode K) : Decidable e.Over :=
  inferInstanceAs (Decidable (_ ∨ _ ∧ _ ∨ _))

end MeleeEpisode

/-- One episode: a `reset`, then steps until it has ended, with any
actions and any draws. -/
def meleeSystem {K : Type} [Scalar K] (dt : K) (maxSteps : Nat) (forceCombat : Bool) :
    System (MeleeEpisode K) (Fin 5 × StepDraws K) where
  init e := ∃ d, e = (MeleeEpisode.init dt maxSteps forceCombat).reset d
  step e a e' := ¬ e.Over ∧ e' = (e.step a.1 a.2).env

end MmorpgServer.Field
