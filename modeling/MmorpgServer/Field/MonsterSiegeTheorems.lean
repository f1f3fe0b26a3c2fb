/-
MmorpgServer.Field.MonsterSiegeTheorems — an archer at the siege of a
player that stands still.

The archer moves on the ray from its target through itself. Beyond 17 it
closes in, nearer than 11.9 it retreats, in between it stands and shoots;
with ticks of at most half a second it does not get past this range
between two thinks, so from either side it comes into it and stays. From
then on its time counts, up to the next hit.

* `Siege` — what the archer is at after a tick.
* `Prey` — what an environment knows of a player that stands still.
* `Monster.Besieges`, `Besieges.tick` — the siege goes on, and what it
  gains with every tick.
-/
import MmorpgServer.Field.MonsterSpeedTheorems

namespace MmorpgServer.Field

open MmorpgServer.Lib Scalar

variable {K σ : Type} [ExactScalar K]

/-! ## On the ray -/

/-- The monster stands at the distance `d` from the player at `(px, py)`,
in the direction `(ux, uy)`. -/
structure Monster.Faces (px py ux uy : K) (m : Monster K) (d : K) : Prop where
  x : m.transform.x = px + d * ux
  y : m.transform.y = py + d * uy

/-- A healthy archer with its target. -/
structure Monster.Hunts (pid : Nat) (m : Monster K) : Prop where
  archer : AISystem.isArcher m = true
  alive : 0 < m.stats.hp
  strong : ¬ AISystem.LowHp m
  target : m.ai.targetId = pid

section

variable {px py ux uy d : K} {m : Monster K}

theorem Monster.Faces.distSq (h : m.Faces px py ux uy d) (hunit : ux * ux + uy * uy = 1) :
    AISystem.distSq m.transform (px, py) = d * d := by
  unfold AISystem.distSq
  simp only
  rw [h.x, h.y]
  linear_combination d * d * hunit

theorem Monster.Faces.unique (h : m.Faces px py ux uy d) (hunit : ux * ux + uy * uy = 1) :
    (m.transform.x - px) * ux + (m.transform.y - py) * uy = d := by
  rw [h.x, h.y]
  linear_combination d * hunit

variable [ExactRoots K]

theorem ExactScalar.root_mul_self_of_nonneg {r : K} (h : 0 ≤ r) :
    ExactScalar.root (r * r) = r := by
  have hnonneg : (0 : K) ≤ ExactScalar.root (r * r) := ExactRoots.root_nonneg _
  have hsq := ExactRoots.root_mul_self (r * r) (mul_self_nonneg r)
  exact (mul_self_inj hnonneg h).mp hsq

/-- The way out leads on along the ray. -/
theorem Monster.Faces.awayFrom (h : m.Faces px py ux uy d) (hunit : ux * ux + uy * uy = 1)
    (hd : 0 < d) : AISystem.awayFrom m.transform (px, py) = (ux, uy) := by
  have hlen : (px - m.transform.x) * (px - m.transform.x) +
      (py - m.transform.y) * (py - m.transform.y) = d * d := h.distSq hunit
  have hx : px - m.transform.x = -(d * ux) := by
    rw [h.x]
    ring
  have hy : py - m.transform.y = -(d * uy) := by
    rw [h.y]
    ring
  unfold AISystem.awayFrom
  simp only [ExactScalar.lit_eq, ExactScalar.sqrt_eq]
  rw [hlen, ExactScalar.root_mul_self_of_nonneg hd.le, hx, hy]
  field_simp
  simp

end

/-! ## A think -/

/-- What an archer at the distance `d` from its target does: it flees in the
given direction, shoots or closes in. -/
def SiegeChoice (ux uy d : K) (ai : CAI K) : Prop :=
  (d < 11.9 → ai.state = .return ∧ ai.moveDirX = ux ∧ ai.moveDirY = uy ∧ ai.moveSpeed = 3.5) ∧
    (11.9 ≤ d → d ≤ 17 → ai.state = .attack) ∧
    (17 < d → ai.state = .chase ∧ (ai.moveSpeed = 0 ∨ ai.moveSpeed = 5.5))

namespace AISystem

variable {px py ux uy d : K} {m : Monster K} [ExactRoots K]

theorem archer_siege (h : m.Faces px py ux uy d) (hunit : ux * ux + uy * uy = 1)
    (hd : 0.001 < d) (ai : CAI K) : SiegeChoice ux uy d (archer m.transform (px, py) ai) := by
  have hpos : 0 < d := lt_trans (by norm_num) hd
  have hflee : (fleeSpeed true : K) = 3.5 := by
    unfold fleeSpeed playerSpeed
    simp only [ExactScalar.lit_eq]
    norm_num
  have hchase : (chaseSpeed true : K) = 5.5 := by
    unfold chaseSpeed playerSpeed
    simp only [ExactScalar.lit_eq]
    norm_num
  have hmin : (lit 17 * lit 0.7 * (lit 17 * lit 0.7) : K) = 11.9 * 11.9 := by
    simp only [ExactScalar.lit_eq]
    norm_num
  have hmax : (lit 17 * lit 17 : K) = 17 * 17 := by
    simp only [ExactScalar.lit_eq]
    norm_num
  have hfar : (lit 0.000001 : K) < d * d := by
    have hsq : (0.001 * 0.001 : K) < d * d := mul_self_lt_mul_self (by norm_num) hd
    simp only [ExactScalar.lit_eq]
    refine lt_of_eq_of_lt ?_ hsq
    norm_num
  unfold archer
  simp only
  rw [h.distSq hunit, hmin, hmax, h.awayFrom hunit hpos, if_pos hfar]
  refine ⟨fun hnear => ?_, fun hnear hfar => ?_, fun hfar => ?_⟩
  · have hsq : d * d < 11.9 * 11.9 := mul_self_lt_mul_self hpos.le hnear
    rw [if_pos hsq, hflee, setMonsterMove_unit _ hunit (by norm_num)]
    exact ⟨rfl, rfl, rfl, rfl⟩
  · have hsq : ¬ d * d < 11.9 * 11.9 := not_lt.mpr (mul_self_le_mul_self (by norm_num) hnear)
    have hsq' : d * d ≤ 17 * 17 := mul_self_le_mul_self hpos.le hfar
    rw [if_neg hsq, if_pos hsq', stopMove_state]
  · have hsq : ¬ d * d < 11.9 * 11.9 :=
      not_lt.mpr (mul_self_le_mul_self (by norm_num) (le_trans (by norm_num) hfar.le))
    have hsq' : ¬ d * d ≤ 17 * 17 := not_le.mpr (mul_self_lt_mul_self (by norm_num) hfar)
    rw [if_neg hsq, if_neg hsq', hchase]
    obtain he | ⟨a, b, -, he⟩ := setMonsterMove_cases
      { ai with state := .chase, moveSpeed := 5.5 } ai.moveDirX ai.moveDirY 5.5 <;> rw [he]
    · exact ⟨rfl, .inl rfl⟩
    · exact ⟨rfl, .inr rfl⟩

end AISystem

/-! ## The prey -/

/-- The environment, with a `setPlayerStats` that does nothing. -/
def MonsterEnvironment.harmless (env : MonsterEnvironment K σ) : MonsterEnvironment K σ :=
  { env with setPlayerStats := fun s _ _ _ => s }

/-- In the states that meet `I`, the player `pid` stands at `(px, py)` with
the given hp, is the one found closest, and its hp change by
`setPlayerStats` only: to what is set, if they do not rise by it. -/
structure MonsterEnvironment.Prey (env : MonsterEnvironment K σ) (I : σ → Prop) (hp : σ → Int)
    (pid : Nat) (px py : K) : Prop where
  id : pid ≠ 0
  position : ∀ s, I s → env.getPlayerPosition s pid = some (px, py)
  closest : ∀ s x y r, I s → AISystem.distSq ⟨x, y⟩ (px, py) < r * r →
    env.findClosestPlayer s x y r = pid
  stats : ∀ s, I s → ∃ maxHp sp maxSp, env.getPlayerStats s pid = some (hp s, maxHp, sp, maxSp)
  keeps : ∀ h, env.harmless.Keeps (fun _ => True) fun s => I s ∧ hp s = h
  setPlayerStats : ∀ s target newHp newSp, I s → I (env.setPlayerStats s target newHp newSp) ∧
    ((target = pid → 0 ≤ newHp ∧ newHp ≤ Max.max 0 (hp s)) →
      hp (env.setPlayerStats s target newHp newSp) = if target = pid then newHp else hp s)

namespace MonsterEnvironment.Prey

variable {env : MonsterEnvironment K σ} {I : σ → Prop} {hp : σ → Int} {pid : Nat} {px py : K}

/-- Every callback keeps the player in its place. -/
theorem keepsPlace (h : env.Prey I hp pid px py) : env.Keeps (fun _ => True) I where
  broadcastCombat s _ _ _ _ hs := ((h.keeps (hp s)).broadcastCombat s _ _ _ _ ⟨hs, rfl⟩).1
  broadcastAiState s _ _ hs := ((h.keeps (hp s)).broadcastAiState s _ _ ⟨hs, rfl⟩).1
  broadcastPlayerState s _ _ hs := ((h.keeps (hp s)).broadcastPlayerState s _ _ ⟨hs, rfl⟩).1
  broadcastMonsterStat s _ _ _ _ _ hs :=
    ((h.keeps (hp s)).broadcastMonsterStat s _ _ _ _ _ ⟨hs, rfl⟩).1
  broadcastPlayerStat s _ _ _ _ _ hs :=
    ((h.keeps (hp s)).broadcastPlayerStat s _ _ _ _ _ ⟨hs, rfl⟩).1
  setPlayerStats s _ _ _ hs := (h.setPlayerStats s _ _ _ hs).1
  markPlayerDirty s _ hs := ((h.keeps (hp s)).markPlayerDirty s _ ⟨hs, rfl⟩).1
  moveInAoi s _ _ _ _ hs := ((h.keeps (hp s)).moveInAoi s _ _ _ trivial ⟨hs, rfl⟩).1
  spawnInAoi s _ _ _ _ hs := ((h.keeps (hp s)).spawnInAoi s _ _ _ trivial ⟨hs, rfl⟩).1
  removeFromAoi s _ _ hs := ((h.keeps (hp s)).removeFromAoi s _ trivial ⟨hs, rfl⟩).1

/-- An attack on the player takes its damage off the hp, down to 0; one on
somebody else does nothing to them. -/
theorem attackPlayer (h : env.Prey I hp pid px py) {s : σ} (hs : I s) (mid target : Nat)
    {atk : Int} (hatk : 0 ≤ atk) :
    I (CombatSystem.attackPlayer env s mid target atk) ∧
      hp (CombatSystem.attackPlayer env s mid target atk) =
        if target = pid then Max.max 0 (hp s - atk) else hp s := by
  have hquiet : ∀ s₀ : σ, ∀ n, I s₀ ∧ hp s₀ = n → ∀ newHp maxHp newSp maxSp : Int,
      let s₁ := env.broadcastPlayerStat (env.broadcastCombat (env.markPlayerDirty s₀ target) mid
        target atk newHp) target newHp maxHp newSp maxSp
      (I s₁ ∧ hp s₁ = n) ∧ I (env.broadcastPlayerState s₁ target .dead) ∧
        hp (env.broadcastPlayerState s₁ target .dead) = n := by
    intro s₀ n h₀ newHp maxHp newSp maxSp s₁
    have h₁ : I s₁ ∧ hp s₁ = n := (h.keeps n).broadcastPlayerStat _ _ _ _ _ _
      ((h.keeps n).broadcastCombat _ _ _ _ _ ((h.keeps n).markPlayerDirty _ _ h₀))
    exact ⟨h₁, (h.keeps n).broadcastPlayerState _ _ _ h₁⟩
  cases hstats : env.getPlayerStats s target with
  | none =>
    unfold CombatSystem.attackPlayer
    rw [hstats, if_neg]
    · exact ⟨hs, rfl⟩
    · rintro rfl
      obtain ⟨_, _, _, hsome⟩ := h.stats s hs
      rw [hsome] at hstats
      cases hstats
  | some st =>
    obtain ⟨hp₀, maxHp, sp, maxSp⟩ := st
    have hown : target = pid → hp₀ = hp s := by
      rintro rfl
      obtain ⟨_, _, _, hsome⟩ := h.stats s hs
      rw [hsome] at hstats
      cases hstats
      rfl
    rw [CombatSystem.attackPlayer_eq mid atk hstats]
    split
    · rename_i hsame
      obtain ⟨hI, hkept⟩ := (h.keeps (hp s)).broadcastCombat s mid target atk hp₀ ⟨hs, rfl⟩
      refine ⟨hI, hkept.trans ?_⟩
      split
      · rename_i htarget
        rw [← hown htarget]
        exact hsame.symm
      · rfl
    · obtain ⟨hset, hsethp⟩ := h.setPlayerStats s target (Max.max 0 (hp₀ - atk)) sp hs
      replace hsethp := hsethp fun htarget => by
        rw [hown htarget]
        omega
      obtain ⟨hstat, hdead⟩ := hquiet _ _ ⟨hset, hsethp⟩ (Max.max 0 (hp₀ - atk)) maxHp sp maxSp
      have hresult : (if target = pid then Max.max 0 (hp₀ - atk) else hp s) =
          if target = pid then Max.max 0 (hp s - atk) else hp s := by
        split
        · rename_i htarget
          rw [hown htarget]
        · rfl
      rw [hresult] at hstat hdead
      simp only
      split
      · exact hdead
      · exact hstat

end MonsterEnvironment.Prey

namespace AISystem

variable {env : MonsterEnvironment K σ} {I : σ → Prop} {hp : σ → Int} {pid : Nat}
  {px py ux uy d : K} {m : Monster K}

/-- A healthy archer that has the player as its target, or none and the
player in sight, turns to the player. -/
theorem think_prey (h : env.Prey I hp pid px py) {s : σ} (hs : I s) (harcher : isArcher m = true)
    (hstrong : ¬ LowHp m) (hfaces : m.Faces px py ux uy d) (hunit : ux * ux + uy * uy = 1)
    (hpos : 0 ≤ d) (hfar : d ≤ 25.2) (policy : List K → Fin 5 → K) (oldState : AiState) {ai : CAI K}
    (htarget : ai.targetId = pid ∨ ai.targetId = 0 ∧ d < 18) :
    think env policy s m oldState ai = archer m.transform (px, py) { ai with targetId := pid } := by
  have hposition := h.position s hs
  have hsel : selectTarget env s m.transform (lit 18) ai =
      ({ ai with targetId := pid }, some (px, py)) := by
    unfold selectTarget
    rcases htarget with rfl | ⟨hzero, hnear⟩
    · rw [if_pos h.id, hposition]
    · have hsq : AISystem.distSq m.transform (px, py) < lit 18 * lit 18 := by
        have hlt : d * d < 18 * 18 := mul_self_lt_mul_self hpos hnear
        rw [hfaces.distSq hunit]
        simpa using hlt
      rw [if_neg (not_not.mpr hzero)]
      simp only
      rw [h.closest s _ _ _ hs hsq, if_neg h.id, hposition]
  have hsight : ¬ (lit 18 * lit 1.4 * (lit 18 * lit 1.4) : K) <
      AISystem.distSq m.transform (px, py) := by
    have hle : d * d ≤ 25.2 * 25.2 := mul_self_le_mul_self hpos hfar
    have hsq : (lit 18 * lit 1.4 * (lit 18 * lit 1.4) : K) = 25.2 * 25.2 := by
      simp only [ExactScalar.lit_eq]
      norm_num
    rw [hfaces.distSq hunit, hsq]
    exact not_lt.mpr hle
  unfold think
  simp only [harcher, if_true]
  rw [hsel]
  simp only [hsight, decide_false, Bool.false_eq_true, if_false]
  refine (if_neg hstrong).trans ?_
  rw [if_neg h.id]

end AISystem

/-! ## The passes -/

/-- What a pass leaves of an archer on the hunt, whatever it does. -/
structure Monster.StillHunts (pid : Nat) (m m' : Monster K) : Prop where
  hunts : m'.Hunts pid
  known : m'.ai.netSynced = true
  timer : m'.ai.attackTimer = m.ai.attackTimer
  cooldown : m'.ai.attackCooldown = m.ai.attackCooldown

namespace AISystem

section

variable {env : MonsterEnvironment K σ} {I : σ → Prop} {hp : σ → Int} {pid : Nat}
  {px py ux uy d dt : K} {m : Monster K}

/-- A pass in which the archer thinks. -/
theorem update_siege [ExactRoots K] (h : env.Prey I hp pid px py) {s : σ} (hs : I s)
    (harcher : isArcher m = true) (halive : 0 < m.stats.hp) (hstrong : ¬ LowHp m)
    (hfaces : m.Faces px py ux uy d) (hunit : ux * ux + uy * uy = 1) (hnear : 0.001 < d)
    (hfar : d ≤ 25.2) (htarget : m.ai.targetId = pid ∨ m.ai.targetId = 0 ∧ d < 18)
    (hdue : m.ai.thinkCooldown - dt ≤ 0) (policy : List K → Fin 5 → K) :
    let m' := (update env policy dt s m).1
    m.StillHunts pid m' ∧ m'.transform = m.transform ∧ m'.ai.thinkCooldown = 0.3 ∧
      SiegeChoice ux uy d m'.ai := by
  intro m'
  have hkept := update_kept env policy dt s m
  have hpos : 0 < d := lt_trans (by norm_num) hnear
  have hI : I (announced env dt s m).2 := by
    have hsynced := h.keepsPlace.sync s { m with
      ai := { m.ai with attackCd := Scalar.max (lit 0) (m.ai.attackCd - dt) } } hs
    unfold announced
    simp only
    split
    · exact h.keepsPlace.broadcastMonsterStat _ _ _ _ _ _ hsynced
    · exact hsynced
  have htarget' : (announced env dt s m).1.targetId = m.ai.targetId := sync_targetId _ _ _
  have hcooldown : (announced env dt s m).1.thinkCooldown = m.ai.thinkCooldown :=
    sync_thinkCooldown _ _ _
  have hchoice :
      ({ (announced env dt s m).1 with thinkCooldown := lit 0.3 } : CAI K).targetId = pid ∨
      ({ (announced env dt s m).1 with thinkCooldown := lit 0.3 } : CAI K).targetId = 0 ∧ d < 18 :=
    htarget' ▸ htarget
  have hai : m'.ai = archer m.transform (px, py)
      { (announced env dt s m).1 with thinkCooldown := lit 0.3, targetId := pid } := by
    have hthink := think_prey (m := { m with
      ai := { m.ai with attackCd := Scalar.max (lit 0) (m.ai.attackCd - dt) }
      stats := { m.stats with dirty := false } }) h hI harcher hstrong ⟨hfaces.x, hfaces.y⟩ hunit
      hpos.le hfar policy m.ai.state hchoice
    rw [← hthink]
    show (update env policy dt s m).1.ai = _
    rw [update_eq]
    unfold decideAi
    simp only
    rw [if_neg (by omega), hcooldown, if_neg (by simpa using hdue)]
  have harcherCooldown : m'.ai.thinkCooldown = 0.3 := by
    rw [hai]
    unfold archer
    simp only
    split
    · rw [setMonsterMove_thinkCooldown]
      simp
    · split
      · rw [stopMove, setMonsterMove_thinkCooldown]
        simp
      · rw [setMonsterMove_thinkCooldown]
        simp
  refine ⟨⟨⟨harcher, halive, hstrong, ?_⟩, hkept.netSynced, hkept.attackTimer,
    hkept.attackCooldown⟩, rfl, harcherCooldown, ?_⟩
  · rw [hai, archer_targetId]
  · rw [hai]
    exact archer_siege hfaces hunit hnear _

variable (env) in
/-- A pass in which the archer does not think. -/
theorem update_siege_waits (s : σ) (h : m.Hunts pid) (hknown : m.ai.netSynced = true)
    (hwait : 0 < m.ai.thinkCooldown - dt) (policy : List K → Fin 5 → K) :
    let m' := (update env policy dt s m).1
    m.StillHunts pid m' ∧ m'.transform = m.transform ∧
      m'.ai.thinkCooldown = m.ai.thinkCooldown - dt ∧
      m'.ai.state = m.ai.state ∧ m'.ai.moveDirX = m.ai.moveDirX ∧
      m'.ai.moveDirY = m.ai.moveDirY ∧ m'.ai.moveSpeed = m.ai.moveSpeed := by
  intro m'
  have hsame : (announced env dt s m).1 =
      { m.ai with attackCd := Scalar.max (lit 0) (m.ai.attackCd - dt) } := by
    unfold announced sync
    simp only
    rw [if_pos hknown]
  have hai : m'.ai = { m.ai with
      attackCd := Scalar.max (lit 0) (m.ai.attackCd - dt)
      thinkCooldown := m.ai.thinkCooldown - dt } := by
    show (update env policy dt s m).1.ai = _
    rw [update_eq]
    unfold decideAi
    simp only
    rw [if_neg (not_le.mpr h.alive), hsame, if_pos (by simpa using hwait)]
  refine ⟨⟨⟨h.archer, h.alive, h.strong, ?_⟩, ?_, ?_, ?_⟩, rfl, ?_⟩ <;> rw [hai]
  · exact h.target
  · exact hknown
  · exact ⟨rfl, rfl, rfl, rfl, rfl⟩

end

end AISystem

namespace MovementSystem

section

variable {env : MonsterEnvironment K σ} {I : σ → Prop} {hp : σ → Int} {pid : Nat}
  {px py ux uy d dt : K} {m : Monster K} {s : σ}

/-- The AI of an archer that moves along the ray. -/
theorem movedAlong_siege [ExactRoots K] (dt : K) (h : m.Hunts pid) (hknown : m.ai.netSynced = true)
    {vx vy speed : K} (hunit : vx * vx + vy * vy = 1) (hspeed : 0 < speed) :
    m.StillHunts pid (m.movedAlong dt vx vy speed) ∧
      (m.movedAlong dt vx vy speed).ai = { m.ai with
        moveDirX := vx, moveDirY := vy, moveSpeed := speed } := by
  have hai : (m.movedAlong dt vx vy speed).ai = { m.ai with
      moveDirX := vx, moveDirY := vy, moveSpeed := speed } :=
    setMonsterMove_unit _ hunit hspeed
  refine ⟨⟨⟨h.archer, h.alive, h.strong, ?_⟩, ?_, ?_, ?_⟩, hai⟩ <;> rw [hai]
  · exact h.target
  · exact hknown

variable (dt) in
/-- Closing in: straight to the player. -/
theorem update_chase [ExactRoots K] (h : env.Prey I hp pid px py) (hs : I s) (hm : m.Hunts pid)
    (hknown : m.ai.netSynced = true) (hfaces : m.Faces px py ux uy d)
    (hunit : ux * ux + uy * uy = 1) (hnear : 0.001 < d) (hstate : m.ai.state = .chase) :
    let m' := (update env dt s m).1
    let v := if m.ai.moveSpeed ≤ 0 then 6 else m.ai.moveSpeed
    m.StillHunts pid m' ∧ m'.Faces px py ux uy (d - v * dt) ∧
      m'.ai = { m.ai with moveDirX := -ux, moveDirY := -uy, moveSpeed := v } := by
  intro m' v
  have hpos : 0 < d := lt_trans (by norm_num) hnear
  have hv : 0 < v := by
    show 0 < if m.ai.moveSpeed ≤ 0 then 6 else m.ai.moveSpeed
    split
    · norm_num
    · rename_i hslow
      exact not_le.mp hslow
  have hcourse : course env s m = some (-ux, -uy, v) := by
    have hlen : (px - m.transform.x) * (px - m.transform.x) +
        (py - m.transform.y) * (py - m.transform.y) = d * d := hfaces.distSq hunit
    have hx : px - m.transform.x = -(d * ux) := by
      rw [hfaces.x]
      ring
    have hy : py - m.transform.y = -(d * uy) := by
      rw [hfaces.y]
      ring
    have hlong : ¬ d * d < (lit 0.000001 : K) := by
      have hsq : (0.001 * 0.001 : K) < d * d := mul_self_lt_mul_self (by norm_num) hnear
      simp only [ExactScalar.lit_eq, not_lt]
      refine le_trans (le_of_eq ?_) hsq.le
      norm_num
    unfold course
    simp only [hstate]
    rw [if_neg (hm.target.symm ▸ h.id), hm.target, h.position s hs]
    simp only
    rw [hlen, if_neg hlong]
    simp only [ExactScalar.lit_eq, ExactScalar.sqrt_eq, ExactScalar.root_mul_self_of_nonneg hpos.le]
    rw [hx, hy]
    have hcancel : ∀ a : K, -(d * a) * ((1 : ℚ) / d : K) = -a := by
      intro a
      field_simp
      simp
    rw [hcancel, hcancel]
    simp [v]
  have hunit' : -ux * -ux + -uy * -uy = 1 := by
    linear_combination hunit
  have he : m' = m.movedAlong dt (-ux) (-uy) v := by
    show (update env dt s m).1 = _
    unfold update
    rw [if_neg (by simp [hstate]), hcourse]
    rfl
  obtain ⟨hstill, hai⟩ := movedAlong_siege dt hm hknown hunit' hv
  rw [he]
  refine ⟨hstill, ⟨?_, ?_⟩, hai⟩
  · show m.transform.x + -ux * v * dt = px + (d - v * dt) * ux
    rw [hfaces.x]
    ring
  · show m.transform.y + -uy * v * dt = py + (d - v * dt) * uy
    rw [hfaces.y]
    ring

variable (env dt s) in
/-- Retreating: straight away from the player. -/
theorem update_return [ExactRoots K] (hm : m.Hunts pid) (hknown : m.ai.netSynced = true)
    (hfaces : m.Faces px py ux uy d) (hunit : ux * ux + uy * uy = 1)
    (hstate : m.ai.state = .return) (hx : m.ai.moveDirX = ux) (hy : m.ai.moveDirY = uy)
    (hspeed : m.ai.moveSpeed = 3.5) :
    let m' := (update env dt s m).1
    m.StillHunts pid m' ∧ m'.Faces px py ux uy (d + 3.5 * dt) ∧ m'.ai = m.ai := by
  intro m'
  have hslow : ¬ (ux * ux + uy * uy < (lit 0.000001 : K) ∨ (3.5 : K) ≤ lit 0) := by
    rw [hunit]
    simp only [ExactScalar.lit_eq]
    norm_num
  have hcourse : course env s m = some (ux, uy, 3.5) := by
    unfold course
    simp only [hstate, hx, hy, hspeed]
    rw [if_neg hslow]
  have he : m' = m.movedAlong dt ux uy 3.5 := by
    show (update env dt s m).1 = _
    unfold update
    rw [if_neg (by simp [hstate]), hcourse]
    rfl
  have hspeed' : (0 : K) < 3.5 := by norm_num
  obtain ⟨hstill, hai⟩ := movedAlong_siege dt hm hknown hunit hspeed'
  rw [he]
  refine ⟨hstill, ⟨?_, ?_⟩, ?_⟩
  · show m.transform.x + ux * 3.5 * dt = px + (d + 3.5 * dt) * ux
    rw [hfaces.x]
    ring
  · show m.transform.y + uy * 3.5 * dt = py + (d + 3.5 * dt) * uy
    rw [hfaces.y]
    ring
  · rw [hai, ← hx, ← hy, ← hspeed]

variable (env dt s) in
/-- Shooting: standing still. -/
theorem update_attack (hm : m.Hunts pid) (hknown : m.ai.netSynced = true)
    (hstate : m.ai.state = .attack) :
    let m' := (update env dt s m).1
    m.StillHunts pid m' ∧ m'.transform = m.transform ∧ m'.ai.state = .attack := by
  intro m'
  have hkept := update_kept env dt s m
  obtain ⟨-, he⟩ | ⟨-, he⟩ | ⟨hmoves, -⟩ := update_cases env dt s m
  · have he' : m' = m := congrArg Prod.fst he
    rw [he']
    exact ⟨⟨hm, hknown, rfl, rfl⟩, rfl, hstate⟩
  · have he' : m' = { m with ai := stopMove m.ai } := congrArg Prod.fst he
    refine ⟨⟨⟨?_, ?_, ?_, ?_⟩, hkept.netSynced.trans hknown, hkept.attackTimer,
      hkept.attackCooldown⟩, ?_, ?_⟩ <;> rw [he']
    · exact hm.archer
    · exact hm.alive
    · exact hm.strong
    · rw [stopMove_targetId]
      exact hm.target
    · rw [stopMove_state]
      exact hstate
  · exact absurd (.inr (.inl hstate)) hmoves

end

end MovementSystem

/-! ## A tick -/

/-- What an archer on the hunt is at, `e` after the move of the tick in
which it was decided: it closes in, and cannot be too near; it retreats,
and cannot be too far; or it stands in the right distance and shoots. -/
inductive Monster.Siege (px py ux uy e : K) (m : Monster K) : Prop
  | closing (d : K) (faces : m.Faces px py ux uy d) (state : m.ai.state = .chase)
      (speed : m.ai.moveSpeed = 0 ∨ 5.5 ≤ m.ai.moveSpeed) (fast : m.ai.moveSpeed ≤ 6)
      (due : 0 < m.ai.thinkCooldown) (near : 17 - 6 * (0.3 + e - m.ai.thinkCooldown) ≤ d)
      (far : d ≤ 25.2)
  | retreating (d : K) (faces : m.Faces px py ux uy d) (state : m.ai.state = .return)
      (dirX : m.ai.moveDirX = ux) (dirY : m.ai.moveDirY = uy) (speed : m.ai.moveSpeed = 3.5)
      (due : 0 < m.ai.thinkCooldown) (near : 0.001 < d)
      (far : d ≤ 11.9 + 3.5 * (0.3 + e - m.ai.thinkCooldown))
  | shooting (d : K) (faces : m.Faces px py ux uy d) (state : m.ai.state = .attack)
      (near : 11.9 ≤ d) (far : d ≤ 17)

/-- How far the archer has got with what it is at. -/
def Monster.gain (px py ux uy : K) (m : Monster K) : K :=
  let d := (m.transform.x - px) * ux + (m.transform.y - py) * uy
  if m.ai.state = .chase then -d else d

section

variable {env : MonsterEnvironment K σ} {I : σ → Prop} {hp : σ → Int} {pid : Nat}
  {px py ux uy d e dt : K} {m m' : Monster K}

theorem Monster.Faces.congr (h : m.Faces px py ux uy d) (htr : m'.transform = m.transform) :
    m'.Faces px py ux uy d := by
  constructor <;> rw [htr]
  · exact h.x
  · exact h.y

theorem Monster.Faces.gain (h : m.Faces px py ux uy d) (hunit : ux * ux + uy * uy = 1) :
    m.gain px py ux uy = if m.ai.state = .chase then -d else d := by
  unfold Monster.gain
  simp only
  rw [h.unique hunit]

/-- Short of half a second after its last think, the archer is in sight of
its target, and knows which way to go. -/
theorem Monster.Siege.distance (h : m.Siege px py ux uy e) (he : e ≤ 1 / 2) :
    ∃ d, m.Faces px py ux uy d ∧ 0.001 < d ∧ d ≤ 25.2 ∧ (m.ai.state = .chase → 11.9 ≤ d) ∧
      (m.ai.state = .return → d ≤ 17) ∧ (m.ai.state = .attack → 11.9 ≤ d ∧ d ≤ 17) := by
  cases h with
  | closing d faces state speed fast due near far =>
    refine ⟨d, faces, ?_, far, fun _ => ?_, fun hs => ?_, fun hs => ?_⟩
    · norm_num at *
      linarith
    · norm_num at *
      linarith
    · rw [state] at hs
      cases hs
    · rw [state] at hs
      cases hs
  | retreating d faces state dirX dirY speed due near far =>
    refine ⟨d, faces, near, ?_, fun hs => ?_, fun _ => ?_, fun hs => ?_⟩
    · norm_num at *
      linarith
    · rw [state] at hs
      cases hs
    · norm_num at *
      linarith
    · rw [state] at hs
      cases hs
  | shooting d faces state near far =>
    refine ⟨d, faces, ?_, ?_, fun hs => ?_, fun hs => ?_, fun _ => ⟨near, far⟩⟩
    · exact lt_of_lt_of_le (by norm_num) near
    · exact far.trans (by norm_num)
    · rw [state] at hs
      cases hs
    · rw [state] at hs
      cases hs

theorem Monster.Siege.gain_le (h : m.Siege px py ux uy e) (he : e ≤ 1 / 2)
    (hunit : ux * ux + uy * uy = 1) (hstate : m.ai.state ≠ .attack) : m.gain px py ux uy ≤ 17 := by
  obtain ⟨d, hfaces, hnear, -, -, hretreating, -⟩ := h.distance he
  rw [hfaces.gain hunit]
  split
  · norm_num at hnear
    linarith
  · cases h with
    | closing _ _ state => contradiction
    | retreating _ _ state => exact hretreating state
    | shooting _ _ state => contradiction

/-- A choice is a siege, before the move. -/
theorem SiegeChoice.siege (h : SiegeChoice ux uy d m.ai) (hfaces : m.Faces px py ux uy d)
    (hnear : 0.001 < d) (hfar : d ≤ 25.2) (hcooldown : m.ai.thinkCooldown = 0.3) :
    m.Siege px py ux uy 0 := by
  obtain ⟨hflee, hshoot, hchase⟩ := h
  have hdue : 0 < m.ai.thinkCooldown := by
    rw [hcooldown]
    norm_num
  rcases lt_or_ge d 11.9 with hlow | hlow
  · obtain ⟨hstate, hx, hy, hspeed⟩ := hflee hlow
    refine .retreating d hfaces hstate hx hy hspeed hdue hnear ?_
    rw [hcooldown]
    simpa using hlow.le
  · rcases le_or_gt d 17 with hhigh | hhigh
    · exact .shooting d hfaces (hshoot hlow hhigh) hlow hhigh
    · obtain ⟨hstate, hspeed⟩ := hchase hhigh
      refine .closing d hfaces hstate ?_ ?_ hdue ?_ hfar
      · exact hspeed.imp_right fun hs => hs.ge
      · rcases hspeed with hs | hs <;> rw [hs] <;> norm_num
      · rw [hcooldown]
        simpa using hhigh.le

/-- **A think keeps up the siege**, or begins to shoot. -/
theorem Monster.Siege.think (h : m.Siege px py ux uy dt) (hdt : dt ≤ 1 / 2)
    (hplace : m'.transform = m.transform) (hcooldown : m'.ai.thinkCooldown = 0.3)
    (hchoice : ∀ d, m.Faces px py ux uy d → 0.001 < d → d ≤ 25.2 → SiegeChoice ux uy d m'.ai) :
    m'.Siege px py ux uy 0 ∧ (m'.ai.state = m.ai.state ∨ m'.ai.state = .attack) := by
  obtain ⟨d, hfaces, hnear, hfar, hclosing, hretreating, hshooting⟩ := h.distance hdt
  have hchosen := hchoice d hfaces hnear hfar
  refine ⟨hchosen.siege (hfaces.congr hplace) hnear hfar hcooldown, ?_⟩
  obtain ⟨hflee, hshoot, hchase⟩ := hchosen
  cases h with
  | closing _ _ state =>
    rcases le_or_gt d 17 with hhigh | hhigh
    · exact .inr (hshoot (hclosing state) hhigh)
    · exact .inl ((hchase hhigh).1.trans state.symm)
  | retreating _ _ state =>
    rcases lt_or_ge d 11.9 with hlow | hlow
    · exact .inl ((hflee hlow).1.trans state.symm)
    · exact .inr (hshoot hlow (hretreating state))
  | shooting _ _ state =>
    obtain ⟨hlow, hhigh⟩ := hshooting state
    exact .inr (hshoot hlow hhigh)

/-- Waiting for its next think, the archer keeps to what it is at. -/
theorem Monster.Siege.wait (h : m.Siege px py ux uy dt) (hplace : m'.transform = m.transform)
    (hcooldown : m'.ai.thinkCooldown = m.ai.thinkCooldown - dt) (hwait : 0 < m'.ai.thinkCooldown)
    (hstate : m'.ai.state = m.ai.state) (hx : m'.ai.moveDirX = m.ai.moveDirX)
    (hy : m'.ai.moveDirY = m.ai.moveDirY) (hspeed : m'.ai.moveSpeed = m.ai.moveSpeed) :
    m'.Siege px py ux uy 0 := by
  cases h with
  | closing d faces state speed fast due near far =>
    refine .closing d (faces.congr hplace) (hstate.trans state) ?_ ?_ hwait ?_ far
    · rw [hspeed]
      exact speed
    · rw [hspeed]
      exact fast
    · rw [hcooldown]
      linarith
  | retreating d faces state dirX dirY speed due near far =>
    refine .retreating d (faces.congr hplace) (hstate.trans state) (hx.trans dirX) (hy.trans dirY)
      (hspeed.trans speed) hwait near ?_
    rw [hcooldown]
    linarith
  | shooting d faces state near far =>
    exact .shooting d (faces.congr hplace) (hstate.trans state) near far

/-- **A move keeps up the siege**, and the archer gets on. -/
theorem Monster.Siege.move [ExactRoots K] (h : env.Prey I hp pid px py) {s : σ} (hs : I s)
    (hm : m.Hunts pid) (hknown : m.ai.netSynced = true) (hunit : ux * ux + uy * uy = 1)
    (hdt : 0 < dt) (hdt' : dt ≤ 1 / 2) (hsiege : m.Siege px py ux uy 0) :
    let m' := (MovementSystem.update env dt s m).1
    m.StillHunts pid m' ∧ m'.Siege px py ux uy dt ∧ m'.ai.state = m.ai.state ∧
      (m.ai.state ≠ .attack → m.gain px py ux uy + 3.5 * dt ≤ m'.gain px py ux uy) := by
  intro m'
  cases hsiege with
  | closing d faces state speed fast due near far =>
    have hclose : 11.9 < d := by
      norm_num at near ⊢
      linarith
    obtain ⟨hstill, hfaces, hai⟩ := MovementSystem.update_chase dt h hs hm hknown faces
      hunit (lt_trans (by norm_num) hclose) state
    have hv : (5.5 : K) ≤ (if m.ai.moveSpeed ≤ 0 then 6 else m.ai.moveSpeed) ∧
        (if m.ai.moveSpeed ≤ 0 then 6 else m.ai.moveSpeed) ≤ (6 : K) := by
      split
      · norm_num
      · rename_i hfast
        refine ⟨?_, fast⟩
        rcases speed with hzero | hspeed
        · exact absurd hzero.le hfast
        · exact hspeed
    generalize (if m.ai.moveSpeed ≤ 0 then 6 else m.ai.moveSpeed : K) = v at *
    have hlow : 5.5 * dt ≤ v * dt := mul_le_mul_of_nonneg_right hv.1 hdt.le
    have hhigh : v * dt ≤ 6 * dt := mul_le_mul_of_nonneg_right hv.2 hdt.le
    have hstate : m'.ai.state = .chase := (congrArg CAI.state hai).trans state
    have hcooldown : m'.ai.thinkCooldown = m.ai.thinkCooldown :=
      (congrArg CAI.thinkCooldown hai).trans rfl
    have hspeed : m'.ai.moveSpeed = v := congrArg CAI.moveSpeed hai
    refine ⟨hstill, .closing _ hfaces hstate ?_ ?_ ?_ ?_ ?_, hstate.trans state.symm, fun _ => ?_⟩
    · exact .inr (hv.1.trans hspeed.ge)
    · exact hspeed.le.trans hv.2
    · rw [hcooldown]
      exact due
    · rw [hcooldown]
      linarith
    · have hpos := mul_pos (lt_of_lt_of_le (by norm_num) hv.1) hdt
      linarith
    · rw [faces.gain hunit, hfaces.gain hunit, if_pos state, if_pos hstate]
      norm_num at *
      linarith
  | retreating d faces state dirX dirY speed due near far =>
    obtain ⟨hstill, hfaces, hai⟩ := MovementSystem.update_return env dt s
      hm hknown faces hunit state dirX dirY speed
    have hstate : m'.ai.state = .return := (congrArg CAI.state hai).trans state
    refine ⟨hstill, .retreating _ hfaces hstate ?_ ?_ ?_ ?_ ?_ ?_, hstate.trans state.symm,
      fun _ => ?_⟩
    · exact (congrArg CAI.moveDirX hai).trans dirX
    · exact (congrArg CAI.moveDirY hai).trans dirY
    · exact (congrArg CAI.moveSpeed hai).trans speed
    · exact due.trans_eq (congrArg CAI.thinkCooldown hai).symm
    · norm_num at *
      linarith
    · rw [hai]
      norm_num at *
      linarith
    · have hmoves : m'.ai.state ≠ .chase := hstate.trans_ne (by decide)
      rw [faces.gain hunit, hfaces.gain hunit, if_neg (by simp [state]), if_neg hmoves]
  | shooting d faces state near far =>
    obtain ⟨hstill, hplace, hstate⟩ := MovementSystem.update_attack env dt s
      hm hknown state
    exact ⟨hstill, .shooting d (faces.congr hplace) hstate near far, hstate.trans state.symm,
      fun hne => absurd state hne⟩

/-- An archer at the siege of its target. -/
structure Monster.Besieges (pid : Nat) (px py ux uy e : K) (m : Monster K) : Prop where
  hunts : m.Hunts pid
  known : m.ai.netSynced = true
  siege : m.Siege px py ux uy e

/-- Timers and respawning have no part in it. -/
theorem Monster.Besieges.congr (h : m.Besieges pid px py ux uy e)
    (hplace : m'.transform = m.transform) (hstats : m'.stats = m.stats)
    (htype : m'.monsterType = m.monsterType) {attackTimer attackCd : K}
    (hai : m'.ai = { m.ai with attackTimer, attackCd }) : m'.Besieges pid px py ux uy e := by
  obtain ⟨hunts, hknown, hsiege⟩ := h
  obtain ⟨id, transform, stats, monsterType, spawnInfo, ai, prefabName⟩ := m'
  simp only at hplace hstats htype hai
  subst hplace hstats htype hai
  refine ⟨⟨hunts.archer, hunts.alive, hunts.strong, hunts.target⟩, hknown, ?_⟩
  cases hsiege with
  | closing d faces state speed fast due near far =>
    exact .closing d ⟨faces.x, faces.y⟩ state speed fast due near far
  | retreating d faces state dirX dirY speed due near far =>
    exact .retreating d ⟨faces.x, faces.y⟩ state dirX dirY speed due near far
  | shooting d faces state near far => exact .shooting d ⟨faces.x, faces.y⟩ state near far

variable [ExactRoots K]

/-- A pass of `AISystem` over an archer at its siege. -/
theorem Monster.Besieges.decide (h : env.Prey I hp pid px py) {s : σ} (hs : I s)
    (hunit : ux * ux + uy * uy = 1) (hdt : dt ≤ 1 / 2) (hm : m.Besieges pid px py ux uy dt)
    (policy : List K → Fin 5 → K) :
    let m' := (AISystem.update env policy dt s m).1
    m.StillHunts pid m' ∧ m'.transform = m.transform ∧ m'.Siege px py ux uy 0 ∧
      (m'.ai.state = m.ai.state ∨ m'.ai.state = .attack) := by
  intro m'
  obtain ⟨hunts, hknown, hsiege⟩ := hm
  rcases le_or_gt (m.ai.thinkCooldown - dt) 0 with hdue | hwait
  · have hupdate : ∀ d, m.Faces px py ux uy d → 0.001 < d → d ≤ 25.2 →
        m.StillHunts pid m' ∧ m'.transform = m.transform ∧ m'.ai.thinkCooldown = 0.3 ∧
          SiegeChoice ux uy d m'.ai := fun d hfaces hnear hfar =>
      AISystem.update_siege h hs hunts.archer hunts.alive hunts.strong hfaces hunit hnear hfar
        (.inl hunts.target) hdue policy
    obtain ⟨d, hfaces, hnear, hfar, -⟩ := hsiege.distance hdt
    obtain ⟨hstill, hplace, hcooldown, -⟩ := hupdate d hfaces hnear hfar
    obtain ⟨hnow, hstate⟩ := hsiege.think hdt hplace hcooldown fun d hfaces hnear hfar =>
      (hupdate d hfaces hnear hfar).2.2.2
    exact ⟨hstill, hplace, hnow, hstate⟩
  · obtain ⟨hstill, hplace, hcooldown, hstate, hx, hy, hspeed⟩ :=
      AISystem.update_siege_waits env s hunts hknown hwait policy
    refine ⟨hstill, hplace, ?_, .inl hstate⟩
    exact hsiege.wait hplace hcooldown (hcooldown ▸ hwait) hstate hx hy hspeed

/-- **A tick of an archer at its siege.** It goes on; until it shoots, it
gets on, and once it shoots, it goes on shooting: when its time has come
it attacks, and until then the time counts. -/
theorem Monster.Besieges.tick (h : env.Prey I hp pid px py) {s₂ s₃ s₄ : σ} (hs₂ : I s₂)
    (hs₃ : I s₃) (hs₄ : I s₄) (hunit : ux * ux + uy * uy = 1) (hdt : 0 < dt) (hdt' : dt ≤ 1 / 2)
    (hm : m.Besieges pid px py ux uy dt) (policy : List K → Fin 5 → K) :
    let m₃ := (MovementSystem.update env dt s₃ (AISystem.update env policy dt s₂ m).1).1
    let m' := (CombatSystem.update env dt s₄ m₃).1
    m'.Besieges pid px py ux uy dt ∧ m'.ai.attackCooldown = m.ai.attackCooldown ∧
      (m.ai.state ≠ .attack → m.gain px py ux uy ≤ 17 ∧
        (m'.ai.state ≠ .attack → m.gain px py ux uy + 3.5 * dt ≤ m'.gain px py ux uy)) ∧
      (m.ai.state = .attack → m'.ai.state = .attack ∧
        (CombatSystem.attackCall env dt s₄ m₃ = some pid ∨
          m.ai.attackTimer + dt < m.ai.attackCooldown ∧
            m'.ai.attackTimer = m.ai.attackTimer + dt)) := by
  intro m₃ m'
  obtain ⟨hstill, hplace, hsiege, hstate⟩ := hm.decide h hs₂ hunit hdt' policy
  obtain ⟨hstill', hsiege', hstate', hgain⟩ :=
    hsiege.move h hs₃ hstill.hunts hstill.known hunit hdt hdt'
  have hbesieges : m₃.Besieges pid px py ux uy dt := ⟨hstill'.hunts, hstill'.known, hsiege'⟩
  obtain ⟨_, _, hcombat⟩ := CombatSystem.update_fst env dt s₄ m₃
  have hafter : m'.ai.state = m₃.ai.state := by
    show (CombatSystem.update env dt s₄ m₃).1.ai.state = _
    rw [hcombat]
  have hgain' : m'.gain px py ux uy = m₃.gain px py ux uy := by
    show (CombatSystem.update env dt s₄ m₃).1.gain px py ux uy = _
    rw [hcombat]
    rfl
  have htimer : m₃.ai.attackTimer = m.ai.attackTimer := hstill'.timer.trans hstill.timer
  have hcooldown : m₃.ai.attackCooldown = m.ai.attackCooldown :=
    hstill'.cooldown.trans hstill.cooldown
  refine ⟨?_, ?_, fun hnot => ?_, fun hattack => ?_⟩
  · show (CombatSystem.update env dt s₄ m₃).1.Besieges pid px py ux uy dt
    rw [hcombat]
    exact hbesieges.congr rfl rfl rfl rfl
  · rw [← hcooldown]
    exact CombatSystem.update_attackCooldown dt s₄ m₃
  · refine ⟨hm.siege.gain_le hdt' hunit hnot, fun hnot' => ?_⟩
    have hsame := hstate.resolve_right fun hs => hnot' (hafter.trans (hstate'.trans hs))
    have hbefore : m.gain px py ux uy =
        (AISystem.update env policy dt s₂ m).1.gain px py ux uy := by
      unfold Monster.gain
      simp only
      rw [hplace, hsame]
    rw [hbefore, hgain']
    exact hgain (hsame.trans_ne hnot)
  · have hshoots : m₃.ai.state = .attack := by
      rw [hstate']
      rcases hstate with hs | hs
      · exact hs.trans hattack
      · exact hs
    refine ⟨hafter.trans hshoots, ?_⟩
    have hpos := h.position s₄ hs₄
    rw [← hstill'.hunts.target] at hpos
    obtain ⟨hnot, -⟩ | ⟨-, hwait, he⟩ | ⟨-, hdue, -, -⟩ := CombatSystem.update_cases env dt s₄ m₃
    · exact absurd hshoots hnot
    · have hwait := hwait.resolve_right (hpos.trans_ne (Option.some_ne_none _))
      have hcount : m'.ai.attackTimer = m₃.ai.attackTimer + dt := by
        show (CombatSystem.update env dt s₄ m₃).1.ai.attackTimer = _
        rw [he]
      rw [htimer, hcooldown] at hwait
      rw [htimer] at hcount
      exact .inr ⟨hwait, hcount⟩
    · unfold CombatSystem.attackCall
      rw [if_neg (not_not.mpr hshoots), if_neg hdue, hpos]
      exact .inl (congrArg some hstill'.hunts.target)

end

end MmorpgServer.Field
