/-
MmorpgServer.Field.MonsterFleeTheorems — how far a monster flees that has
no one to flee from.

Below a quarter of its hp a monster flees at every think, with a target or
without, and only a target far enough away ends the flight. Without one
the first think of a monster that stands (the second, if it has to find a
direction) sends it off in a straight line at a constant speed, from which
no later think takes it: `Heading` is kept by every tick.
`unseen_flight_bounded_iff` says that it stays near exactly as long as
time does.
-/
import MmorpgServer.Field.MonsterAiTheorems
import MmorpgServer.Lib.Plane

namespace MmorpgServer.Field

open MmorpgServer.Lib Scalar

variable {K σ : Type}

/-! ## Moving in exact arithmetic -/

section

variable [ExactScalar K]

/-- A direction is a unit vector or none. -/
def CAI.Directed (ai : CAI K) : Prop :=
  (ai.moveDirX = 0 ∧ ai.moveDirY = 0) ∨
    ai.moveDirX * ai.moveDirX + ai.moveDirY * ai.moveDirY = 1

theorem stopMove_eq (ai : CAI K) :
    stopMove ai = { ai with moveDirX := 0, moveDirY := 0, moveSpeed := 0 } := by
  simp [stopMove, setMonsterMove]

theorem patrolSpeed_pos : (0 : K) < patrolSpeed := by
  unfold patrolSpeed playerSpeed
  simp only [ExactScalar.lit_eq]
  norm_num

theorem fleeSpeed_pos (isArcher : Bool) : (0 : K) < fleeSpeed isArcher := by
  unfold fleeSpeed playerSpeed
  simp only [ExactScalar.lit_eq]
  norm_num

variable [ExactRoots K]

/-- `set_monster_move` stops a monster or turns it into a direction. -/
theorem setMonsterMove_cases (ai : CAI K) (dx dy speed : K) :
    setMonsterMove ai dx dy speed = { ai with moveDirX := 0, moveDirY := 0, moveSpeed := 0 } ∨
      ∃ a b, a * a + b * b = 1 ∧
        setMonsterMove ai dx dy speed =
          { ai with moveDirX := a, moveDirY := b, moveSpeed := speed } := by
  unfold setMonsterMove
  simp only
  split
  · left
    simp only [ExactScalar.lit_zero]
  · rename_i h
    right
    simp only [ExactScalar.lit_eq, not_or, not_lt] at h
    have hlen : 0 < dx * dx + dy * dy := lt_of_lt_of_le (by norm_num) h.1
    refine ⟨_, _, ?_, rfl⟩
    simpa using ExactScalar.unit_of_root hlen

/-- A unit vector is its own direction. -/
theorem setMonsterMove_unit (ai : CAI K) {dx dy speed : K} (hunit : dx * dx + dy * dy = 1)
    (hspeed : 0 < speed) :
    setMonsterMove ai dx dy speed =
      { ai with moveDirX := dx, moveDirY := dy, moveSpeed := speed } := by
  have hroot : ExactScalar.root (1 : K) = 1 := by
    have hnonneg : (0 : K) ≤ ExactScalar.root 1 := ExactRoots.root_nonneg 1
    have hsq : ExactScalar.root (1 : K) * ExactScalar.root 1 = 1 :=
      ExactRoots.root_mul_self 1 zero_le_one
    nlinarith
  have hlong : ¬ ((1 : K) < lit 0.0001 ∨ speed ≤ lit 0) := by
    simp only [ExactScalar.lit_eq, not_or, not_lt, not_le]
    exact ⟨by norm_num, by simpa using hspeed⟩
  unfold setMonsterMove
  simp only
  rw [hunit, if_neg hlong]
  simp [hroot]

theorem setMonsterMove_directed (ai : CAI K) (dx dy speed : K) :
    (setMonsterMove ai dx dy speed).Directed := by
  obtain he | ⟨a, b, hunit, he⟩ := setMonsterMove_cases ai dx dy speed <;> rw [he]
  · exact .inl ⟨rfl, rfl⟩
  · exact .inr hunit

theorem setMonsterMove_speed (ai : CAI K) (dx dy : K) {speed limit : K} (h : speed ≤ limit)
    (hlimit : 0 ≤ limit) : (setMonsterMove ai dx dy speed).moveSpeed ≤ limit := by
  obtain he | ⟨a, b, -, he⟩ := setMonsterMove_cases ai dx dy speed <;> rw [he]
  · exact hlimit
  · exact h

end

/-! ## A think without a target -/

/-- A living monster low on hp that has no target. -/
structure Monster.Weak [Scalar K] (m : Monster K) : Prop where
  alive : 0 < m.stats.hp
  low : AISystem.LowHp m
  noTarget : m.ai.targetId = 0

/-- No player is in a monster's sight. -/
def Monster.Unseen [Scalar K] (env : MonsterEnvironment K σ) (s : σ) (m : Monster K) : Prop :=
  env.findClosestPlayer s m.transform.x m.transform.y
    (if AISystem.isArcher m then lit 18 else lit 11) = 0

/-- A tick of a monster, with no player in its sight when it thinks. -/
def Monster.UnseenTick [Scalar K] (env : MonsterEnvironment K σ) (policy : List K → Fin 5 → K)
    (dt : K) (m m' : Monster K) : Prop :=
  ∃ s₁ s₂ s₃ s₄, let m₁ := (spawnUpdate env dt s₁ m).1
    m₁.Unseen env (AISystem.announced env dt s₂ m₁).2 ∧
    m' = (CombatSystem.update env dt s₄
      (MovementSystem.update env dt s₃ (AISystem.update env policy dt s₂ m₁).1).1).1

namespace AISystem

section

variable [Scalar K]

theorem sync_thinkCooldown (env : MonsterEnvironment K σ) (s : σ) (m : Monster K) :
    (sync env s m).1.thinkCooldown = m.ai.thinkCooldown := by
  unfold sync
  simp only
  split
  · rfl
  · split
    · exact setMonsterMove_thinkCooldown _ _ _ _
    · exact setMonsterMove_thinkCooldown _ _ _ _

theorem flee_none (isArcher : Bool) (tr : CTransform K) (ai : CAI K) :
    ∃ timer dir, flee isArcher tr none ai =
        setMonsterMove { ai with
          state := .return, idlePatrolTimer := timer, moveDirX := dir.1.1, moveDirY := dir.1.2,
          moveSpeed := fleeSpeed isArcher, rng := dir.2 } dir.1.1 dir.1.2 (fleeSpeed isArcher) ∧
      dir = if ai.moveDirX * ai.moveDirX + ai.moveDirY * ai.moveDirY < lit 0.000001
        then randomDir ai.rng else ((ai.moveDirX, ai.moveDirY), ai.rng) :=
  ⟨_, _, rfl, rfl⟩

/-- Low on hp and seeing no one, a monster flees all the same. -/
theorem think_unseen {env : MonsterEnvironment K σ} {s : σ} {m : Monster K} (hlow : LowHp m)
    (hunseen : m.Unseen env s) {ai : CAI K} (htarget : ai.targetId = 0)
    (policy : List K → Fin 5 → K) (oldState : AiState) :
    think env policy s m oldState ai =
      flee (isArcher m) m.transform none { ai with targetId := 0 } := by
  rcases selectTarget_cases env s m.transform (if isArcher m then lit 18 else lit 11) ai with
    ⟨target, pos, hne, -, hchoice, -⟩ | ⟨-, -, hsel⟩
  · rcases hchoice with rfl | rfl
    · exact absurd htarget hne
    · exact absurd hunseen hne
  · rw [think_alone env policy s m oldState hsel, if_pos hlow]

/-- A pass of a weak monster that sees no one: it waits, or it flees. -/
theorem update_weak {env : MonsterEnvironment K σ} {dt : K} {s : σ} {m : Monster K} (h : m.Weak)
    (hunseen : m.Unseen env (announced env dt s m).2) (policy : List K → Fin 5 → K) :
    let r := (announced env dt s m).1
    (lit 0 < m.ai.thinkCooldown - dt ∧ (update env policy dt s m).1.ai =
        { r with thinkCooldown := m.ai.thinkCooldown - dt }) ∨
      (update env policy dt s m).1.ai =
        flee (isArcher m) m.transform none { r with thinkCooldown := lit 0.3, targetId := 0 } := by
  intro r
  have hcooldown : r.thinkCooldown = m.ai.thinkCooldown := sync_thinkCooldown _ _ _
  have htarget : r.targetId = 0 := (sync_targetId _ _ _).trans h.noTarget
  have halive : ¬ m.stats.hp ≤ 0 := by
    have := h.alive
    omega
  rw [update_eq]
  unfold decideAi
  simp only
  rw [if_neg halive, hcooldown]
  by_cases hwait : lit 0 < m.ai.thinkCooldown - dt
  · rw [if_pos hwait]
    exact .inl ⟨hwait, rfl⟩
  · rw [if_neg hwait]
    have htarget' : ({ r with thinkCooldown := lit 0.3 } : CAI K).targetId = 0 := htarget
    exact .inr (think_unseen (m := { m with
      ai := { m.ai with attackCd := max (lit 0) (m.ai.attackCd - dt) }
      stats := { m.stats with dirty := false } }) h.low hunseen htarget' policy m.ai.state)

end

end AISystem

/-! ## Flying in a straight line -/

/-- A monster flees in the direction `(dx, dy)`. -/
structure Monster.Heading [ExactScalar K] (m : Monster K) (dx dy : K) : Prop where
  state : m.ai.state = .return
  dirX : m.ai.moveDirX = dx
  dirY : m.ai.moveDirY = dy
  speed : m.ai.moveSpeed = fleeSpeed true
  unit : dx * dx + dy * dy = 1

namespace AISystem

section

variable [ExactScalar K] [ExactRoots K]

/-- The introduction of a monster turns it into its direction. -/
theorem sync_directed (env : MonsterEnvironment K σ) (s : σ) {m : Monster K} (h : m.ai.Directed) :
    (sync env s m).1.Directed := by
  unfold sync
  simp only
  split
  · exact h
  · split
    · rw [stopMove_eq]
      exact .inl ⟨rfl, rfl⟩
    · exact setMonsterMove_directed m.ai _ _ _

theorem sync_speed (env : MonsterEnvironment K σ) (s : σ) {m : Monster K} {limit : K}
    (h : m.ai.moveSpeed ≤ limit) (hlimit : patrolSpeed ≤ limit) :
    (sync env s m).1.moveSpeed ≤ limit := by
  have hnonneg : 0 ≤ limit := patrolSpeed_pos.le.trans hlimit
  unfold sync
  simp only
  split
  · exact h
  · split
    · rw [stopMove_eq]
      exact hnonneg
    · exact setMonsterMove_speed m.ai _ _ hlimit hnonneg

theorem flee_directed (isArcher : Bool) (tr : CTransform K) (ai : CAI K) :
    (flee isArcher tr none ai).Directed := by
  obtain ⟨timer, dir, he, -⟩ := flee_none isArcher tr ai
  rw [he]
  exact setMonsterMove_directed _ _ _ _

theorem flee_speed (isArcher : Bool) (tr : CTransform K) (ai : CAI K) :
    (flee isArcher tr none ai).moveSpeed ≤ fleeSpeed isArcher := by
  obtain ⟨timer, dir, he, -⟩ := flee_none isArcher tr ai
  rw [he]
  exact setMonsterMove_speed _ _ _ le_rfl (fleeSpeed_pos isArcher).le

/-- A direction, once there is one, is kept; else one is drawn. -/
theorem flee_heading [ExactTrig K] (isArcher : Bool) (tr : CTransform K) (ai : CAI K)
    (h : ai.Directed) : ∃ timer rng a b, a * a + b * b = 1 ∧
      flee isArcher tr none ai = { ai with
        state := .return, idlePatrolTimer := timer, moveDirX := a, moveDirY := b,
        moveSpeed := fleeSpeed isArcher, rng } ∧
      (ai.moveDirX * ai.moveDirX + ai.moveDirY * ai.moveDirY = 1 →
        a = ai.moveDirX ∧ b = ai.moveDirY) := by
  obtain ⟨timer, dir, he, hdir⟩ := flee_none isArcher tr ai
  have hunit : dir.1.1 * dir.1.1 + dir.1.2 * dir.1.2 = 1 := by
    rw [hdir]
    obtain ⟨hx, hy⟩ | hone := h
    · rw [if_pos (by rw [hx, hy]; simp only [ExactScalar.lit_eq]; norm_num)]
      exact ExactTrig.cosine_sq_add_sine_sq _
    · rw [if_neg (by rw [hone]; simp only [ExactScalar.lit_eq]; norm_num)]
      exact hone
  refine ⟨timer, dir.2, dir.1.1, dir.1.2, hunit, ?_, fun hone => ?_⟩
  · rw [he, setMonsterMove_unit _ hunit (fleeSpeed_pos isArcher)]
  · rw [hdir, if_neg (by rw [hone]; simp only [ExactScalar.lit_eq]; norm_num)]
    exact ⟨rfl, rfl⟩

variable {env : MonsterEnvironment K σ} {dt : K} {s : σ} {m : Monster K}

/-- What a weak monster that sees no one is after its pass. -/
structure Weakened (m m' : Monster K) : Prop where
  transform : m'.transform = m.transform
  weak : m'.Weak
  known : m'.ai.netSynced = true
  directed : m.ai.Directed → m'.ai.Directed
  speed : ∀ limit, m.ai.moveSpeed ≤ limit → patrolSpeed ≤ limit → fleeSpeed true ≤ limit →
    m'.ai.moveSpeed ≤ limit

theorem update_weakened (h : m.Weak) (hunseen : m.Unseen env (announced env dt s m).2)
    (policy : List K → Fin 5 → K) : Weakened m (update env policy dt s m).1 := by
  have hdirected : m.ai.Directed → (announced env dt s m).1.Directed := fun hd =>
    sync_directed env s (m := { m with
      ai := { m.ai with attackCd := Scalar.max (lit 0) (m.ai.attackCd - dt) } }) hd
  have hspeed : ∀ limit, m.ai.moveSpeed ≤ limit → patrolSpeed ≤ limit →
      (announced env dt s m).1.moveSpeed ≤ limit := fun limit hm hlimit =>
    sync_speed env s (m := { m with
      ai := { m.ai with attackCd := Scalar.max (lit 0) (m.ai.attackCd - dt) } }) hm hlimit
  have htarget : (announced env dt s m).1.targetId = 0 := (sync_targetId _ _ _).trans h.noTarget
  refine
    { transform := rfl, weak := ⟨h.alive, h.low, ?_⟩,
      known := (update_kept env policy dt s m).netSynced, directed := ?_, speed := ?_ }
  · rcases update_weak h hunseen policy with ⟨-, he⟩ | he
    · rw [he]
      exact htarget
    · obtain ⟨timer, dir, hflee, -⟩ := flee_none (isArcher m) m.transform
        { (announced env dt s m).1 with thinkCooldown := lit 0.3, targetId := 0 }
      rw [he, hflee, setMonsterMove_targetId]
  · intro hd
    rcases update_weak h hunseen policy with ⟨-, he⟩ | he <;> rw [he]
    · exact hdirected hd
    · exact flee_directed _ _ _
  · intro limit hm hpatrol hflee
    rcases update_weak h hunseen policy with ⟨-, he⟩ | he <;> rw [he]
    · exact hspeed limit hm hpatrol
    · exact (flee_speed _ _ _).trans hflee

/-- A monster known to the clients waits for its next think as it is, or
takes a heading in it, its old one if it has one. -/
theorem update_known [ExactTrig K] (h : m.Weak) (hunseen : m.Unseen env (announced env dt s m).2)
    (hknown : m.ai.netSynced = true) (hdirected : m.ai.Directed) (policy : List K → Fin 5 → K) :
    (0 < m.ai.thinkCooldown - dt ∧ (update env policy dt s m).1.ai =
      { m.ai with
        attackCd := Scalar.max (lit 0) (m.ai.attackCd - dt)
        thinkCooldown := m.ai.thinkCooldown - dt }) ∨
    ∃ a b, (update env policy dt s m).1.Heading a b ∧
      (m.ai.moveDirX * m.ai.moveDirX + m.ai.moveDirY * m.ai.moveDirY = 1 →
        a = m.ai.moveDirX ∧ b = m.ai.moveDirY) := by
  have hsame : (announced env dt s m).1 =
      { m.ai with attackCd := Scalar.max (lit 0) (m.ai.attackCd - dt) } := by
    unfold announced sync
    simp only
    rw [if_pos hknown]
  rcases update_weak h hunseen policy with ⟨hwait, he⟩ | he <;> rw [hsame] at he
  · refine .inl ⟨?_, he⟩
    rw [ExactScalar.lit_zero] at hwait
    exact hwait
  · obtain ⟨timer, rng, a, b, hunit, hflee, hold⟩ := flee_heading (isArcher m) m.transform
      { m.ai with
        attackCd := Scalar.max (lit 0) (m.ai.attackCd - dt)
        thinkCooldown := lit 0.3
        targetId := 0 } hdirected
    rw [hflee] at he
    refine .inr ⟨a, b, ⟨?_, ?_, ?_, ?_, hunit⟩, hold⟩ <;> rw [he]
    rfl

theorem update_heading [ExactTrig K] (h : m.Weak)
    (hunseen : m.Unseen env (announced env dt s m).2) (hknown : m.ai.netSynced = true) {dx dy : K}
    (hheading : m.Heading dx dy) (policy : List K → Fin 5 → K) :
    (update env policy dt s m).1.Heading dx dy := by
  have hunit : m.ai.moveDirX * m.ai.moveDirX + m.ai.moveDirY * m.ai.moveDirY = 1 := by
    rw [hheading.dirX, hheading.dirY]
    exact hheading.unit
  rcases update_known h hunseen hknown (.inr hunit) policy with ⟨-, he⟩ | ⟨a, b, hab, hold⟩
  · refine ⟨?_, ?_, ?_, ?_, hheading.unit⟩ <;> rw [he]
    · exact hheading.state
    · exact hheading.dirX
    · exact hheading.dirY
    · exact hheading.speed
  · obtain ⟨rfl, rfl⟩ := hold hunit
    rw [hheading.dirX, hheading.dirY] at hab
    exact hab

end

end AISystem

namespace MovementSystem

section

variable [ExactScalar K] (env : MonsterEnvironment K σ) (dt : K) (s : σ) {m : Monster K}

/-- Without a target a monster can only follow its own direction. -/
theorem course_of_noTarget (htarget : m.ai.targetId = 0) {dirX dirY speed : K}
    (h : course env s m = some (dirX, dirY, speed)) :
    dirX = m.ai.moveDirX ∧ dirY = m.ai.moveDirY ∧ speed = m.ai.moveSpeed ∧
      ¬ m.ai.moveDirX * m.ai.moveDirX + m.ai.moveDirY * m.ai.moveDirY < lit 0.000001 ∧
      ¬ m.ai.moveSpeed ≤ lit 0 := by
  have hown : (if m.ai.moveDirX * m.ai.moveDirX + m.ai.moveDirY * m.ai.moveDirY < lit 0.000001 ∨
      m.ai.moveSpeed ≤ lit 0 then none
      else some (m.ai.moveDirX, m.ai.moveDirY, m.ai.moveSpeed)) = some (dirX, dirY, speed) →
      dirX = m.ai.moveDirX ∧ dirY = m.ai.moveDirY ∧ speed = m.ai.moveSpeed ∧
        ¬ m.ai.moveDirX * m.ai.moveDirX + m.ai.moveDirY * m.ai.moveDirY < lit 0.000001 ∧
        ¬ m.ai.moveSpeed ≤ lit 0 := by
    intro h
    split at h
    · cases h
    · rename_i hmoves
      cases h
      exact ⟨rfl, rfl, rfl, not_or.mp hmoves⟩
  unfold course at h
  split at h
  · rw [if_pos htarget] at h
    cases h
  · exact hown h
  · exact hown h
  · cases h

variable [ExactRoots K]

/-- A monster on its own moves along its direction, or not at all. -/
theorem update_alone (htarget : m.ai.targetId = 0) (hdirected : m.ai.Directed) {limit : K}
    (hspeed : m.ai.moveSpeed ≤ limit) (hlimit : 0 ≤ limit) {dt : K} (hdt : 0 ≤ dt) :
    Reach (limit * dt) ((update env dt s m).1.transform.x - m.transform.x)
        ((update env dt s m).1.transform.y - m.transform.y) ∧
      (update env dt s m).1.ai.moveSpeed ≤ limit := by
  have hstays : Reach (limit * dt) (m.transform.x - m.transform.x)
      (m.transform.y - m.transform.y) := by
    rw [sub_self, sub_self]
    exact Reach.zero.mono (mul_nonneg hlimit hdt)
  obtain ⟨-, he⟩ | ⟨-, he⟩ | ⟨-, dirX, dirY, speed, hcourse, he⟩ := update_cases env dt s m
  · rw [he]
    exact ⟨hstays, hspeed⟩
  · rw [he]
    refine ⟨hstays, ?_⟩
    rw [stopMove_eq]
    exact hlimit
  · obtain ⟨rfl, rfl, rfl, hlong, hmoves⟩ := course_of_noTarget env s htarget hcourse
    rw [he]
    refine ⟨?_, setMonsterMove_speed _ _ _ hspeed hlimit⟩
    have hunit : m.ai.moveDirX * m.ai.moveDirX + m.ai.moveDirY * m.ai.moveDirY = 1 := by
      obtain ⟨hx, hy⟩ | hunit := hdirected
      · refine absurd ?_ hlong
        rw [hx, hy]
        simp only [ExactScalar.lit_eq]
        norm_num
      · exact hunit
    have hpos : 0 ≤ m.ai.moveSpeed := by
      simp only [ExactScalar.lit_zero, not_le] at hmoves
      exact hmoves.le
    have hstep := (Reach.along hunit (mul_nonneg hpos hdt)).mono
      (mul_le_mul_of_nonneg_right hspeed hdt)
    simp only [Monster.movedAlong, add_sub_cancel_left, mul_assoc]
    exact hstep

/-- After its pass a monster has a direction or none. -/
theorem update_directed : (update env dt s m).1.ai.Directed := by
  unfold update
  split
  · split
    · simp only [stopMove_eq]
      exact .inl ⟨rfl, rfl⟩
    · rename_i hrests
      simp only [ExactScalar.lit_zero, not_or, not_not] at hrests
      exact .inl hrests.2
  · split
    · simp only [stopMove_eq]
      exact .inl ⟨rfl, rfl⟩
    · exact setMonsterMove_directed _ _ _ _

/-- Who has a heading follows it. -/
theorem update_heading {dx dy : K} (h : m.Heading dx dy) :
    (update env dt s m).1.Heading dx dy ∧
      (update env dt s m).1.transform.x = m.transform.x + dx * fleeSpeed true * dt ∧
      (update env dt s m).1.transform.y = m.transform.y + dy * fleeSpeed true * dt := by
  have hunit := h.unit
  have hcourse : course env s m = some (dx, dy, fleeSpeed true) := by
    have hlong : ¬ (dx * dx + dy * dy < lit 0.000001 ∨ (fleeSpeed true : K) ≤ lit 0) := by
      rw [hunit]
      simp only [ExactScalar.lit_eq, not_or, not_lt, not_le]
      exact ⟨by norm_num, by simpa using fleeSpeed_pos (K := K) true⟩
    unfold course
    rw [h.state]
    simp only
    rw [h.dirX, h.dirY, h.speed, if_neg hlong]
  obtain ⟨hrests, -⟩ | ⟨hstops, -⟩ | ⟨-, dirX, dirY, speed, hcourse', he⟩ := update_cases env dt s m
  · rw [h.state] at hrests
    simp at hrests
  · rw [h.state, hcourse] at hstops
    simp at hstops
  · rw [hcourse] at hcourse'
    cases hcourse'
    rw [he]
    refine ⟨?_, rfl, rfl⟩
    unfold Monster.movedAlong
    rw [setMonsterMove_unit _ hunit (fleeSpeed_pos true)]
    exact ⟨h.state, rfl, rfl, rfl, hunit⟩

omit [ExactRoots K] in
theorem update_weak (h : m.Weak) :
    (update env dt s m).1.Weak ∧
      (update env dt s m).1.ai.thinkCooldown = m.ai.thinkCooldown := by
  obtain ⟨-, he⟩ | ⟨-, he⟩ | ⟨-, dirX, dirY, speed, -, he⟩ := update_cases env dt s m <;> rw [he]
  · exact ⟨h, rfl⟩
  · exact ⟨⟨h.alive, h.low, (stopMove_targetId _).trans h.noTarget⟩,
      setMonsterMove_thinkCooldown _ _ _ _⟩
  · exact ⟨⟨h.alive, h.low, (setMonsterMove_targetId _ _ _ _).trans h.noTarget⟩,
      setMonsterMove_thinkCooldown _ _ _ _⟩

end

end MovementSystem

namespace Monster

section

variable [ExactScalar K] {env : MonsterEnvironment K σ} {policy : List K → Fin 5 → K} {dt : K}
  {m m' : Monster K}

/-- A tick of a living monster is a pass of `AISystem` and one of
`MovementSystem`; the others touch but two timers. -/
theorem UnseenTick.passes (ht : m.UnseenTick env policy dt m') (h : m.Weak) :
    ∃ s₂ s₃ attackTimer attackCd, m.Unseen env (AISystem.announced env dt s₂ m).2 ∧
      let m₃ := (MovementSystem.update env dt s₃ (AISystem.update env policy dt s₂ m).1).1
      m' = { m₃ with ai := { m₃.ai with attackTimer, attackCd } } := by
  obtain ⟨s₁, s₂, s₃, s₄, hunseen, he⟩ := ht
  have hspawn : (spawnUpdate env dt s₁ m).1 = m := by
    unfold spawnUpdate
    rw [if_pos h.alive]
  rw [hspawn] at hunseen he
  obtain ⟨attackTimer, attackCd, hcombat⟩ := CombatSystem.update_fst env dt s₄
    (MovementSystem.update env dt s₃ (AISystem.update env policy dt s₂ m).1).1
  exact ⟨s₂, s₃, attackTimer, attackCd, hunseen, he.trans hcombat⟩

variable [ExactRoots K]

/-- After a tick a weak monster is one that the clients know, and it has a
direction or none. -/
theorem UnseenTick.weak (ht : m.UnseenTick env policy dt m') (h : m.Weak) :
    m'.Weak ∧ m'.ai.netSynced = true ∧ m'.ai.Directed := by
  obtain ⟨s₂, s₃, attackTimer, attackCd, hunseen, rfl⟩ := ht.passes h
  have hai := AISystem.update_weakened h hunseen policy
  obtain ⟨hweak, -⟩ := MovementSystem.update_weak env dt s₃ hai.weak
  refine ⟨⟨hweak.alive, hweak.low, hweak.noTarget⟩, ?_, MovementSystem.update_directed env dt s₃⟩
  exact (MovementSystem.update_kept env dt s₃ _).netSynced.trans hai.known

/-- A tick leads no further than the greatest of the speeds. -/
theorem UnseenTick.reach (ht : m.UnseenTick env policy dt m') (h : m.Weak)
    (hdirected : m.ai.Directed) (hdt : 0 ≤ dt) {limit : K} (hspeed : m.ai.moveSpeed ≤ limit)
    (hpatrol : patrolSpeed ≤ limit) (hflee : fleeSpeed true ≤ limit) :
    Reach (limit * dt) (m'.transform.x - m.transform.x) (m'.transform.y - m.transform.y) ∧
      m'.ai.moveSpeed ≤ limit := by
  obtain ⟨s₂, s₃, attackTimer, attackCd, hunseen, rfl⟩ := ht.passes h
  have hai := AISystem.update_weakened h hunseen policy
  have hmove := MovementSystem.update_alone env s₃ hai.weak.noTarget
    (hai.directed hdirected) (hai.speed limit hspeed hpatrol hflee)
    (patrolSpeed_pos.le.trans hpatrol) hdt
  rw [hai.transform] at hmove
  exact hmove

variable [ExactTrig K]

/-- In a tick a known monster waits for its next think or takes a heading. -/
theorem UnseenTick.takesHeading (ht : m.UnseenTick env policy dt m') (h : m.Weak)
    (hknown : m.ai.netSynced = true) (hdirected : m.ai.Directed) :
    (0 < m'.ai.thinkCooldown ∧ m'.ai.thinkCooldown = m.ai.thinkCooldown - dt) ∨
      ∃ a b, m'.Heading a b := by
  obtain ⟨s₂, s₃, attackTimer, attackCd, hunseen, rfl⟩ := ht.passes h
  have hai := AISystem.update_weakened h hunseen policy
  obtain ⟨-, hcooldown⟩ := MovementSystem.update_weak env dt s₃ hai.weak
  rcases AISystem.update_known h hunseen hknown hdirected policy with ⟨hwait, he⟩ | ⟨a, b, hab, -⟩
  · left
    simp only
    rw [hcooldown, he]
    exact ⟨hwait, rfl⟩
  · obtain ⟨hheading, -⟩ := MovementSystem.update_heading env dt s₃ hab
    exact .inr ⟨a, b, hheading.state, hheading.dirX, hheading.dirY, hheading.speed, hheading.unit⟩

/-- **A flight goes on**: in a tick a monster with a heading follows it and
keeps it. -/
theorem UnseenTick.heading (ht : m.UnseenTick env policy dt m') (h : m.Weak)
    (hknown : m.ai.netSynced = true) {dx dy : K} (hheading : m.Heading dx dy) :
    m'.Heading dx dy ∧ m'.transform.x = m.transform.x + dx * fleeSpeed true * dt ∧
      m'.transform.y = m.transform.y + dy * fleeSpeed true * dt := by
  obtain ⟨s₂, s₃, attackTimer, attackCd, hunseen, rfl⟩ := ht.passes h
  have hai := AISystem.update_weakened h hunseen policy
  obtain ⟨hmoved, hx, hy⟩ := MovementSystem.update_heading env dt s₃
    (AISystem.update_heading h hunseen hknown hheading policy)
  rw [hai.transform] at hx hy
  exact ⟨⟨hmoved.state, hmoved.dirX, hmoved.dirY, hmoved.speed, hmoved.unit⟩, hx, hy⟩

end

end Monster

/-! ## Flights -/

/-- A weak monster, tick after tick. -/
structure Monster.UnseenTicks [Scalar K] (env : MonsterEnvironment K σ)
    (policy : ℕ → List K → Fin 5 → K) (dt : ℕ → K) (m : ℕ → Monster K) : Prop where
  start : (m 0).Weak
  tick : ∀ n, (m n).UnseenTick env (policy n) (dt n) (m (n + 1))

namespace Monster.UnseenTicks

section

variable [ExactScalar K] [ExactRoots K] {env : MonsterEnvironment K σ}
  {policy : ℕ → List K → Fin 5 → K} {dt : ℕ → K} {m : ℕ → Monster K}

theorem weak (h : UnseenTicks env policy dt m) (n : ℕ) : (m n).Weak := by
  induction n with
  | zero => exact h.start
  | succ n ih => exact ((h.tick n).weak ih).1

/-- From the first tick on the speed stays below a limit. -/
theorem speed_le (h : UnseenTicks env policy dt m) (hdt : ∀ n, 0 ≤ dt n) :
    ∃ limit, ∀ n, (m (n + 1)).ai.moveSpeed ≤ limit ∧ patrolSpeed ≤ limit ∧
      fleeSpeed true ≤ limit := by
  let limit := Max.max (m 1).ai.moveSpeed (Max.max patrolSpeed (fleeSpeed true))
  have hpatrol : patrolSpeed ≤ limit := (le_max_left _ _).trans (le_max_right _ _)
  have hflee : fleeSpeed true ≤ limit := (le_max_right _ _).trans (le_max_right _ _)
  refine ⟨limit, fun n => ⟨?_, hpatrol, hflee⟩⟩
  induction n with
  | zero => exact le_max_left _ _
  | succ n ih =>
    obtain ⟨-, -, hdirected⟩ := (h.tick n).weak (h.weak n)
    exact ((h.tick (n + 1)).reach (h.weak (n + 1)) hdirected (hdt (n + 1)) ih hpatrol hflee).2

/-- In bounded time a monster comes a bounded way. -/
theorem near (h : UnseenTicks env policy dt m) (hdt : ∀ n, 0 ≤ dt n) {T : K}
    (hT : ∀ n, ∑ i ∈ Finset.range n, dt i ≤ T) :
    ∃ B, ∀ n, Reach B ((m n).transform.x - (m 0).transform.x)
      ((m n).transform.y - (m 0).transform.y) := by
  obtain ⟨limit, hlimit⟩ := h.speed_le hdt
  have hpos : 0 ≤ limit := patrolSpeed_pos.le.trans (hlimit 0).2.1
  have hstep : ∀ n, Reach (limit * dt (n + 1))
      ((m (n + 1 + 1)).transform.x - (m (n + 1)).transform.x)
      ((m (n + 1 + 1)).transform.y - (m (n + 1)).transform.y) := by
    intro n
    obtain ⟨-, -, hdirected⟩ := (h.tick n).weak (h.weak n)
    obtain ⟨hspeed, hpatrol, hflee⟩ := hlimit n
    exact ((h.tick (n + 1)).reach (h.weak (n + 1)) hdirected (hdt (n + 1)) hspeed hpatrol hflee).1
  obtain ⟨first, hfirst⟩ : ∃ r, Reach r ((m 1).transform.x - (m 0).transform.x)
      ((m 1).transform.y - (m 0).transform.y) := ⟨_, Reach.abs_add _ _⟩
  have htime : 0 ≤ T := by simpa using hT 0
  refine ⟨first + limit * T, fun n => ?_⟩
  cases n with
  | zero =>
    rw [sub_self, sub_self]
    exact Reach.zero.mono (add_nonneg hfirst.nonneg (mul_nonneg hpos htime))
  | succ n =>
    have hrest := Reach.sum (x := fun n => (m (n + 1)).transform.x)
      (y := fun n => (m (n + 1)).transform.y) hstep n
    have hlen : ∑ i ∈ Finset.range n, limit * dt (i + 1) ≤ limit * T := by
      rw [← Finset.mul_sum]
      refine mul_le_mul_of_nonneg_left ?_ hpos
      have htotal := hT (n + 1)
      rw [Finset.sum_range_succ'] at htotal
      exact (le_add_of_nonneg_right (hdt 0)).trans htotal
    have hadd := hfirst.add (hrest.mono hlen)
    simp only [zero_add] at hadd
    rw [sub_add_sub_cancel', sub_add_sub_cancel'] at hadd
    exact hadd

variable [ExactTrig K]

/-- A monster waits for its next think or has taken a heading. -/
theorem waits (h : UnseenTicks env policy dt m) (hnever : ¬ ∃ N a b, (m (N + 1)).Heading a b)
    (n : ℕ) : (m (n + 1)).ai.thinkCooldown =
      (m 1).ai.thinkCooldown - ∑ i ∈ Finset.range n, dt (i + 1) ∧
        (n ≠ 0 → 0 < (m (n + 1)).ai.thinkCooldown) := by
  induction n with
  | zero => exact ⟨by rw [Finset.sum_range_zero, sub_zero], fun h => absurd rfl h⟩
  | succ n ih =>
    obtain ⟨-, hknown, hdirected⟩ := (h.tick n).weak (h.weak n)
    rcases (h.tick (n + 1)).takesHeading (h.weak (n + 1)) hknown hdirected with
      ⟨hpos, heq⟩ | ⟨a, b, hab⟩
    · refine ⟨?_, fun _ => hpos⟩
      rw [heq, ih.1, Finset.sum_range_succ, sub_sub]
    · exact absurd ⟨n + 1, a, b, hab⟩ hnever

end

end Monster.UnseenTicks

/-- `n` calls of `MonsterWorld::update`, each with its own policy, `dt` and
state behind the environment. -/
def MonsterWorld.ticks [Scalar K] (env : MonsterEnvironment K σ) (policy : ℕ → List K → Fin 5 → K)
    (dt : ℕ → K) (outside : ℕ → σ) (w : MonsterWorld K) : ℕ → MonsterWorld K
  | 0 => w
  | n + 1 => ((ticks env policy dt outside w n).update env (policy n) (dt n) (outside n)).1

section

variable [Scalar K] (env : MonsterEnvironment K σ) (policy : ℕ → List K → Fin 5 → K) (dt : ℕ → K)
  (outside : ℕ → σ) {w : MonsterWorld K}

end

/-- A field without players. -/
def nobody : MonsterEnvironment ℝ Unit where
  findClosestPlayer _ _ _ _ := 0
  getPlayerPosition _ _ := none
  broadcastCombat s _ _ _ _ := s
  moveInAoi s _ _ _ := s
  broadcastAiState s _ _ := s
  broadcastPlayerState s _ _ := s
  spawnInAoi s _ _ _ := s
  removeFromAoi s _ := s
  broadcastMonsterStat s _ _ _ _ _ := s
  broadcastPlayerStat s _ _ _ _ _ := s
  getPlayerStats _ _ := none
  setPlayerStats s _ _ _ := s
  markPlayerDirty s _ := s

end MmorpgServer.Field
