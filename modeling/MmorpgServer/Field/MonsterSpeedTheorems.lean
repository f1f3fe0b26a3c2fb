/-
MmorpgServer.Field.MonsterSpeedTheorems — how fast a monster moves.

Whatever a monster thinks, `set_monster_move` leaves it with a unit vector
or none and with one of the speeds of `core_types.h`; `MovementSystem`
adds one of its own, for a chase that begins from rest. So a monster
carries a pace (`Paced`) from every pass to the next, and how far it comes
between two states of a run is the time passed at the greatest of these
speeds, 6, as long as it does not respawn (`worldSystem_reach`); and as
long as no respawn delay is set, none does (`worldSystem_respawns_not`).
-/
import MmorpgServer.Field.MonsterFormationTheorems
import MmorpgServer.Field.MonsterRateTheorems
import MmorpgServer.Field.MonsterReplicaTheorems

namespace MmorpgServer.Field

open MmorpgServer.Lib Scalar

variable {K σ : Type} [ExactScalar K]

/-- A direction or none, and a speed of at most 6. -/
structure CAI.Paced (ai : CAI K) : Prop where
  directed : ai.Directed
  speed : ai.moveSpeed ≤ 6

theorem patrolSpeed_le : (patrolSpeed : K) ≤ 6 := by
  unfold patrolSpeed playerSpeed
  simp only [ExactScalar.lit_eq]
  norm_num

theorem chaseSpeed_le (isArcher : Bool) : (chaseSpeed isArcher : K) ≤ 6 := by
  unfold chaseSpeed playerSpeed
  simp only [ExactScalar.lit_eq]
  norm_num

theorem fleeSpeed_le (isArcher : Bool) : (fleeSpeed isArcher : K) ≤ 6 := by
  unfold fleeSpeed playerSpeed
  simp only [ExactScalar.lit_eq]
  norm_num

theorem stopMove_paced (ai : CAI K) : (stopMove ai).Paced := by
  rw [stopMove_eq]
  exact ⟨.inl ⟨rfl, rfl⟩, by simp⟩

/-- The step is a tick in which the monster comes back to life. -/
def WorldState.Respawns (mid : Nat) (p : WorldState K σ × WorldAction K σ) : Prop :=
  ∃ policy dt, p.2 = .update policy dt ∧ ∃ m ∈ p.1.world.monsters, m.id = mid ∧ m.Awaits ∧
    ¬ m.spawnInfo.respawnTimer + dt < m.spawnInfo.respawnDelay

section

variable [ExactRoots K]

theorem setMonsterMove_paced (ai : CAI K) (dx dy : K) {speed : K} (h : speed ≤ 6) :
    (setMonsterMove ai dx dy speed).Paced :=
  ⟨setMonsterMove_directed ai dx dy speed, setMonsterMove_speed ai dx dy h (by norm_num)⟩

/-! ## Thinking -/

namespace AISystem

omit [ExactRoots K] in
theorem selectTarget_paced (env : MonsterEnvironment K σ) (s : σ) (tr : CTransform K)
    (sightRange : K) {ai : CAI K} (h : ai.Paced) :
    (selectTarget env s tr sightRange ai).1.Paced := by
  rcases selectTarget_cases env s tr sightRange ai with ⟨_, _, -, -, -, he⟩ | ⟨-, -, he⟩ <;> rw [he]
  · exact ⟨h.directed, h.speed⟩
  · exact ⟨h.directed, h.speed⟩

theorem flee_paced (isArcher : Bool) (tr : CTransform K) (pos : Option (K × K)) (ai : CAI K) :
    (flee isArcher tr pos ai).Paced := by
  refine iteInduction (motive := CAI.Paced) (fun _ => ?_) fun _ => ?_
  · have h := stopMove_paced { ai with targetId := 0, state := .idle }
    rw [stopMove_eq] at h ⊢
    exact ⟨h.directed, h.speed⟩
  · exact setMonsterMove_paced _ _ _ (fleeSpeed_le isArcher)

theorem wander_paced {ai : CAI K} (h : ai.Paced) : (wander ai).Paced := by
  unfold wander
  split
  · simp only
    split
    · exact setMonsterMove_paced _ _ _ patrolSpeed_le
    · exact stopMove_paced _
  · simp only
    split
    · exact stopMove_paced _
    · exact setMonsterMove_paced _ _ _ h.speed

theorem archer_paced (tr : CTransform K) (pos : K × K) (ai : CAI K) : (archer tr pos ai).Paced := by
  unfold archer
  simp only
  split
  · exact setMonsterMove_paced _ _ _ (fleeSpeed_le true)
  · split
    · exact stopMove_paced _
    · exact setMonsterMove_paced _ _ _ (chaseSpeed_le true)

theorem melee_paced (policy : List K → Fin 5 → K) (tr : CTransform K) (stats : CStats)
    (pos : K × K) (oldState : AiState) {ai : CAI K} (h : ai.Paced) :
    (melee policy tr stats pos oldState ai).Paced := by
  unfold melee
  simp only
  split
  · exact stopMove_paced _
  · exact setMonsterMove_paced _ _ _ (chaseSpeed_le false)
  · exact setMonsterMove_paced _ _ _ (fleeSpeed_le false)
  · exact stopMove_paced _
  · exact ⟨h.directed, h.speed⟩

omit [ExactRoots K] in
theorem disengage_paced (ai : CAI K) : (disengage ai).Paced := by
  have h := stopMove_paced { ai with targetId := 0, state := .idle }
  unfold disengage
  rw [stopMove_eq] at h ⊢
  exact ⟨h.directed, h.speed⟩

theorem think_paced (env : MonsterEnvironment K σ) (policy : List K → Fin 5 → K) (s : σ)
    (m : Monster K) (oldState : AiState) {ai : CAI K} (h : ai.Paced) :
    (think env policy s m oldState ai).Paced := by
  have hsel := selectTarget_paced env s m.transform (if isArcher m then lit 18 else lit 11) h
  unfold think
  simp only
  generalize selectTarget env s m.transform (if isArcher m then lit 18 else lit 11) ai = sel at *
  refine iteInduction (motive := CAI.Paced) (fun _ => disengage_paced _) fun _ => ?_
  refine iteInduction (motive := CAI.Paced) (fun _ => flee_paced _ _ _ _) fun _ => ?_
  refine iteInduction (motive := CAI.Paced) (fun _ => wander_paced hsel) fun _ => ?_
  cases sel.2 with
  | none => exact stopMove_paced _
  | some pos =>
    refine iteInduction (motive := CAI.Paced) (fun _ => ?_) fun _ => ?_
    · exact archer_paced _ _ _
    · exact melee_paced _ _ _ _ _ hsel

theorem sync_paced (env : MonsterEnvironment K σ) (s : σ) {m : Monster K} (h : m.ai.Paced) :
    (sync env s m).1.Paced :=
  ⟨sync_directed env s h.directed, sync_speed env s h.speed patrolSpeed_le⟩

theorem update_paced (env : MonsterEnvironment K σ) (policy : List K → Fin 5 → K) (dt : K) (s : σ)
    {m : Monster K} (h : m.ai.Paced) : (update env policy dt s m).1.ai.Paced := by
  have hsync : (announced env dt s m).1.Paced := sync_paced env s (m := { m with
    ai := { m.ai with attackCd := Scalar.max (lit 0) (m.ai.attackCd - dt) } })
    ⟨h.directed, h.speed⟩
  rw [update_eq]
  unfold decideAi
  simp only
  split
  · exact stopMove_paced _
  · split
    · exact ⟨hsync.directed, hsync.speed⟩
    · exact think_paced _ _ _ _ _ ⟨hsync.directed, hsync.speed⟩

end AISystem

/-! ## Moving -/

namespace MovementSystem

/-- A course is a unit vector, and a speed of at most 6. -/
theorem course_paced {env : MonsterEnvironment K σ} {s : σ} {m : Monster K} (h : m.ai.Paced)
    {dirX dirY speed : K} (hcourse : course env s m = some (dirX, dirY, speed)) :
    dirX * dirX + dirY * dirY = 1 ∧ 0 ≤ speed ∧ speed ≤ 6 := by
  have hown : (if m.ai.moveDirX * m.ai.moveDirX + m.ai.moveDirY * m.ai.moveDirY < lit 0.000001 ∨
      m.ai.moveSpeed ≤ lit 0 then none
      else some (m.ai.moveDirX, m.ai.moveDirY, m.ai.moveSpeed)) = some (dirX, dirY, speed) →
      dirX * dirX + dirY * dirY = 1 ∧ 0 ≤ speed ∧ speed ≤ 6 := by
    intro h'
    split at h'
    · cases h'
    · rename_i hmoves
      cases h'
      simp only [ExactScalar.lit_eq, not_or, not_lt, not_le] at hmoves
      refine ⟨?_, by simpa using hmoves.2.le, h.speed⟩
      obtain ⟨hx, hy⟩ | hunit := h.directed
      · rw [hx, hy] at hmoves
        norm_num at hmoves
      · exact hunit
  unfold course at hcourse
  split at hcourse
  · split at hcourse
    · cases hcourse
    · simp only at hcourse
      split at hcourse
      · cases hcourse
      · rename_i hlong
        cases hcourse
        simp only [ExactScalar.lit_eq, ExactScalar.sqrt_eq, not_lt] at hlong ⊢
        refine ⟨?_, ?_, ?_⟩
        · simpa using ExactScalar.unit_of_root (lt_of_lt_of_le (by norm_num) hlong)
        · split
          · norm_num
          · rename_i hslow
            simpa using (not_le.mp hslow).le
        · split
          · norm_num
          · exact h.speed
  · exact hown hcourse
  · exact hown hcourse
  · cases hcourse

theorem update_paced (env : MonsterEnvironment K σ) (dt : K) (s : σ) {m : Monster K}
    (h : m.ai.Paced) : (update env dt s m).1.ai.Paced := by
  obtain ⟨-, he⟩ | ⟨-, he⟩ | ⟨-, dirX, dirY, speed, hcourse, he⟩ := update_cases env dt s m <;>
    rw [he]
  · exact h
  · exact stopMove_paced _
  · exact setMonsterMove_paced _ _ _ (course_paced h hcourse).2.2

/-- A pass leads no further than 6 a second. -/
theorem update_reach (env : MonsterEnvironment K σ) {dt : K} (hdt : 0 ≤ dt) (s : σ) {m : Monster K}
    (h : m.ai.Paced) :
    Reach (6 * dt) ((update env dt s m).1.transform.x - m.transform.x)
      ((update env dt s m).1.transform.y - m.transform.y) := by
  have hstays : Reach (6 * dt) (m.transform.x - m.transform.x)
      (m.transform.y - m.transform.y) := by
    rw [sub_self, sub_self]
    exact Reach.zero.mono (mul_nonneg (by norm_num) hdt)
  obtain ⟨-, he⟩ | ⟨-, he⟩ | ⟨-, dirX, dirY, speed, hcourse, he⟩ := update_cases env dt s m <;>
    rw [he]
  · exact hstays
  · exact hstays
  · obtain ⟨hunit, hpos, hspeed⟩ := course_paced h hcourse
    have hstep := (Reach.along hunit (mul_nonneg hpos hdt)).mono
      (mul_le_mul_of_nonneg_right hspeed hdt)
    simp only [Monster.movedAlong, add_sub_cancel_left, mul_assoc]
    exact hstep

end MovementSystem

/-! ## Runs -/

variable {env : MonsterEnvironment K σ} {R : σ → σ → Prop} {st : WorldState K σ}

variable (env) in
omit [ExactRoots K] in
theorem spawnUpdate_paced (dt : K) (s : σ) {m : Monster K} (h : m.ai.Paced) :
    (spawnUpdate env dt s m).1.ai.Paced := by
  obtain ⟨-, he⟩ | ⟨-, -, he⟩ | ⟨-, -, he⟩ := spawnUpdate_cases env dt s m <;> rw [he]
  · exact h
  · exact h
  · exact ⟨h.directed, h.speed⟩

theorem MonsterStep.paced {a : WorldAction K σ} {m m' : Monster K}
    (hstep : MonsterStep env st a m m')
    (h : m.ai.Paced) : m'.ai.Paced := by
  cases hstep with
  | same => exact h
  | delayed => exact h
  | hit =>
    unfold MonsterWorld.hit
    simp only
    split
    · exact ⟨h.directed, h.speed⟩
    · exact h
  | @tick policy dt _ m₁ s₂ v hv hpasses =>
    obtain ⟨s₁, rfl⟩ := hpasses.respawn
    obtain ⟨s₃, hs₃⟩ := hpasses.move
    have hdecided := AISystem.update_paced env policy dt s₂ (spawnUpdate_paced env dt s₁ h)
    have hmoved := MovementSystem.update_paced env dt s₃ hdecided
    obtain ⟨_, _, he⟩ := CombatSystem.update_fst env dt v.1 v.2
    rw [he, hs₃]
    exact ⟨hmoved.directed, hmoved.speed⟩

/-- In a step that does not respawn it a monster comes no further than the
step lasts at a speed of 6. -/
theorem MonsterStep.reach {a : WorldAction K σ} {m m' : Monster K}
    (hstep : MonsterStep env st a m m')
    (hm : m ∈ st.world.monsters) (hrespawn : ¬ WorldState.Respawns m.id (st, a))
    (hdt : 0 ≤ a.duration) (h : m.ai.Paced) :
    Reach (6 * a.duration) (m'.transform.x - m.transform.x) (m'.transform.y - m.transform.y) := by
  have hstays : Reach (6 * a.duration) (m.transform.x - m.transform.x)
      (m.transform.y - m.transform.y) := by
    rw [sub_self, sub_self]
    exact Reach.zero.mono (mul_nonneg (by norm_num) hdt)
  cases hstep with
  | same => exact hstays
  | delayed => exact hstays
  | hit =>
    unfold MonsterWorld.hit
    simp only
    split
    · exact hstays
    · exact hstays
  | @tick policy dt _ m₁ s₂ v hv hpasses =>
    obtain ⟨s₁, rfl⟩ := hpasses.respawn
    obtain ⟨s₃, hs₃⟩ := hpasses.move
    have hplace : (spawnUpdate env dt s₁ m).1.transform = m.transform := by
      obtain ⟨-, he⟩ | ⟨-, -, he⟩ | ⟨hawaits, hdue, -⟩ := spawnUpdate_cases env dt s₁ m
      · rw [he]
      · rw [he]
      · exact absurd ⟨policy, dt, rfl, m, hm, rfl, hawaits, hdue⟩ hrespawn
    have hdecided := AISystem.update_paced env policy dt s₂ (spawnUpdate_paced env dt s₁ h)
    have hmoved := MovementSystem.update_reach env hdt s₃ hdecided
    have hthought : (AISystem.update env policy dt s₂ (spawnUpdate env dt s₁ m).1).1.transform =
        m.transform := hplace
    obtain ⟨_, _, he⟩ := CombatSystem.update_fst env dt v.1 v.2
    rw [hthought] at hmoved
    rw [he, hs₃]
    exact hmoved

omit [ExactScalar K] [ExactRoots K] in
/-- A monster that was there before the step is not created by it. -/
theorem WorldState.mem_step_of_mem [Scalar K] (hnd : st.ids.Nodup) {a : WorldAction K σ}
    (ha : st.Allowed R a) {m' : Monster K} (hm' : m' ∈ (st.step env a).world.monsters)
    (hid : m'.id ∈ st.ids) : ∃ m ∈ st.world.monsters, MonsterStep env st a m m' := by
  obtain hold | ⟨mid, x, y, prefabName, monsterType, maxHp, hp, maxSp, sp, atk, d, rfl, hnew⟩ :=
    WorldState.mem_step hnd hm'
  · exact hold
  · obtain rfl := List.mem_singleton.mp hnew
    exact absurd hid ha

theorem worldSystem_paced {l : List (WorldState K σ × WorldAction K σ)}
    (r : Run (worldSystem env R) l st) : ∀ m ∈ st.world.monsters, m.ai.Paced := by
  refine worldSystem_forall (fun _ m => m.ai.Paced) ?_ ?_ r
  · intro l st mid x y prefabName monsterType maxHp hp maxSp sp atk d _ _ m hm
    obtain rfl := List.mem_singleton.mp hm
    exact ⟨.inl ⟨ExactScalar.lit_zero, ExactScalar.lit_zero⟩, by simp⟩
  · intro l st a m m' _ _ _ hstep h
    exact hstep.paced h

omit [ExactRoots K] in
/-- As long as nobody sets a respawn delay, nothing respawns. -/
theorem worldSystem_respawns_not {l : List (WorldState K σ × WorldAction K σ)}
    (r : Run (worldSystem env R) l st)
    (hdelay : ∀ p ∈ l, ∀ mid delay, p.2 ≠ .setRespawnDelay mid delay) (mid : Nat) :
    ∀ p ∈ l, ¬ WorldState.Respawns mid p := by
  rintro p hp ⟨policy, dt, -, m, hm, -, hawaits, -⟩
  obtain ⟨l₂, l₁, rfl⟩ := List.append_of_mem hp
  have hwaiting := worldSystem_waiting (le_refl (lit 0)) r.before.1
    (fun q hq => hdelay q (List.mem_append_right _ (List.mem_cons_of_mem _ hq))) m hm
  exact hawaits.delay hwaiting.1

/-- **A monster is never faster than 6.** In every run, between a state in
which the monster is there and any later one, however long the ticks
between them are and whatever else happens: it comes no further than 6
times the time that passes, unless it is respawned. -/
theorem worldSystem_reach {l₂ l₁ : List (WorldState K σ × WorldAction K σ)}
    {st₀ st : WorldState K σ} {a : WorldAction K σ}
    (r : Run (worldSystem env R) (l₂ ++ (st₀, a) :: l₁) st)
    (hdt : ∀ p ∈ l₂ ++ [(st₀, a)], 0 ≤ p.2.duration) {m₀ : Monster K}
    (hm₀ : m₀ ∈ st₀.world.monsters)
    (hrespawn : ∀ p ∈ l₂ ++ [(st₀, a)], ¬ WorldState.Respawns m₀.id p) :
    ∀ m ∈ st.world.monsters, m.id = m₀.id →
      Reach (6 * simTime (l₂ ++ [(st₀, a)])) (m.transform.x - m₀.transform.x)
        (m.transform.y - m₀.transform.y) := by
  induction l₂ generalizing st with
  | nil =>
    intro m' hm' hid
    cases r with
    | step r h =>
      obtain ⟨ha, rfl⟩ := h
      have hnd := worldSystem_ids r
      have hthere : m'.id ∈ st₀.ids := hid ▸ List.mem_map_of_mem hm₀
      obtain ⟨m, hm, hstep⟩ := WorldState.mem_step_of_mem hnd ha hm' hthere
      obtain rfl : m = m₀ := List.inj_on_of_nodup_map hnd hm hm₀ (hstep.id.symm.trans hid)
      have hreach := hstep.reach hm (hrespawn _ (by simp)) (hdt (st₀, a) (by simp))
        (worldSystem_paced r m hm)
      rw [List.nil_append, simTime, elapsed_cons, elapsed_nil, add_zero]
      exact hreach
  | cons p l₂ ih =>
    intro m' hm' hid
    obtain ⟨st₁, b⟩ := p
    cases r with
    | step r h =>
      obtain ⟨hb, rfl⟩ := h
      have hnd := worldSystem_ids r
      have hthere : m'.id ∈ st₁.ids :=
        worldSystem_ids_mono r (st₀, a) (by simp) m'.id (hid ▸ List.mem_map_of_mem hm₀)
      obtain ⟨m, hm, hstep⟩ := WorldState.mem_step_of_mem hnd hb hm' hthere
      have hid' : m.id = m₀.id := hstep.id.symm.trans hid
      have hbefore := ih r (fun q hq => hdt q (List.mem_cons_of_mem _ hq))
        (fun q hq => hrespawn q (List.mem_cons_of_mem _ hq)) m hm hid'
      have hnow := hstep.reach hm (hid' ▸ hrespawn _ List.mem_cons_self)
        (hdt _ List.mem_cons_self) (worldSystem_paced r m hm)
      have hadd := hbefore.add hnow
      rw [sub_add_sub_cancel', sub_add_sub_cancel', ← mul_add] at hadd
      rw [List.cons_append, simTime, elapsed_cons, add_comm]
      exact hadd

end

end MmorpgServer.Field
