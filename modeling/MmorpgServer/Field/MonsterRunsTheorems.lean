/-
MmorpgServer.Field.MonsterRunsTheorems — how the four passes of a tick
connect, and what recording changes.

`MonsterWorld.mem_combatPasses` and `MonsterWorld.mem_update` trace a
monster of `CombatSystem` and of the world after the tick back to a
monster of the world before it; `worldSystem_rule` is the induction rule
over runs for what is tied to a monster and its history.
`recordedSystem_run` says that recording changes nothing.
-/
import Mathlib.Data.List.Nodup
import MmorpgServer.Field.MonsterRuns
import MmorpgServer.Field.MonsterTheorems

namespace MmorpgServer.Field

open MmorpgServer.Lib Scalar

variable {K σ : Type} [Scalar K]

/-! ## What thinking leaves alone -/

/-- The fields of a `CAI` that no think changes. -/
structure CAI.Kept (ai ai' : CAI K) : Prop where
  attackCooldown : ai'.attackCooldown = ai.attackCooldown
  attackTimer : ai'.attackTimer = ai.attackTimer
  attackCd : ai'.attackCd = ai.attackCd
  netSynced : ai'.netSynced = ai.netSynced

omit [Scalar K] in
theorem CAI.Kept.refl (ai : CAI K) : ai.Kept ai := ⟨rfl, rfl, rfl, rfl⟩

omit [Scalar K] in
theorem CAI.Kept.trans {a b c : CAI K} (h : a.Kept b) (h' : b.Kept c) : a.Kept c :=
  ⟨h'.attackCooldown.trans h.attackCooldown, h'.attackTimer.trans h.attackTimer,
    h'.attackCd.trans h.attackCd, h'.netSynced.trans h.netSynced⟩

theorem CAI.Kept.setMonsterMove {ai ai' : CAI K} (h : ai.Kept ai') (dx dy speed : K) :
    ai.Kept (setMonsterMove ai' dx dy speed) := by
  refine h.trans ?_
  unfold Field.setMonsterMove
  simp only
  split <;> exact ⟨rfl, rfl, rfl, rfl⟩

theorem CAI.Kept.stopMove {ai ai' : CAI K} (h : ai.Kept ai') : ai.Kept (stopMove ai') :=
  .setMonsterMove (h.trans ⟨rfl, rfl, rfl, rfl⟩) _ _ _

theorem CAI.Kept.rest {ai ai' : CAI K} (h : ai.Kept ai') (t : K) :
    ai.Kept { Field.stopMove ai' with idlePatrolTimer := t } :=
  ⟨h.stopMove.attackCooldown, h.stopMove.attackTimer, h.stopMove.attackCd, h.stopMove.netSynced⟩

@[simp] theorem setMonsterMove_targetId (ai : CAI K) (dx dy speed : K) :
    (setMonsterMove ai dx dy speed).targetId = ai.targetId := by
  obtain ⟨_, _, _, he⟩ := setMonsterMove_eq ai dx dy speed
  rw [he]

@[simp] theorem stopMove_targetId (ai : CAI K) : (stopMove ai).targetId = ai.targetId :=
  setMonsterMove_targetId _ _ _ _

namespace AISystem

omit [Scalar K] in
theorem selectTarget_kept (env : MonsterEnvironment K σ) (s : σ) (tr : CTransform K)
    (sightRange : K) (ai : CAI K) : ai.Kept (selectTarget env s tr sightRange ai).1 := by
  unfold selectTarget
  split
  · exact .refl ai
  · simp only
    split
    · exact ⟨rfl, rfl, rfl, rfl⟩
    · split <;> exact ⟨rfl, rfl, rfl, rfl⟩

theorem flee_kept (isArcher : Bool) (tr : CTransform K) (pos : Option (K × K)) (ai : CAI K) :
    ai.Kept (flee isArcher tr pos ai) := by
  refine iteInduction (motive := fun ai' : CAI K => ai.Kept ai') (fun _ => ?_) (fun _ => ?_)
  · exact .rest (by constructor <;> rfl) _
  · exact .setMonsterMove (by constructor <;> rfl) _ _ _

theorem wander_kept (ai : CAI K) : ai.Kept (wander ai) := by
  unfold wander
  split
  · simp only
    split
    · exact .setMonsterMove (by constructor <;> rfl) _ _ _
    · exact .stopMove (by constructor <;> rfl)
  · simp only
    split
    · exact .stopMove (by constructor <;> rfl)
    · exact .setMonsterMove (by constructor <;> rfl) _ _ _

theorem archer_kept (tr : CTransform K) (pos : K × K) (ai : CAI K) : ai.Kept (archer tr pos ai) := by
  unfold archer
  simp only
  split
  · exact .setMonsterMove (by constructor <;> rfl) _ _ _
  · split
    · exact .stopMove (by constructor <;> rfl)
    · exact .setMonsterMove (by constructor <;> rfl) _ _ _

theorem melee_kept (policy : List K → Fin 5 → K) (tr : CTransform K) (stats : CStats)
    (pos : K × K) (oldState : AiState) (ai : CAI K) :
    ai.Kept (melee policy tr stats pos oldState ai) := by
  unfold melee
  simp only
  split
  · exact .stopMove (by constructor <;> rfl)
  · exact .setMonsterMove (by constructor <;> rfl) _ _ _
  · exact .setMonsterMove (by constructor <;> rfl) _ _ _
  · exact .stopMove (by constructor <;> rfl)
  · exact ⟨rfl, rfl, rfl, rfl⟩

theorem think_kept (env : MonsterEnvironment K σ) (policy : List K → Fin 5 → K) (s : σ)
    (m : Monster K) (oldState : AiState) (ai : CAI K) :
    ai.Kept (think env policy s m oldState ai) := by
  refine (selectTarget_kept env s m.transform (if isArcher m then lit 18 else lit 11) ai).trans ?_
  unfold think
  simp only
  generalize selectTarget env s m.transform (if isArcher m then lit 18 else lit 11) ai = sel
  refine iteInduction (motive := fun ai' : CAI K => sel.1.Kept ai') (fun _ => ?_) fun _ => ?_
  · exact .rest (by constructor <;> rfl) _
  refine iteInduction (motive := fun ai' : CAI K => sel.1.Kept ai') (fun _ => ?_) fun _ => ?_
  · exact flee_kept _ _ _ _
  refine iteInduction (motive := fun ai' : CAI K => sel.1.Kept ai') (fun _ => ?_) fun _ => ?_
  · exact wander_kept _
  cases sel.2 with
  | none => exact .stopMove (by constructor <;> rfl)
  | some pos =>
    refine iteInduction (motive := fun ai' : CAI K => sel.1.Kept ai') (fun _ => ?_) fun _ => ?_
    · exact archer_kept _ _ _
    · exact melee_kept _ _ _ _ _ _

theorem decideAi_kept (env : MonsterEnvironment K σ) (policy : List K → Fin 5 → K) (dt : K)
    (s : σ) (m : Monster K) (oldState : AiState) (ai : CAI K) :
    ai.Kept (decideAi env policy dt s m oldState ai) := by
  unfold decideAi
  split
  · exact .stopMove (by constructor <;> rfl)
  · simp only
    split
    · exact ⟨rfl, rfl, rfl, rfl⟩
    · exact .trans (by constructor <;> rfl) (think_kept _ _ _ _ _ _)

theorem sync_kept (env : MonsterEnvironment K σ) (s : σ) (m : Monster K) :
    { m.ai with netSynced := true }.Kept (sync env s m).1 := by
  unfold sync
  simp only
  split
  · rename_i h
    exact ⟨rfl, rfl, rfl, h⟩
  · split
    · have h := (CAI.Kept.refl m.ai).stopMove
      exact ⟨h.attackCooldown, h.attackTimer, h.attackCd, rfl⟩
    · have h := (CAI.Kept.refl m.ai).setMonsterMove m.ai.moveDirX m.ai.moveDirY patrolSpeed
      exact ⟨h.attackCooldown, h.attackTimer, h.attackCd, rfl⟩

theorem sync_targetId (env : MonsterEnvironment K σ) (s : σ) (m : Monster K) :
    (sync env s m).1.targetId = m.ai.targetId := by
  unfold sync
  simp only
  split
  · rfl
  · split <;> simp

theorem update_eq (env : MonsterEnvironment K σ) (policy : List K → Fin 5 → K) (dt : K) (s : σ)
    (m : Monster K) :
    update env policy dt s m =
      let r := announced env dt s m
      let m₁ := { m with
        ai := { m.ai with attackCd := max (lit 0) (m.ai.attackCd - dt) }
        stats := { m.stats with dirty := false } }
      let ai := decideAi env policy dt r.2 m₁ m.ai.state r.1
      ({ m₁ with ai },
        if ai.state ≠ m.ai.state then env.broadcastAiState r.2 m.id ai.state else r.2) := rfl

/-- A pass touches no attack timer, and afterwards the monster is announced. -/
theorem update_kept (env : MonsterEnvironment K σ) (policy : List K → Fin 5 → K) (dt : K) (s : σ)
    (m : Monster K) :
    { m.ai with attackCd := max (lit 0) (m.ai.attackCd - dt), netSynced := true }.Kept
      (update env policy dt s m).1.ai :=
  (sync_kept env s { m with ai := { m.ai with attackCd := max (lit 0) (m.ai.attackCd - dt) } }).trans
    (decideAi_kept _ _ _ _ _ _ _)

end AISystem

/-- Moving keeps them too. -/
theorem MovementSystem.update_kept (env : MonsterEnvironment K σ) (dt : K) (s : σ)
    (m : Monster K) : m.ai.Kept (MovementSystem.update env dt s m).1.ai := by
  obtain ⟨-, he⟩ | ⟨-, he⟩ | ⟨-, _, _, _, -, he⟩ := MovementSystem.update_cases env dt s m <;>
    rw [he]
  · exact .refl m.ai
  · exact (CAI.Kept.refl m.ai).stopMove
  · exact .setMonsterMove (by constructor <;> rfl) _ _ _

/-! ## A tick, pass by pass -/

namespace MonsterWorld

variable {env : MonsterEnvironment K σ} {policy : List K → Fin 5 → K} {dt : K}
  {w : MonsterWorld K} {s : σ}

theorem update_eq : w.update env policy dt s =
    (⟨(updateLoop (CombatSystem.update env dt) (moved env policy dt w s).2
        (moved env policy dt w s).1).1⟩,
      (updateLoop (CombatSystem.update env dt) (moved env policy dt w s).2
        (moved env policy dt w s).1).2) := rfl

/-- The first three passes of a monster, up to what `CombatSystem` finds. -/
structure ThreePasses (env : MonsterEnvironment K σ) (policy : List K → Fin 5 → K) (dt : K)
    (w : MonsterWorld K) (s : σ) (m m₁ m₃ : Monster K) (s₂ : σ) : Prop where
  mem : m ∈ w.monsters
  respawn : ∃ s₁, m₁ = (spawnUpdate env dt s₁ m).1
  ai_mem : (s₂, m₁) ∈ aiPasses env policy dt w s
  move : ∃ s₃, m₃ = (MovementSystem.update env dt s₃ (AISystem.update env policy dt s₂ m₁).1).1

/-- **Origin of a monster of `CombatSystem`.** -/
theorem mem_combatPasses {v : σ × Monster K} (hv : v ∈ combatPasses env policy dt w s) :
    ∃ m m₁ s₂, ThreePasses env policy dt w s m m₁ v.2 s₂ := by
  obtain ⟨v₃, hv₃, h₃⟩ := mem_updateLoop.mp (mem_of_mem_visits hv)
  obtain ⟨v₂, hv₂, h₂⟩ := mem_updateLoop.mp (mem_of_mem_visits hv₃)
  obtain ⟨v₁, hv₁, h₁⟩ := mem_updateLoop.mp (mem_of_mem_visits hv₂)
  exact ⟨v₁.2, v₂.2, v₂.1, mem_of_mem_visits hv₁, ⟨v₁.1, h₁.symm⟩, hv₂, ⟨v₃.1, by rw [h₂, h₃]⟩⟩

/-- **Origin of a monster after a tick.** -/
theorem mem_update {m' : Monster K} (h : m' ∈ (w.update env policy dt s).1.monsters) :
    ∃ v ∈ combatPasses env policy dt w s, (CombatSystem.update env dt v.1 v.2).1 = m' := by
  rw [update_eq] at h
  exact mem_updateLoop.mp h

theorem ThreePasses.id {m m₁ m₃ : Monster K} {s₂ : σ}
    (h : ThreePasses env policy dt w s m m₁ m₃ s₂) : m₁.id = m.id ∧ m₃.id = m.id := by
  obtain ⟨s₁, rfl⟩ := h.respawn
  obtain ⟨s₃, rfl⟩ := h.move
  rw [MovementSystem.update_id, AISystem.update_id, spawnUpdate_id]
  exact ⟨rfl, rfl⟩

variable (env policy dt w s) in
theorem combatPasses_ids :
    (combatPasses env policy dt w s).map (fun v => v.2.id) = w.monsters.map Monster.id := by
  have h := congrArg (List.map Monster.id)
    (visits_map_snd (CombatSystem.update env dt) (moved env policy dt w s).2
      (moved env policy dt w s).1)
  rw [List.map_map] at h
  refine h.trans ?_
  rw [moved, updateLoop_map (MovementSystem.update_id env dt), decided,
    updateLoop_map (AISystem.update_id env policy dt), spawned, updateLoop_map (spawnUpdate_id env dt)]

/-- With different ids, the think of a monster is that of its own pass. -/
theorem ThreePasses.thinkOf {m m₁ m₃ : Monster K} {s₂ : σ}
    (h : ThreePasses env policy dt w s m m₁ m₃ s₂) (hnd : (w.monsters.map Monster.id).Nodup) :
    thinkOf env policy dt w s m.id = AISystem.thinkRecord env dt s₂ m₁ := by
  have hids : ((spawned env dt w s).1.map Monster.id).Nodup := by
    rw [spawned, updateLoop_map (spawnUpdate_id env dt)]
    exact hnd
  have hfind := find_visit hids h.ai_mem
  rw [MonsterWorld.thinkOf, ← h.id.1]
  exact congrArg (fun o : Option (σ × Monster K) =>
    o.bind fun v => AISystem.thinkRecord env dt v.1 v.2) hfind

/-- With different ids, the passes of `CombatSystem` differ in their ids. -/
theorem eq_of_combatPasses (hnd : (w.monsters.map Monster.id).Nodup) {u v : σ × Monster K}
    (hu : u ∈ combatPasses env policy dt w s) (hv : v ∈ combatPasses env policy dt w s)
    (h : u.2.id = v.2.id) : u = v := by
  rw [← combatPasses_ids env policy dt w s] at hnd
  exact List.inj_on_of_nodup_map hnd hu hv h

end MonsterWorld

/-! ## A step, monster by monster -/

/-- What becomes of a monster in a step. -/
inductive MonsterStep (env : MonsterEnvironment K σ) (st : WorldState K σ) :
    WorldAction K σ → Monster K → Monster K → Prop
  | same {a : WorldAction K σ} {m : Monster K} (hattack : a ≠ .attack m.id)
      (hskill : a ≠ .skill m.id) (hupdate : ∀ policy dt, a ≠ .update policy dt) :
      MonsterStep env st a m m
  | delayed {m : Monster K} (delay : K) :
      MonsterStep env st (.setRespawnDelay m.id delay) m
        { m with spawnInfo := { m.spawnInfo with respawnDelay := delay } }
  | hit {a : WorldAction K σ} {m : Monster K} (h : a = .attack m.id ∨ a = .skill m.id) :
      MonsterStep env st a m (MonsterWorld.hit m).1
  | tick {policy : List K → Fin 5 → K} {dt : K} {m m₁ : Monster K} {s₂ : σ} {v : σ × Monster K}
      (hv : v ∈ st.world.combatPasses env policy dt st.outside)
      (h : MonsterWorld.ThreePasses env policy dt st.world st.outside m m₁ v.2 s₂) :
      MonsterStep env st (.update policy dt) m (CombatSystem.update env dt v.1 v.2).1

namespace WorldState

variable {env : MonsterEnvironment K σ} {st : WorldState K σ}

/-- Of the monsters, an attack hits the one with the id. -/
theorem mem_playerAttackMonster {mid : Nat} {ms : List (Monster K)} {s : σ}
    (hnd : (ms.map Monster.id).Nodup) {m' : Monster K}
    (h : m' ∈ (MonsterWorld.playerAttackMonster env mid ms s).1) :
    (m' ∈ ms ∧ m'.id ≠ mid) ∨
      ∃ m ∈ ms, m.id = mid ∧ m' = (MonsterWorld.hit m).1 ∧
        (MonsterWorld.playerAttackMonster env mid ms s).2.2 = (MonsterWorld.hit m).2 := by
  induction ms with
  | nil => cases h
  | cons m ms ih =>
    obtain ⟨hnot, hnd⟩ := List.nodup_cons.mp hnd
    unfold MonsterWorld.playerAttackMonster at h ⊢
    by_cases hid : m.id = mid
    · rw [if_neg (not_not_intro hid)] at h ⊢
      rcases List.mem_cons.mp h with rfl | h
      · exact .inr ⟨m, List.mem_cons_self, hid, rfl, rfl⟩
      · exact .inl ⟨List.mem_cons_of_mem m h, fun he => hnot (hid ▸ he ▸ List.mem_map_of_mem h)⟩
    · rw [if_pos hid] at h ⊢
      rcases List.mem_cons.mp h with rfl | h
      · exact .inl ⟨List.mem_cons_self, hid⟩
      · obtain ⟨hm', hne⟩ | ⟨m₀, hm₀, hm⟩ := ih hnd h
        · exact .inl ⟨List.mem_cons_of_mem m hm', hne⟩
        · exact .inr ⟨m₀, List.mem_cons_of_mem m hm₀, hm⟩

/-- With different ids, an attack says whether its hit on the monster kills. -/
theorem attack_of_mem (hnd : st.ids.Nodup) {m : Monster K} (hm : m ∈ st.world.monsters) :
    (st.attack env m.id).2 = (MonsterWorld.hit m).2 := by
  have key : ∀ (ms : List (Monster K)) (s : σ), (ms.map Monster.id).Nodup → m ∈ ms →
      (MonsterWorld.playerAttackMonster env m.id ms s).2.2 = (MonsterWorld.hit m).2 := by
    intro ms s hnd hm
    induction ms with
    | nil => cases hm
    | cons m₀ ms ih =>
      obtain ⟨hnot, hnd⟩ := List.nodup_cons.mp hnd
      unfold MonsterWorld.playerAttackMonster
      rcases List.mem_cons.mp hm with rfl | hm
      · rw [if_neg (not_not_intro rfl)]
      · have hne : m₀.id ≠ m.id := fun he => hnot (he ▸ List.mem_map_of_mem hm)
        rw [if_pos hne]
        exact ih hnd hm
  exact key st.world.monsters st.outside hnd hm

/-- Only what is there is killed. -/
theorem mem_ids_of_kills {mid : Nat} {p : WorldState K σ × WorldAction K σ}
    (h : Kills env mid p) : mid ∈ p.1.ids := by
  have key : ∀ (ms : List (Monster K)) (s : σ),
      (MonsterWorld.playerAttackMonster env mid ms s).2.2 = true → mid ∈ ms.map Monster.id := by
    intro ms s hkill
    induction ms with
    | nil => cases hkill
    | cons m ms ih =>
      unfold MonsterWorld.playerAttackMonster at hkill
      by_cases hid : m.id = mid
      · simp [hid]
      · rw [if_pos hid] at hkill
        exact List.mem_cons_of_mem _ (ih hkill)
  exact key p.1.world.monsters p.1.outside h.2

/-- **Step inversion.** A monster of the state after a step was created by
it or is what became of a monster of the state before. -/
theorem mem_step (hnd : st.ids.Nodup) {a : WorldAction K σ} {m' : Monster K}
    (h : m' ∈ (st.step env a).world.monsters) :
    (∃ m ∈ st.world.monsters, MonsterStep env st a m m') ∨
      ∃ mid x y prefabName monsterType maxHp hp maxSp sp atk d,
        a = .create mid x y prefabName monsterType maxHp hp maxSp sp atk d ∧
        m' ∈ (({} : MonsterWorld K).createMonster mid x y prefabName monsterType maxHp hp maxSp sp
          atk d).monsters := by
  have hattack : ∀ mid, a = .attack mid ∨ a = .skill mid →
      m' ∈ (MonsterWorld.playerAttackMonster env mid st.world.monsters st.outside).1 →
      ∃ m ∈ st.world.monsters, MonsterStep env st a m m' := by
    intro mid ha h
    obtain ⟨hm', hne⟩ | ⟨m, hm, rfl, rfl, -⟩ := mem_playerAttackMonster hnd h
    · refine ⟨m', hm', .same ?_ ?_ ?_⟩
      · rintro rfl
        exact hne (by simpa using ha)
      · rintro rfl
        exact hne (by simpa using ha)
      · rintro policy dt rfl
        simp at ha
    · exact ⟨m, hm, .hit ha⟩
  cases a with
  | create mid x y prefabName monsterType maxHp hp maxSp sp atk d =>
    rcases List.mem_append.mp h with h | h
    · exact .inl ⟨m', h, .same nofun nofun nofun⟩
    · exact .inr ⟨mid, x, y, prefabName, monsterType, maxHp, hp, maxSp, sp, atk, d, rfl, h⟩
  | setRespawnDelay mid delay =>
    obtain ⟨m, hm, rfl⟩ := List.mem_map.mp h
    refine .inl ⟨m, hm, ?_⟩
    split
    · rename_i hid
      rw [← hid]
      exact .delayed delay
    · exact .same nofun nofun nofun
  | update policy dt =>
    obtain ⟨v, hv, rfl⟩ := MonsterWorld.mem_update h
    obtain ⟨m, m₁, s₂, hpasses⟩ := MonsterWorld.mem_combatPasses hv
    exact .inl ⟨m, hpasses.mem, .tick hv hpasses⟩
  | attack mid => exact .inl (hattack mid (.inl rfl) h)
  | skill mid =>
    refine .inl (hattack mid (.inr rfl) ?_)
    unfold step at h
    simp only at h
    split at h <;> exact h
  | outside s => exact .inl ⟨m', h, .same nofun nofun nofun⟩

/-- A step leaves the ids as they are, and may add the one it creates. -/
theorem step_ids (env : MonsterEnvironment K σ) (st : WorldState K σ) (a : WorldAction K σ) :
    (st.step env a).ids = st.ids ∨
      ∃ mid x y prefabName monsterType maxHp hp maxSp sp atk d,
        a = .create mid x y prefabName monsterType maxHp hp maxSp sp atk d ∧
        (st.step env a).ids = st.ids ++ [mid] := by
  cases a with
  | create mid x y prefabName monsterType maxHp hp maxSp sp atk d =>
    exact .inr ⟨mid, x, y, prefabName, monsterType, maxHp, hp, maxSp, sp, atk, d, rfl, by
      simp [ids, step, MonsterWorld.createMonster]⟩
  | setRespawnDelay mid delay =>
    refine .inl ?_
    simp only [ids, step, List.map_map]
    refine List.map_congr_left fun m _ => ?_
    simp only [Function.comp]
    split <;> rfl
  | update policy dt => exact .inl (MonsterWorld.update_ids env policy dt st.world st.outside)
  | attack mid => exact .inl (MonsterWorld.playerAttackMonster_ids env mid _ _)
  | skill mid =>
    refine .inl ?_
    have h := MonsterWorld.playerAttackMonster_ids env mid st.world.monsters st.outside
    unfold step
    simp only
    split <;> exact h
  | outside s => exact .inl rfl

/-- The ids stay different. -/
theorem step_ids_nodup (hnd : st.ids.Nodup) {R : σ → σ → Prop} {a : WorldAction K σ}
    (ha : st.Allowed R a) : (st.step env a).ids.Nodup := by
  obtain hids | ⟨mid, _, _, _, _, _, _, _, _, _, _, rfl, hids⟩ := step_ids env st a
  · rw [hids]
    exact hnd
  · have hnew : mid ∉ st.ids := ha
    rw [hids, List.nodup_append]
    refine ⟨hnd, List.nodup_singleton mid, fun i hi j hj => ?_⟩
    rw [List.mem_singleton.mp hj]
    rintro rfl
    exact hnew hi

end WorldState

/-! ## Runs -/

section

variable {env : MonsterEnvironment K σ} {R : σ → σ → Prop}
  {l : List (WorldState K σ × WorldAction K σ)} {st : WorldState K σ}

theorem worldSystem_ids (r : Run (worldSystem env R) l st) : st.ids.Nodup := by
  refine r.invariant (I := fun st => st.ids.Nodup) ?_ ?_
  · intro st h
    rw [WorldState.ids, h]
    exact List.nodup_nil
  · rintro st a st' hnd ⟨ha, rfl⟩
    exact WorldState.step_ids_nodup hnd ha

/-- **Run rule for the monsters.** What holds of a created monster, and of
what becomes of a monster in a step if it held of the monster, holds of
every monster in every state reached. -/
theorem worldSystem_forall
    (Tied : List (WorldState K σ × WorldAction K σ) → Monster K → Prop)
    (hcreate : ∀ l st mid x y prefabName monsterType maxHp hp maxSp sp atk d,
      Run (worldSystem env R) l st → mid ∉ st.ids →
      ∀ m ∈ (({} : MonsterWorld K).createMonster mid x y prefabName monsterType maxHp hp maxSp sp
        atk d).monsters,
      Tied ((st, .create mid x y prefabName monsterType maxHp hp maxSp sp atk d) :: l) m)
    (hstep : ∀ l st a m m', Run (worldSystem env R) l st → st.ids.Nodup →
      m ∈ st.world.monsters → MonsterStep env st a m m' → Tied l m → Tied ((st, a) :: l) m')
    (r : Run (worldSystem env R) l st) : ∀ m ∈ st.world.monsters, Tied l m := by
  induction r with
  | start h =>
    rw [h]
    intro m hm
    cases hm
  | @step l st st' a r h ih =>
    obtain ⟨hallowed, rfl⟩ := h
    have hnd := worldSystem_ids r
    intro m' hm'
    obtain ⟨m, hm, hbecomes⟩ |
      ⟨mid, x, y, prefabName, monsterType, maxHp, hp, maxSp, sp, atk, d, rfl, hnew⟩ :=
      WorldState.mem_step hnd hm'
    · exact hstep l st a m m' r hnd hm hbecomes (ih m hm)
    · exact hcreate l st mid x y prefabName monsterType maxHp hp maxSp sp atk d r hallowed m' hnew

/-- No monster is ever removed. -/
theorem worldSystem_ids_mono (r : Run (worldSystem env R) l st) :
    ∀ p ∈ l, ∀ mid ∈ p.1.ids, mid ∈ st.ids := by
  have hstep : ∀ (st : WorldState K σ) (a : WorldAction K σ), ∀ mid ∈ st.ids,
      mid ∈ (st.step env a).ids := by
    intro st a mid hmid
    obtain hids | ⟨_, _, _, _, _, _, _, _, _, _, _, -, hids⟩ := WorldState.step_ids env st a
    · rw [hids]
      exact hmid
    · rw [hids]
      exact List.mem_append_left _ hmid
  induction r with
  | start h => intro p hp; cases hp
  | step r h ih =>
    obtain ⟨-, rfl⟩ := h
    intro p hp mid hmid
    rcases List.mem_cons.mp hp with rfl | hp
    · exact hstep _ _ mid hmid
    · exact hstep _ _ mid (ih p hp mid hmid)

end

/-! ## Recording -/

section

variable (env : MonsterEnvironment K σ)

theorem recorded_spawnUpdate (dt : K) (s : σ × Calls) (m : Monster K) :
    (spawnUpdate env.recorded dt s m).1 = (spawnUpdate env dt s.1 m).1 ∧
      (spawnUpdate env.recorded dt s m).2.1 = (spawnUpdate env dt s.1 m).2 := by
  unfold spawnUpdate
  split
  · exact ⟨rfl, rfl⟩
  split
  · exact ⟨rfl, rfl⟩
  split
  · exact ⟨rfl, rfl⟩
  simp only
  split <;> exact ⟨rfl, rfl⟩

theorem recorded_sync (s : σ × Calls) (m : Monster K) :
    (AISystem.sync env.recorded s m).1 = (AISystem.sync env s.1 m).1 ∧
      (AISystem.sync env.recorded s m).2.1 = (AISystem.sync env s.1 m).2 := by
  unfold AISystem.sync
  simp only
  split <;> exact ⟨rfl, rfl⟩

theorem recorded_announced (dt : K) (s : σ × Calls) (m : Monster K) :
    (AISystem.announced env.recorded dt s m).1 = (AISystem.announced env dt s.1 m).1 ∧
      (AISystem.announced env.recorded dt s m).2.1 = (AISystem.announced env dt s.1 m).2 := by
  obtain ⟨h₁, h₂⟩ := recorded_sync env s
    { m with ai := { m.ai with attackCd := max (lit 0) (m.ai.attackCd - dt) } }
  refine ⟨h₁, ?_⟩
  unfold AISystem.announced
  simp only
  split
  · exact congrArg (fun s => env.broadcastMonsterStat s m.id _ _ _ _) h₂
  · exact h₂

theorem recorded_aiUpdate (policy : List K → Fin 5 → K) (dt : K) (s : σ × Calls) (m : Monster K) :
    (AISystem.update env.recorded policy dt s m).1 = (AISystem.update env policy dt s.1 m).1 ∧
      (AISystem.update env.recorded policy dt s m).2.1 =
        (AISystem.update env policy dt s.1 m).2 := by
  obtain ⟨h₁, h₂⟩ := recorded_announced env dt s m
  have hdecide : ∀ (s : σ × Calls) (m : Monster K) old ai,
      AISystem.decideAi env.recorded policy dt s m old ai =
        AISystem.decideAi env policy dt s.1 m old ai := fun _ _ _ _ => rfl
  rw [AISystem.update_eq, AISystem.update_eq]
  simp only [hdecide, h₁, h₂]
  refine ⟨trivial, ?_⟩
  split
  · exact congrArg (fun s => env.broadcastAiState s m.id _) h₂
  · exact h₂

theorem recorded_movementUpdate (dt : K) (s : σ × Calls) (m : Monster K) :
    (MovementSystem.update env.recorded dt s m).1 = (MovementSystem.update env dt s.1 m).1 ∧
      (MovementSystem.update env.recorded dt s m).2.1 = (MovementSystem.update env dt s.1 m).2 := by
  have hcourse : MovementSystem.course env.recorded s m = MovementSystem.course env s.1 m := rfl
  unfold MovementSystem.update
  rw [hcourse]
  split
  · split <;> exact ⟨rfl, rfl⟩
  · split <;> exact ⟨rfl, rfl⟩

omit [Scalar K] in
/-- The calls of `attack_player` are not remembered. -/
theorem recorded_attackPlayer (s : σ × Calls) (mid pid : Nat) (atk : Int) :
    CombatSystem.attackPlayer env.recorded s mid pid atk =
      (CombatSystem.attackPlayer env s.1 mid pid atk, s.2) := by
  have hstats : env.recorded.getPlayerStats s pid = env.getPlayerStats s.1 pid := rfl
  unfold CombatSystem.attackPlayer
  rw [hstats]
  cases env.getPlayerStats s.1 pid with
  | none => rfl
  | some st =>
    simp only
    generalize (if 0 < st.1 - atk then st.1 - atk else 0) = newHp
    by_cases hchanged : newHp = st.1
    · simp only [hchanged, ne_eq, not_true_eq_false, or_self, false_and, if_false]
      rfl
    · simp only [hchanged, ne_eq, not_false_eq_true, not_true_eq_false, or_false, true_and, if_true]
      split <;> rfl

theorem recorded_combatUpdate (dt : K) (s : σ × Calls) (m : Monster K) :
    (CombatSystem.update env.recorded dt s m).1 = (CombatSystem.update env dt s.1 m).1 ∧
      (CombatSystem.update env.recorded dt s m).2.1 = (CombatSystem.update env dt s.1 m).2 := by
  have hpos : env.recorded.getPlayerPosition s m.ai.targetId =
      env.getPlayerPosition s.1 m.ai.targetId := rfl
  unfold CombatSystem.update
  simp only [hpos]
  split
  · exact ⟨rfl, rfl⟩
  · split
    · exact ⟨rfl, rfl⟩
    · cases env.getPlayerPosition s.1 m.ai.targetId with
      | none => exact ⟨rfl, rfl⟩
      | some pos => exact ⟨rfl, congrArg Prod.fst (recorded_attackPlayer env s _ _ _)⟩

/-- Recording changes nothing of a tick. -/
theorem recorded_update (policy : List K → Fin 5 → K) (dt : K) (w : MonsterWorld K)
    (s : σ × Calls) :
    (w.update env.recorded policy dt s).1 = (w.update env policy dt s.1).1 ∧
      (w.update env.recorded policy dt s).2.1 = (w.update env policy dt s.1).2 := by
  obtain ⟨h₁, hs₁⟩ := updateLoop_view (recorded_spawnUpdate env dt) s w.monsters
  obtain ⟨h₂, hs₂⟩ := updateLoop_view (recorded_aiUpdate env policy dt)
    (MonsterWorld.spawned env.recorded dt w s).2 (MonsterWorld.spawned env.recorded dt w s).1
  obtain ⟨h₃, hs₃⟩ := updateLoop_view (recorded_movementUpdate env dt)
    (MonsterWorld.decided env.recorded policy dt w s).2
    (MonsterWorld.decided env.recorded policy dt w s).1
  obtain ⟨h₄, hs₄⟩ := updateLoop_view (recorded_combatUpdate env dt)
    (MonsterWorld.moved env.recorded policy dt w s).2
    (MonsterWorld.moved env.recorded policy dt w s).1
  have e₁ : MonsterWorld.spawned env dt w s.1 =
      ((MonsterWorld.spawned env.recorded dt w s).1, (MonsterWorld.spawned env.recorded dt w s).2.1) :=
    (Prod.ext h₁ hs₁).symm
  have e₂ : MonsterWorld.decided env policy dt w s.1 =
      ((MonsterWorld.decided env.recorded policy dt w s).1,
        (MonsterWorld.decided env.recorded policy dt w s).2.1) := by
    rw [MonsterWorld.decided, e₁]
    exact (Prod.ext h₂ hs₂).symm
  have e₃ : MonsterWorld.moved env policy dt w s.1 =
      ((MonsterWorld.moved env.recorded policy dt w s).1,
        (MonsterWorld.moved env.recorded policy dt w s).2.1) := by
    rw [MonsterWorld.moved, e₂]
    exact (Prod.ext h₃ hs₃).symm
  rw [MonsterWorld.update_eq, MonsterWorld.update_eq, e₃]
  exact ⟨congrArg MonsterWorld.mk h₄, hs₄⟩

/-- Recording changes nothing of an attack, which makes no call that is
remembered. -/
theorem recorded_playerAttackMonster (mid : Nat) (ms : List (Monster K)) (s : σ × Calls) :
    MonsterWorld.playerAttackMonster env.recorded mid ms s =
      ((MonsterWorld.playerAttackMonster env mid ms s.1).1,
        ((MonsterWorld.playerAttackMonster env mid ms s.1).2.1, s.2),
        (MonsterWorld.playerAttackMonster env mid ms s.1).2.2) := by
  induction ms with
  | nil => rfl
  | cons m ms ih =>
    unfold MonsterWorld.playerAttackMonster
    split
    · rw [ih]
    · simp only
      split <;> rfl

theorem recorded_step (st : WorldState K (σ × Calls)) (a : WorldAction K (σ × Calls)) :
    (st.step env.recorded a).unrecorded = st.unrecorded.step env a.unrecorded := by
  have hattack := recorded_playerAttackMonster env (K := K)
  cases a with
  | update policy dt =>
    obtain ⟨hw, hs⟩ := recorded_update env policy dt st.world st.outside
    exact congrArg₂ WorldState.mk hw hs
  | attack mid =>
    simp only [WorldState.step, WorldState.attack, WorldState.unrecorded, WorldAction.unrecorded,
      hattack]
  | skill mid =>
    simp only [WorldState.step, WorldState.attack, WorldState.unrecorded, WorldAction.unrecorded,
      hattack]
    by_cases hdead :
        (MonsterWorld.playerAttackMonster env mid st.world.monsters st.outside.1).2.2 = true
    · simp only [if_pos hdead]
      exact (if_pos hdead).symm
    · simp only [if_neg hdead]
      exact (if_neg hdead).symm
  | _ => rfl

variable {env}

/-- **Recording only watches**: a recorded run is a run, with a record. -/
theorem recordedSystem_run {l : List (WorldState K (σ × Calls) × WorldAction K (σ × Calls))}
    {st : WorldState K (σ × Calls)} (r : Run (recordedSystem env) l st) :
    Run (worldSystem env fun _ _ => True) (l.map fun p => (p.1.unrecorded, p.2.unrecorded))
      st.unrecorded := by
  induction r with
  | start h => exact .start h.1
  | @step l st st' a r h ih =>
    obtain ⟨hallowed, rfl⟩ := h
    refine .step ih ⟨?_, recorded_step env st a⟩
    cases a with
    | outside s => trivial
    | _ => exact hallowed

/-- A recorded run, as a run of the recorded environment. -/
theorem recordedSystem_worldRun {l : List (WorldState K (σ × Calls) × WorldAction K (σ × Calls))}
    {st : WorldState K (σ × Calls)} (r : Run (recordedSystem env) l st) :
    Run (worldSystem env.recorded fun s s' => s'.2 = s.2) l st := by
  induction r with
  | start h => exact .start h.1
  | step _ h ih => exact .step ih h

end

end MmorpgServer.Field
