/-
MmorpgServer.Field.MonsterReplicaTheorems — death, respawn and what the
clients know of it.

* A killed monster waits for a respawn that its creation never schedules:
  `create_monster` leaves `respawnDelay` zero, and `SpawnSystem` passes
  over such a monster (`killed_stays_dead`).
* Clients know the hp and the state of every monster after every tick in
  which nobody respawns (`monsters_replicated`): everybody who changes
  them announces it, at once or by `dirty`, but `SpawnSystem`.
-/
import MmorpgServer.Field.MonsterCombatTheorems

namespace MmorpgServer.Field

open MmorpgServer.Lib Scalar

variable {K σ : Type} [Scalar K]

/-! ## What the systems leave alone -/

section

variable (env : MonsterEnvironment K σ)

theorem MovementSystem.update_stats (dt : K) (s : σ) (m : Monster K) :
    (MovementSystem.update env dt s m).1.stats = m.stats ∧
      (MovementSystem.update env dt s m).1.spawnInfo = m.spawnInfo ∧
      (MovementSystem.update env dt s m).1.ai.state = m.ai.state ∧
      (MovementSystem.update env dt s m).1.ai.netSynced = m.ai.netSynced := by
  have hsync := (MovementSystem.update_kept env dt s m).netSynced
  obtain ⟨-, he⟩ | ⟨-, he⟩ | ⟨-, _, _, _, -, he⟩ := MovementSystem.update_cases env dt s m <;>
    rw [he] at hsync ⊢
  · exact ⟨rfl, rfl, rfl, hsync⟩
  · exact ⟨rfl, rfl, stopMove_state _, hsync⟩
  · exact ⟨rfl, rfl, setMonsterMove_state _ _ _ _, hsync⟩

theorem CombatSystem.update_stats (dt : K) (s : σ) (m : Monster K) :
    (CombatSystem.update env dt s m).1.stats = m.stats ∧
      (CombatSystem.update env dt s m).1.spawnInfo = m.spawnInfo ∧
      (CombatSystem.update env dt s m).1.ai.state = m.ai.state ∧
      (CombatSystem.update env dt s m).1.ai.netSynced = m.ai.netSynced := by
  obtain ⟨_, _, he⟩ := CombatSystem.update_fst env dt s m
  rw [he]
  exact ⟨rfl, rfl, rfl, rfl⟩

end

/-! ## Waiting for ever -/

/-- A monster that is dead and waits for its respawn, which is not due
after any delay. -/
structure Monster.Waiting (m : Monster K) : Prop where
  hp : m.stats.hp ≤ 0
  pending : m.spawnInfo.pendingRespawn = true
  delay : m.spawnInfo.respawnDelay ≤ lit 0

section

variable {env : MonsterEnvironment K σ}

theorem spawnUpdate_of_delay {dt : K} {s : σ} {m : Monster K}
    (h : m.spawnInfo.respawnDelay ≤ lit 0) : spawnUpdate env dt s m = (m, s) := by
  obtain ⟨-, he⟩ | ⟨hawaits, -⟩ | ⟨hawaits, -⟩ := spawnUpdate_cases env dt s m
  · exact he
  · exact absurd h hawaits.delay
  · exact absurd h hawaits.delay

/-- A tick changes nothing of a monster without a delay that matters here. -/
theorem MonsterWorld.ThreePasses.spawnInfo {policy : List K → Fin 5 → K} {dt : K}
    {w : MonsterWorld K} {s : σ} {m m₁ m₃ : Monster K} {s₂ : σ}
    (h : ThreePasses env policy dt w s m m₁ m₃ s₂) (hdelay : m.spawnInfo.respawnDelay ≤ lit 0)
    (s₄ : σ) :
    (CombatSystem.update env dt s₄ m₃).1.stats.hp = m.stats.hp ∧
      (CombatSystem.update env dt s₄ m₃).1.spawnInfo = m.spawnInfo := by
  obtain ⟨s₁, rfl⟩ := h.respawn
  obtain ⟨s₃, rfl⟩ := h.move
  rw [spawnUpdate_of_delay hdelay]
  obtain ⟨hstats, hinfo, -⟩ := CombatSystem.update_stats env dt s₄
    (MovementSystem.update env dt s₃ (AISystem.update env policy dt s₂ m).1).1
  obtain ⟨hstats', hinfo', -⟩ := MovementSystem.update_stats env dt s₃
    (AISystem.update env policy dt s₂ m).1
  rw [hstats, hstats', hinfo, hinfo']
  exact ⟨rfl, rfl⟩

/-- Who waits, waits after any number of ticks. -/
theorem WorldState.updates_waiting {mid : Nat} {st : WorldState K σ}
    (h : ∀ m ∈ st.world.monsters, m.id = mid → m.Waiting) (policy : List K → Fin 5 → K) (dt : K)
    (n : Nat) : ∀ m ∈ (updates env policy dt n st).world.monsters, m.id = mid → m.Waiting := by
  induction n with
  | zero => exact h
  | succ n ih =>
    intro m' hm' hid
    obtain ⟨v, hv, rfl⟩ := MonsterWorld.mem_update hm'
    obtain ⟨m, m₁, s₂, hpasses⟩ := MonsterWorld.mem_combatPasses hv
    rw [CombatSystem.update_id, hpasses.id.2] at hid
    obtain ⟨hhp, hpending, hdelay⟩ := ih m hpasses.mem hid
    obtain ⟨hhp', hinfo⟩ := hpasses.spawnInfo hdelay v.1
    exact ⟨hhp' ▸ hhp, hinfo ▸ hpending, hinfo ▸ hdelay⟩

/-- A hit that kills, or hits a dead monster, leaves a monster that waits. -/
theorem MonsterWorld.hit_waiting {m : Monster K} (hdelay : m.spawnInfo.respawnDelay ≤ lit 0)
    (h : m.stats.hp ≤ 0 ∨ (hit m).2 = true) : (hit m).1.Waiting := by
  unfold hit at h ⊢
  simp only at h ⊢
  split
  · exact ⟨le_refl 0, rfl, hdelay⟩
  · rename_i hpos
    rw [if_neg hpos] at h
    obtain h | h := h
    · exact absurd (show m.stats.hp - 10 ≤ 0 by omega) hpos
    · cases h

/-- **Killed monsters wait.** As long as nobody sets a respawn delay, a
monster that was killed is dead and waits. -/
theorem worldSystem_waiting {R : σ → σ → Prop} (hzero : (lit 0 : K) ≤ lit 0)
    {l : List (WorldState K σ × WorldAction K σ)} {st : WorldState K σ}
    (r : Run (worldSystem env R) l st)
    (hdelay : ∀ p ∈ l, ∀ mid delay, p.2 ≠ .setRespawnDelay mid delay) :
    ∀ m ∈ st.world.monsters, m.spawnInfo.respawnDelay ≤ lit 0 ∧
      ((∃ p ∈ l, WorldState.Kills env m.id p) → m.Waiting) := by
  refine fun m hm => worldSystem_forall
    (fun l m => (∀ p ∈ l, ∀ mid delay, p.2 ≠ .setRespawnDelay mid delay) →
      m.spawnInfo.respawnDelay ≤ lit 0 ∧ ((∃ p ∈ l, WorldState.Kills env m.id p) → m.Waiting))
    ?_ ?_ r m hm hdelay
  · intro l st mid x y prefabName monsterType maxHp hp maxSp sp atk d r hnew m hm _
    simp only [MonsterWorld.createMonster, List.nil_append, List.mem_singleton] at hm
    subst hm
    refine ⟨hzero, ?_⟩
    rintro ⟨p, hp, hkills⟩
    -- nobody kills what is not there yet
    rcases List.mem_cons.mp hp with rfl | hp
    · obtain ⟨ha | ha, -⟩ := hkills <;> cases ha
    · exact absurd (worldSystem_ids_mono r p hp mid (WorldState.mem_ids_of_kills hkills)) hnew
  · intro l st a m m' r hnd hm hstep h hdelay
    obtain ⟨hzero, hwaiting⟩ := h fun p hp => hdelay p (List.mem_cons_of_mem _ hp)
    cases hstep with
    | same hattack hskill _ =>
      refine ⟨hzero, ?_⟩
      rintro ⟨p, hp, hkills⟩
      rcases List.mem_cons.mp hp with rfl | hp
      · exact (hkills.1.elim hattack hskill).elim
      · exact hwaiting ⟨p, hp, hkills⟩
    | delayed delay => exact absurd rfl (hdelay _ List.mem_cons_self m.id delay)
    | hit ha =>
      have hinfo : (MonsterWorld.hit m).1.spawnInfo.respawnDelay = m.spawnInfo.respawnDelay := by
        unfold MonsterWorld.hit
        simp only
        split <;> rfl
      refine ⟨hinfo ▸ hzero, ?_⟩
      rintro ⟨p, hp, hkills⟩
      rw [MonsterWorld.hit_id] at hkills
      refine MonsterWorld.hit_waiting hzero ?_
      rcases List.mem_cons.mp hp with rfl | hp
      · exact .inr ((WorldState.attack_of_mem hnd hm).symm.trans hkills.2)
      · exact .inl (hwaiting ⟨p, hp, hkills⟩).hp
    | tick hv hpasses =>
      obtain ⟨hhp, hinfo⟩ := hpasses.spawnInfo hzero _
      refine ⟨hinfo ▸ hzero, ?_⟩
      rintro ⟨p, hp, hkills⟩
      rw [CombatSystem.update_id, hpasses.id.2] at hkills
      rcases List.mem_cons.mp hp with rfl | hp
      · obtain ⟨ha | ha, -⟩ := hkills <;> cases ha
      · obtain ⟨hdead, hpending, -⟩ := hwaiting ⟨p, hp, hkills⟩
        exact ⟨hhp ▸ hdead, hinfo ▸ hpending, hinfo ▸ hzero⟩

/-- **Killed monsters do not come back.** In a world whose monsters were
all made by `create_monster`, however long one ticks on after a monster
was killed, it never comes back: `create_monster` leaves `respawnDelay`
zero, and with no delay `SpawnSystem` never gets to the respawn. Of the
arithmetic only `0 ≤ 0` is needed. -/
theorem killed_stays_dead (env : MonsterEnvironment K σ) (hzero : (lit 0 : K) ≤ lit 0)
    (l : List (WorldState K (σ × Calls) × WorldAction K (σ × Calls)))
    (st : WorldState K (σ × Calls)) (r : Run (recordedSystem env) l st)
    (hdelay : ∀ p ∈ l, ∀ mid delay, p.2 ≠ .setRespawnDelay mid delay) (mid : Nat)
    (hkilled : ∃ p ∈ l, WorldState.Kills env.recorded mid p) :
    ∀ policy dt, ¬ ∃ n, WorldState.CameBack mid st (st.updates env.recorded policy dt n) := by
  rintro policy dt ⟨n, m, hm, hid, -, -, hpending, -⟩
  have hwaiting : ∀ m ∈ st.world.monsters, m.id = mid → m.Waiting := by
    rintro m hm rfl
    exact (worldSystem_waiting hzero (recordedSystem_worldRun r) hdelay m hm).2 hkilled
  have h := (WorldState.updates_waiting hwaiting policy dt n m hm hid).pending
  rw [hpending] at h
  cases h

end

/-- A world with an archer on its last ten hp, and after a skill hit it. -/
def lastTen : WorldState ℚ (Option (ℚ × ℚ) × Calls) :=
  ({ outside := (some (15, 0), {}) } : WorldState ℚ (Option (ℚ × ℚ) × Calls)).step
    onePlayer.recorded (.create 1000 0 0 "BowAndArrow1" 1 200 10 100 100 7 3)

def lastTenHit : WorldState ℚ (Option (ℚ × ℚ) × Calls) :=
  lastTen.step onePlayer.recorded (.skill 1000)

theorem lastTenHit_run :
    Run (recordedSystem onePlayer)
      [(lastTen, .skill 1000),
        ({ outside := (some (15, 0), {}) }, .create 1000 0 0 "BowAndArrow1" 1 200 10 100 100 7 3)]
      lastTenHit := by
  have r₀ : Run (recordedSystem onePlayer) [] { outside := (some (15, 0), {}) } := .start ⟨rfl, rfl⟩
  have r₁ : Run (recordedSystem onePlayer) _ lastTen :=
    r₀.next (.create 1000 0 0 "BowAndArrow1" 1 200 10 100 100 7 3)
      ⟨show 1000 ∉ ([] : List Nat) by decide, rfl⟩
  exact r₁.next (.skill 1000) ⟨trivial, rfl⟩

/-- It stays dead, however many seconds one ticks on. -/
theorem killed_stays_dead_archer : ¬ ∃ n,
    WorldState.CameBack 1000 lastTenHit
      (lastTenHit.updates onePlayer.recorded (fun _ _ => 0) 1 n) :=
  killed_stays_dead onePlayer (by decide) _ _ lastTenHit_run (by simp) 1000
    ⟨(lastTen, .skill 1000), by simp, .inr rfl, by decide +kernel⟩ _ _

/-- Not every killed monster comes back. -/
theorem killed_comes_back_fails :
    ¬ ∀ (l : List (WorldState ℚ (Option (ℚ × ℚ) × Calls) ×
          WorldAction ℚ (Option (ℚ × ℚ) × Calls))) (st : WorldState ℚ (Option (ℚ × ℚ) × Calls)),
        Run (recordedSystem onePlayer) l st →
        (∀ p ∈ l, ∀ mid delay, p.2 ≠ .setRespawnDelay mid delay) →
        (∀ p ∈ l, ∀ mid x y prefabName monsterType maxHp hp maxSp sp atk d,
          p.2 = .create mid x y prefabName monsterType maxHp hp maxSp sp atk d → 0 < hp ∧ 0 < maxHp) →
        ∀ mid, (∃ p ∈ l, WorldState.Kills onePlayer.recorded mid p) →
        ∀ policy dt, 0 < dt →
          ∃ n, WorldState.CameBack mid st (st.updates onePlayer.recorded policy dt n) := by
  intro h
  obtain ⟨n, m, hm, hid, -, -, hpending, -⟩ := h _ _ lastTenHit_run (by simp)
    (by
      simp only [List.mem_cons, List.not_mem_nil, or_false, forall_eq_or_imp, forall_eq]
      exact ⟨nofun, fun _ _ _ _ _ _ _ _ _ _ _ he => by cases he; decide⟩)
    1000 ⟨(lastTen, .skill 1000), by simp, .inr rfl, by decide +kernel⟩ (fun _ _ => 0) 1 one_pos
  have hdead : ∀ m ∈ lastTenHit.world.monsters, m.stats.hp ≤ 0 ∧
      m.spawnInfo.pendingRespawn = true ∧ m.spawnInfo.respawnDelay ≤ lit 0 := by decide +kernel
  have hwaiting : ∀ m ∈ lastTenHit.world.monsters, m.id = 1000 → m.Waiting := by
    intro m hm _
    obtain ⟨hhp, hpending, hdelay⟩ := hdead m hm
    exact ⟨hhp, hpending, hdelay⟩
  have hstill := (WorldState.updates_waiting hwaiting (fun _ _ => 0) 1 n m hm hid).pending
  rw [hpending] at hstill
  cases hstill

/-! ## What clients know -/

/-- Clients know hp and state of the monster. -/
structure Replicated (s : σ × Calls) (m : Monster K) : Prop where
  netSynced : m.ai.netSynced = true
  state : s.2.state m.id = some m.ai.state
  stat : s.2.stat m.id = some m.stats.hp

/-- Clients of a monster they were told of know its state, and its hp or
it is marked. -/
def Announced (s : σ × Calls) (m : Monster K) : Prop :=
  m.ai.netSynced = true →
    s.2.state m.id = some m.ai.state ∧ (s.2.stat m.id = some m.stats.hp ∨ m.stats.dirty = true)

section

variable {env : MonsterEnvironment K σ}

omit [Scalar K] in
theorem Replicated.announced {s : σ × Calls} {m : Monster K} (h : Replicated s m) :
    Announced s m := fun _ => ⟨h.state, .inl h.stat⟩

omit [Scalar K] in
/-- Calls about others tell nothing new. -/
theorem Replicated.congr {s s' : σ × Calls} {m : Monster K} (h : Replicated s m)
    (hstate : s'.2.state m.id = s.2.state m.id) (hstat : s'.2.stat m.id = s.2.stat m.id) :
    Replicated s' m := ⟨h.netSynced, hstate.trans h.state, hstat.trans h.stat⟩

omit [Scalar K] in
theorem Announced.congr {s s' : σ × Calls} {m : Monster K} (h : Announced s m)
    (hstate : s'.2.state m.id = s.2.state m.id) (hstat : s'.2.stat m.id = s.2.stat m.id) :
    Announced s' m := by
  intro hsync
  rw [hstate, hstat]
  exact h hsync

/-- A respawn calls `spawnInAoi` only. -/
theorem spawnUpdate_calls (env : MonsterEnvironment K σ) (dt : K) (s : σ × Calls) (m : Monster K) :
    (spawnUpdate env.recorded dt s m).2.2.state = s.2.state ∧
      (spawnUpdate env.recorded dt s m).2.2.stat = s.2.stat := by
  obtain ⟨-, he⟩ | ⟨-, -, he⟩ | ⟨-, -, he⟩ := spawnUpdate_cases env.recorded dt s m
  all_goals
    rw [he]
    exact ⟨rfl, rfl⟩

/-- A pass that respawns nobody clients know of leaves them informed. -/
theorem Announced.spawnUpdate {s : σ × Calls} {m : Monster K} {dt : K} (h : Announced s m)
    (hrespawn : ¬ m.Respawns dt) :
    Announced (spawnUpdate env.recorded dt s m).2 (spawnUpdate env.recorded dt s m).1 := by
  obtain ⟨-, he⟩ | ⟨-, -, he⟩ | ⟨hawaits, htimer, he⟩ :=
    spawnUpdate_cases env.recorded dt s m <;> rw [he]
  · exact h
  · exact h.congr rfl rfl
  · intro hsync
    exact absurd ⟨hsync, hawaits.hp, hawaits.pending, hawaits.delay, htimer⟩ hrespawn

/-- The calls of `AISystem` about others. -/
theorem aiUpdate_calls_other (env : MonsterEnvironment K σ) (policy : List K → Fin 5 → K)
    (dt : K) (s : σ × Calls) (m : Monster K) {i : Nat} (hi : i ≠ m.id) :
    (AISystem.update env.recorded policy dt s m).2.2.state i = s.2.state i ∧
      (AISystem.update env.recorded policy dt s m).2.2.stat i = s.2.stat i := by
  have hstate : ∀ (c : Nat → Option AiState) st, Function.update c m.id st i = c i :=
    fun c st => Function.update_of_ne hi st c
  have hstat : ∀ (c : Nat → Option Int) hp, Function.update c m.id hp i = c i :=
    fun c hp => Function.update_of_ne hi hp c
  have hsync : ∀ ai, (AISystem.sync env.recorded s { m with ai }).2.2.state i = s.2.state i ∧
      (AISystem.sync env.recorded s { m with ai }).2.2.stat i = s.2.stat i := by
    intro ai
    unfold AISystem.sync
    simp only
    split
    · exact ⟨rfl, rfl⟩
    · exact ⟨hstate _ _, hstat _ _⟩
  have hannounced : (AISystem.announced env.recorded dt s m).2.2.state i = s.2.state i ∧
      (AISystem.announced env.recorded dt s m).2.2.stat i = s.2.stat i := by
    unfold AISystem.announced
    simp only
    split
    · exact ⟨(hsync _).1, (hstat _ _).trans (hsync _).2⟩
    · exact hsync _
  rw [AISystem.update_eq]
  simp only
  split
  · exact ⟨(hstate _ _).trans hannounced.1, hannounced.2⟩
  · exact hannounced

/-- After its announcements a monster is known as it was before the pass. -/
theorem announced_calls (env : MonsterEnvironment K σ) (dt : K) {s : σ × Calls} {m : Monster K}
    (h : Announced s m) :
    (AISystem.announced env.recorded dt s m).2.2.state m.id = some m.ai.state ∧
      (AISystem.announced env.recorded dt s m).2.2.stat m.id = some m.stats.hp := by
  have hself : ∀ (c : Nat → Option AiState) st, Function.update c m.id st m.id = st :=
    fun c st => Function.update_self m.id st c
  have hself' : ∀ (c : Nat → Option Int) hp, Function.update c m.id hp m.id = hp :=
    fun c hp => Function.update_self m.id hp c
  unfold AISystem.announced AISystem.sync
  cases hsync : m.ai.netSynced with
  | false =>
    simp only [hsync, Bool.false_eq_true, if_false]
    split
    · exact ⟨hself _ _, hself' _ _⟩
    · exact ⟨hself _ _, hself' _ _⟩
  | true =>
    obtain ⟨hstate, hstat⟩ := h hsync
    simp only [hsync, if_true]
    split
    · exact ⟨hstate, hself' _ _⟩
    · rename_i hdirty
      exact ⟨hstate, hstat.resolve_right hdirty⟩

/-- **After its pass of `AISystem`, clients know a monster.** -/
theorem Announced.aiUpdate {s : σ × Calls} {m : Monster K} (h : Announced s m)
    (policy : List K → Fin 5 → K) (dt : K) :
    Replicated (AISystem.update env.recorded policy dt s m).2
      (AISystem.update env.recorded policy dt s m).1 := by
  obtain ⟨hstate, hstat⟩ := announced_calls env dt h
  have hsync := (AISystem.update_kept env.recorded policy dt s m).netSynced
  rw [AISystem.update_eq] at hsync ⊢
  refine ⟨hsync, ?_, ?_⟩
  · simp only
    split
    · exact Function.update_self m.id _ _
    · rename_i hsame
      rw [not_not.mp hsame]
      exact hstate
  · simp only
    split
    · exact hstat
    · exact hstat

theorem movementUpdate_calls (dt : K) (s : σ × Calls) (m : Monster K) :
    (MovementSystem.update env.recorded dt s m).2.2 = s.2 := by
  obtain ⟨-, he⟩ | ⟨-, he⟩ | ⟨-, _, _, _, -, he⟩ :=
    MovementSystem.update_cases env.recorded dt s m
  all_goals exact congrArg (fun r => r.2.2) he

theorem combatUpdate_calls (dt : K) (s : σ × Calls) (m : Monster K) :
    (CombatSystem.update env.recorded dt s m).2.2 = s.2 := by
  rw [CombatSystem.update_snd]
  cases CombatSystem.attackCall env.recorded dt s m with
  | none => rfl
  | some p => rw [Option.map_some, Option.getD_some, recorded_attackPlayer]

omit [Scalar K] in
/-- A system that changes nothing clients know leaves them informed. -/
theorem replicated_loop {f : σ × Calls → Monster K → Monster K × (σ × Calls)}
    (hid : ∀ s m, (f s m).1.id = m.id) (hcalls : ∀ s m, (f s m).2.2 = s.2)
    (hsame : ∀ s m, (f s m).1.stats = m.stats ∧ (f s m).1.spawnInfo = m.spawnInfo ∧
      (f s m).1.ai.state = m.ai.state ∧ (f s m).1.ai.netSynced = m.ai.netSynced)
    {s : σ × Calls} {ms : List (Monster K)} (hnd : (ms.map Monster.id).Nodup)
    (h : ∀ m ∈ ms, Replicated s m) :
    ∀ m ∈ (updateLoop f s ms).1, Replicated (updateLoop f s ms).2 m := by
  refine updateLoop_forall hid (fun s m hm => ?_) (fun s a b _ _ hb => ?_) hnd h
  · obtain ⟨hstats, -, hstate, hsync⟩ := hsame s m
    refine ⟨hsync.trans hm.netSynced, ?_, ?_⟩
    · rw [hcalls, hid, hstate]
      exact hm.state
    · rw [hcalls, hid, hstats]
      exact hm.stat
  · exact hb.congr (by rw [hcalls]) (by rw [hcalls])

/-- **A tick in which nobody respawns leaves every monster known.** -/
theorem update_replicated (policy : List K → Fin 5 → K) (dt : K) {w : MonsterWorld K}
    {s : σ × Calls} (hnd : (w.monsters.map Monster.id).Nodup)
    (h : ∀ m ∈ w.monsters, Announced s m) (hrespawn : ∀ m ∈ w.monsters, ¬ m.Respawns dt) :
    ∀ m ∈ (w.update env.recorded policy dt s).1.monsters,
      Replicated (w.update env.recorded policy dt s).2 m := by
  have hspawned : ∀ m ∈ (w.spawned env.recorded dt s).1,
      Announced (w.spawned env.recorded dt s).2 m :=
    updateLoop_turn (spawnUpdate_id env.recorded dt)
      (fun s m (h : Announced s m ∧ ¬ m.Respawns dt) => h.1.spawnUpdate h.2)
      (fun s a b _ _ => by
        obtain ⟨hstate, hstat⟩ := spawnUpdate_calls env dt s a
        exact ⟨fun hb => ⟨hb.1.congr (congrFun hstate _) (congrFun hstat _), hb.2⟩,
          fun hb => hb.congr (congrFun hstate _) (congrFun hstat _)⟩)
      hnd fun m hm => ⟨h m hm, hrespawn m hm⟩
  have hnd₁ : ((w.spawned env.recorded dt s).1.map Monster.id).Nodup :=
    (updateLoop_map (spawnUpdate_id env.recorded dt) s w.monsters).symm ▸ hnd
  have hdecided : ∀ m ∈ (w.decided env.recorded policy dt s).1,
      Replicated (w.decided env.recorded policy dt s).2 m :=
    updateLoop_turn (AISystem.update_id env.recorded policy dt)
      (fun s m (h : Announced s m) => h.aiUpdate policy dt)
      (fun s a b _ hne => by
        obtain ⟨hstate, hstat⟩ := aiUpdate_calls_other env policy dt s a hne
        exact ⟨fun hb => hb.congr hstate hstat, fun hb => hb.congr hstate hstat⟩)
      hnd₁ hspawned
  have hnd₂ : ((w.decided env.recorded policy dt s).1.map Monster.id).Nodup :=
    (updateLoop_map (AISystem.update_id env.recorded policy dt) _ _).symm ▸ hnd₁
  have hmoved : ∀ m ∈ (w.moved env.recorded policy dt s).1,
      Replicated (w.moved env.recorded policy dt s).2 m :=
    replicated_loop (MovementSystem.update_id env.recorded dt) (movementUpdate_calls dt)
      (MovementSystem.update_stats env.recorded dt) hnd₂ hdecided
  have hnd₃ : ((w.moved env.recorded policy dt s).1.map Monster.id).Nodup :=
    (updateLoop_map (MovementSystem.update_id env.recorded dt) _ _).symm ▸ hnd₂
  exact replicated_loop (CombatSystem.update_id env.recorded dt) (combatUpdate_calls dt)
    (CombatSystem.update_stats env.recorded dt) hnd₃ hmoved

/-- A hit marks the monster; the death it may cause is broadcast. -/
theorem hit_announced (env : MonsterEnvironment K σ) {s : σ × Calls} {m : Monster K}
    (h : Announced s m) :
    ((MonsterWorld.hit m).2 = false → Announced s (MonsterWorld.hit m).1) ∧
      ((MonsterWorld.hit m).2 = true → ∀ s', s'.2 = s.2 →
        Announced (env.recorded.broadcastAiState s' m.id .dead) (MonsterWorld.hit m).1) := by
  unfold MonsterWorld.hit
  simp only
  split
  · refine ⟨nofun, fun _ s' hs' _ => ⟨?_, .inr rfl⟩⟩
    exact Function.update_self m.id _ _
  · exact ⟨fun _ hsync => ⟨(h hsync).1, .inr rfl⟩, nofun⟩

theorem skill_announced {st : WorldState K (σ × Calls)} (hnd : st.ids.Nodup)
    (h : ∀ m ∈ st.world.monsters, Announced st.outside m) (mid : Nat) :
    ∀ m ∈ (st.step env.recorded (.skill mid)).world.monsters,
      Announced (st.step env.recorded (.skill mid)).outside m := by
  let r := MonsterWorld.playerAttackMonster env.recorded mid st.world.monsters st.outside
  have hcalls : r.2.1.2 = st.outside.2 :=
    congrArg (fun r => r.2.1.2) (recorded_playerAttackMonster env mid st.world.monsters st.outside)
  have hmonsters : (st.step env.recorded (.skill mid)).world.monsters = r.1 := by
    unfold WorldState.step
    simp only
    split <;> rfl
  have houtside : (st.step env.recorded (.skill mid)).outside =
      if r.2.2 = true then env.recorded.broadcastAiState r.2.1 mid .dead else r.2.1 := by
    unfold WorldState.step
    simp only
    split
    · rename_i hdead
      exact (if_pos hdead).symm
    · rename_i hdead
      exact (if_neg hdead).symm
  rw [hmonsters, houtside]
  intro m' hm'
  obtain ⟨hm', hne⟩ | ⟨m, hm, hid, rfl, hresult⟩ := WorldState.mem_playerAttackMonster hnd hm'
  · -- another monster
    have hkept : Announced r.2.1 m' := (h m' hm').congr (by rw [hcalls]) (by rw [hcalls])
    split
    · exact hkept.congr (Function.update_of_ne hne _ _) rfl
    · exact hkept
  · have hresult : r.2.2 = (MonsterWorld.hit m).2 := hresult
    obtain ⟨halive, hdead⟩ := hit_announced env (h m hm)
    rw [hresult, ← hid]
    cases hhit : (MonsterWorld.hit m).2 with
    | true =>
      rw [if_pos rfl]
      exact hdead hhit r.2.1 hcalls
    | false =>
      rw [if_neg nofun]
      exact (halive hhit).congr (by rw [hcalls]) (by rw [hcalls])

/-- What the run theorem asks of a step: an attack is a skill, and an
update respawns nobody clients know of. -/
def KeepsReplica (st : WorldState K (σ × Calls)) (a : WorldAction K (σ × Calls)) : Prop :=
  (∀ mid, a ≠ .attack mid) ∧
    ∀ policy dt, a = .update policy dt → ∀ m ∈ st.world.monsters, ¬ m.Respawns dt

theorem announced_step {st : WorldState K (σ × Calls)} (hnd : st.ids.Nodup)
    (h : ∀ m ∈ st.world.monsters, Announced st.outside m) {a : WorldAction K (σ × Calls)}
    (ha : KeepsReplica st a) (hallowed : st.Allowed (fun s s' => s'.2 = s.2) a) :
    ∀ m ∈ (st.step env.recorded a).world.monsters,
      Announced (st.step env.recorded a).outside m := by
  cases a with
  | create mid x y prefabName monsterType maxHp hp maxSp sp atk d =>
    intro m hm
    rcases List.mem_append.mp hm with hm | hm
    · exact h m hm
    · obtain rfl := List.mem_singleton.mp hm
      exact nofun
  | setRespawnDelay mid delay =>
    intro m' hm'
    obtain ⟨m, hm, rfl⟩ := List.mem_map.mp hm'
    have hannounced := h m hm
    split <;> exact hannounced
  | update policy dt =>
    intro m hm
    exact (update_replicated policy dt hnd h (ha.2 policy dt rfl) m hm).announced
  | attack mid => exact absurd rfl (ha.1 mid)
  | skill mid => exact skill_announced hnd h mid
  | outside s =>
    have hcalls : s.2 = st.outside.2 := hallowed
    intro m hm
    have houtside : (st.step env.recorded (.outside s)).outside = s := rfl
    exact (h m hm).congr (by rw [houtside, hcalls])
      (by rw [show (st.step env.recorded (.outside s)).outside = s from rfl, hcalls])

/-- **Monster replication.** In a run whose attacks are skills and whose
updates respawn nobody clients know of, after every update clients know hp
and state of every monster. -/
theorem monsters_replicated (env : MonsterEnvironment K σ)
    (l : List (WorldState K (σ × Calls) × WorldAction K (σ × Calls)))
    (st : WorldState K (σ × Calls)) (r : Run (recordedSystem env) l st)
    (hskill : ∀ p ∈ l, ∀ mid, p.2 ≠ .attack mid)
    (hrespawn : ∀ p ∈ l, ∀ policy dt, p.2 = .update policy dt →
      ∀ m ∈ p.1.world.monsters, ¬ m.Respawns dt) :
    ∀ p ∈ l, ∀ policy dt, p.2 = .update policy dt →
      ∀ m ∈ (p.1.step env.recorded p.2).world.monsters,
        (p.1.step env.recorded p.2).outside.2.stat m.id = some m.stats.hp ∧
        (p.1.step env.recorded p.2).outside.2.state m.id = some m.ai.state := by
  have hkeeps : Run ((recordedSystem env).restrict KeepsReplica) l st :=
    r.restrict fun p hp => ⟨hskill p hp, hrespawn p hp⟩
  rintro ⟨st', a⟩ hp policy dt rfl
  obtain ⟨l', t', r', -⟩ := hkeeps.source _ hp
  have hinv : st'.ids.Nodup ∧ ∀ m ∈ st'.world.monsters, Announced st'.outside m := by
    refine r'.invariant (I := fun st => st.ids.Nodup ∧
      ∀ m ∈ st.world.monsters, Announced st.outside m) ?_ ?_
    · rintro st ⟨hnone, -⟩
      rw [WorldState.ids, hnone]
      exact ⟨List.nodup_nil, fun m hm => by cases hm⟩
    · rintro st a st' ⟨hnd, h⟩ ⟨ha, hallowed, rfl⟩
      exact ⟨WorldState.step_ids_nodup hnd hallowed, announced_step hnd h ha hallowed⟩
  intro m hm
  have h := update_replicated policy dt hinv.1 hinv.2
    (hrespawn _ hp policy dt rfl) m hm
  exact ⟨h.stat, h.state⟩

end

/-- The archer is announced in the first tick, hit, and lies dead for a
tick; its hp is the one clients were told in the latter. -/
theorem monsters_replicated_dead :
    let announced := lastTen.step onePlayer.recorded (.update (fun _ _ => 0) (1 / 10))
    let hit := announced.step onePlayer.recorded (.skill 1000)
    let dead := hit.step onePlayer.recorded (.update (fun _ _ => 0) (1 / 10))
    ∃ m ∈ dead.world.monsters, m.stats.hp = 0 ∧ dead.outside.2.stat m.id = some 0 := by
  intro announced hit dead
  have r₀ : Run (recordedSystem onePlayer) [] { outside := (some (15, 0), {}) } := .start ⟨rfl, rfl⟩
  have r₁ : Run (recordedSystem onePlayer) _ lastTen :=
    r₀.next (.create 1000 0 0 "BowAndArrow1" 1 200 10 100 100 7 3)
      ⟨show 1000 ∉ ([] : List Nat) by decide, rfl⟩
  have r₂ : Run (recordedSystem onePlayer) _ announced :=
    r₁.next (.update (fun _ _ => 0) (1 / 10)) ⟨trivial, rfl⟩
  have r₃ : Run (recordedSystem onePlayer) _ hit := r₂.next (.skill 1000) ⟨trivial, rfl⟩
  have r₄ : Run (recordedSystem onePlayer) _ dead :=
    r₃.next (.update (fun _ _ => 0) (1 / 10)) ⟨trivial, rfl⟩
  obtain ⟨m, hm, hhp⟩ : ∃ m ∈ dead.world.monsters, m.stats.hp = 0 := by decide +kernel
  have hnone : (∀ m ∈ lastTen.world.monsters, m.spawnInfo.respawnDelay ≤ 0) ∧
      ∀ m ∈ hit.world.monsters, m.spawnInfo.respawnDelay ≤ 0 := by decide +kernel
  refine ⟨m, hm, hhp, ?_⟩
  rw [← hhp]
  refine (monsters_replicated onePlayer _ _ r₄ (by simp) ?_ (hit, .update (fun _ _ => 0) (1 / 10))
    (by simp) _ _ rfl m hm).1
  intro p hp policy dt hupdate m hm hrespawns
  have hdelay : ¬ m.spawnInfo.respawnDelay ≤ 0 := hrespawns.2.2.2.1
  simp only [List.mem_cons, List.not_mem_nil, or_false] at hp
  rcases hp with rfl | rfl | rfl | rfl
  · exact hdelay (hnone.2 m hm)
  · cases hupdate
  · exact hdelay (hnone.1 m hm)
  · cases hupdate

/-- The archer with a respawn delay of half a second, told of in the first
tick, hit, and dead for a tick. -/
def lastTenDead : WorldState ℚ (Option (ℚ × ℚ) × Calls) :=
  (((lastTen.step onePlayer.recorded (.setRespawnDelay 1000 (1 / 2))).step onePlayer.recorded
    (.update (fun _ _ => 0) (1 / 10))).step onePlayer.recorded (.skill 1000)).step
    onePlayer.recorded (.update (fun _ _ => 0) (1 / 10))

theorem lastTenDead_run : ∃ l, Run (recordedSystem onePlayer) l lastTenDead ∧
    ∀ p ∈ l, ∀ mid, p.2 ≠ .attack mid := by
  have r₀ : Run (recordedSystem onePlayer) [] { outside := (some (15, 0), {}) } := .start ⟨rfl, rfl⟩
  have r₁ : Run (recordedSystem onePlayer) _ lastTen :=
    r₀.next (.create 1000 0 0 "BowAndArrow1" 1 200 10 100 100 7 3)
      ⟨show 1000 ∉ ([] : List Nat) by decide, rfl⟩
  have r₂ := r₁.next (.setRespawnDelay 1000 (1 / 2)) ⟨trivial, rfl⟩
  have r₃ := r₂.next (.update (fun _ _ => 0) (1 / 10)) ⟨trivial, rfl⟩
  have r₄ := r₃.next (.skill 1000) ⟨trivial, rfl⟩
  have r₅ := r₄.next (.update (fun _ _ => 0) (1 / 10)) ⟨trivial, rfl⟩
  exact ⟨_, r₅, by simp⟩

/-- It respawns in the next tick, and clients still believe it has no hp. -/
theorem respawn_is_not_announced :
    ¬ ∀ (l : List (WorldState ℚ (Option (ℚ × ℚ) × Calls) ×
          WorldAction ℚ (Option (ℚ × ℚ) × Calls))) (st : WorldState ℚ (Option (ℚ × ℚ) × Calls)),
        Run (recordedSystem onePlayer) l st → (∀ p ∈ l, ∀ mid, p.2 ≠ .attack mid) →
        ∀ p ∈ l, ∀ policy dt, p.2 = .update policy dt →
          ∀ m ∈ (p.1.step onePlayer.recorded p.2).world.monsters,
            (p.1.step onePlayer.recorded p.2).outside.2.stat m.id = some m.stats.hp ∧
            (p.1.step onePlayer.recorded p.2).outside.2.state m.id = some m.ai.state := by
  intro h
  obtain ⟨l, r, hskill⟩ := lastTenDead_run
  have r' := r.next (.update (fun _ _ => 0) (1 / 2)) ⟨trivial, rfl⟩
  obtain ⟨m, hm, hwrong⟩ :
      ∃ m ∈ (lastTenDead.step onePlayer.recorded (.update (fun _ _ => 0) (1 / 2))).world.monsters,
        (lastTenDead.step onePlayer.recorded (.update (fun _ _ => 0) (1 / 2))).outside.2.stat m.id ≠
          some m.stats.hp := by decide +kernel
  have htold := h _ _ r' (by simpa using hskill) (lastTenDead, .update (fun _ _ => 0) (1 / 2))
    List.mem_cons_self _ _ rfl m hm
  exact hwrong htold.1

end MmorpgServer.Field
