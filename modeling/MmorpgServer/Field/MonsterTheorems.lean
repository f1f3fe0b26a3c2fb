/-
MmorpgServer.Field.MonsterTheorems — the life of a monster.

Life and death are recorded in five places: hp, the AI state,
`pendingRespawn`, whether the index holds the monster, and where.
`LifeCycle` is the two combinations that are consistent, alive and dead.
Each system and each hit takes one monster from one of the two to one of
the two, and touches the place of no other monster; the loop rule of the
library carries this over the systems.

What is needed of the environment is `Keeps` (the callbacks keep an
invariant of the state behind them) and `Places` (what they do to the
place an entity is registered at).
-/
import MmorpgServer.Field.Monster

namespace MmorpgServer.Field

open MmorpgServer.Lib Scalar

variable {K σ : Type} [Scalar K]

/-! ## Environments -/

/-- Every callback that leaves the index alone keeps `I`. -/
structure MonsterEnvironment.Quiet (env : MonsterEnvironment K σ) (I : σ → Prop) : Prop where
  broadcastCombat : ∀ s mid pid dmg hp, I s → I (env.broadcastCombat s mid pid dmg hp)
  broadcastAiState : ∀ s mid st, I s → I (env.broadcastAiState s mid st)
  broadcastPlayerState : ∀ s pid st, I s → I (env.broadcastPlayerState s pid st)
  broadcastMonsterStat : ∀ s mid hp maxHp sp maxSp, I s →
    I (env.broadcastMonsterStat s mid hp maxHp sp maxSp)
  broadcastPlayerStat : ∀ s pid hp maxHp sp maxSp, I s →
    I (env.broadcastPlayerStat s pid hp maxHp sp maxSp)
  setPlayerStats : ∀ s pid hp sp, I s → I (env.setPlayerStats s pid hp sp)
  markPlayerDirty : ∀ s pid, I s → I (env.markPlayerDirty s pid)

/-- Every callback keeps `I`, those on the index for the ids in `ids`. -/
structure MonsterEnvironment.Keeps (env : MonsterEnvironment K σ) (ids : Nat → Prop)
    (I : σ → Prop) : Prop extends env.Quiet I where
  moveInAoi : ∀ s mid x y, ids mid → I s → I (env.moveInAoi s mid x y)
  spawnInAoi : ∀ s mid x y, ids mid → I s → I (env.spawnInAoi s mid x y)
  removeFromAoi : ∀ s mid, ids mid → I s → I (env.removeFromAoi s mid)

/-! ## What a pass of each system does -/

/-- A monster waits for a respawn that will come. -/
structure Monster.Awaits (m : Monster K) : Prop where
  hp : ¬ 0 < m.stats.hp
  pending : m.spawnInfo.pendingRespawn = true
  delay : ¬ m.spawnInfo.respawnDelay ≤ lit 0

/-- The monster `SpawnSystem` brings back. -/
def Monster.respawned (m : Monster K) : Monster K :=
  { m with
    spawnInfo := { m.spawnInfo with pendingRespawn := false, respawnTimer := lit 0 }
    stats := { m.stats with hp := m.stats.maxHp }
    transform := ⟨m.spawnInfo.spawnX, m.spawnInfo.spawnY⟩
    ai := { m.ai with
      state := .idle, targetId := 0, thinkCooldown := lit 0, attackTimer := lit 0 } }

/-- `SpawnSystem` counts the time of a monster that waits, or brings it
back. -/
theorem spawnUpdate_cases (env : MonsterEnvironment K σ) (dt : K) (s : σ) (m : Monster K) :
    (¬ m.Awaits ∧ spawnUpdate env dt s m = (m, s)) ∨
    (m.Awaits ∧ m.spawnInfo.respawnTimer + dt < m.spawnInfo.respawnDelay ∧
      spawnUpdate env dt s m =
        ({ m with spawnInfo := { m.spawnInfo with
            respawnTimer := m.spawnInfo.respawnTimer + dt } }, s)) ∨
    (m.Awaits ∧ ¬ m.spawnInfo.respawnTimer + dt < m.spawnInfo.respawnDelay ∧
      spawnUpdate env dt s m =
        (m.respawned, env.spawnInAoi s m.id m.spawnInfo.spawnX m.spawnInfo.spawnY)) := by
  unfold spawnUpdate
  split
  · rename_i hhp
    exact .inl ⟨fun h => h.hp hhp, rfl⟩
  rename_i hhp
  split
  · rename_i hpending
    exact .inl ⟨fun h => by simp [h.pending] at hpending, rfl⟩
  rename_i hpending
  split
  · rename_i hdelay
    exact .inl ⟨fun h => h.delay hdelay, rfl⟩
  rename_i hdelay
  have hawaits : m.Awaits := ⟨hhp, by simpa using hpending, hdelay⟩
  simp only
  split
  · rename_i htimer
    exact .inr (.inl ⟨hawaits, htimer, rfl⟩)
  · rename_i htimer
    exact .inr (.inr ⟨hawaits, htimer, rfl⟩)

/-- The monster after a step along a course. -/
def Monster.movedAlong (m : Monster K) (dt dirX dirY speed : K) : Monster K :=
  { m with
    transform := ⟨m.transform.x + dirX * speed * dt, m.transform.y + dirY * speed * dt⟩
    ai := setMonsterMove { m.ai with moveDirX := dirX, moveDirY := dirY, moveSpeed := speed }
      dirX dirY speed }

/-- `MovementSystem` lets a monster be, stops it, or moves it along its
course. -/
theorem MovementSystem.update_cases (env : MonsterEnvironment K σ) (dt : K) (s : σ)
    (m : Monster K) :
    ((m.ai.state = .idle ∨ m.ai.state = .attack ∨ m.ai.state = .dead) ∧
      MovementSystem.update env dt s m = (m, s)) ∨
    ((m.ai.state = .idle ∨ m.ai.state = .attack ∨ m.ai.state = .dead ∨
        MovementSystem.course env s m = none) ∧
      MovementSystem.update env dt s m = ({ m with ai := stopMove m.ai }, s)) ∨
    (¬ (m.ai.state = .idle ∨ m.ai.state = .attack ∨ m.ai.state = .dead) ∧
      ∃ dirX dirY speed, MovementSystem.course env s m = some (dirX, dirY, speed) ∧
        MovementSystem.update env dt s m =
          (m.movedAlong dt dirX dirY speed,
            env.moveInAoi s m.id (m.transform.x + dirX * speed * dt)
              (m.transform.y + dirY * speed * dt))) := by
  unfold MovementSystem.update
  split
  · rename_i hrests
    split
    · exact .inr (.inl ⟨by tauto, rfl⟩)
    · exact .inl ⟨hrests, rfl⟩
  · rename_i hmoves
    split
    · rename_i hcourse
      exact .inr (.inl ⟨by tauto, rfl⟩)
    · rename_i dirX dirY speed hcourse
      exact .inr (.inr ⟨hmoves, dirX, dirY, speed, hcourse, rfl⟩)

/-- `CombatSystem` resets the timer of who does not attack, counts it
while an attack is not due or has no target, and attacks. -/
theorem CombatSystem.update_cases (env : MonsterEnvironment K σ) (dt : K) (s : σ)
    (m : Monster K) :
    (m.ai.state ≠ .attack ∧ CombatSystem.update env dt s m =
      ({ m with ai := { m.ai with attackTimer := lit 0 } }, s)) ∨
    (m.ai.state = .attack ∧ (m.ai.attackTimer + dt < m.ai.attackCooldown ∨
        env.getPlayerPosition s m.ai.targetId = none) ∧
      CombatSystem.update env dt s m =
        ({ m with ai := { m.ai with attackTimer := m.ai.attackTimer + dt } }, s)) ∨
    (m.ai.state = .attack ∧ ¬ m.ai.attackTimer + dt < m.ai.attackCooldown ∧
      env.getPlayerPosition s m.ai.targetId ≠ none ∧
      CombatSystem.update env dt s m =
        ({ m with ai := { m.ai with attackCd := lit 0.9, attackTimer := lit 0 } },
          CombatSystem.attackPlayer env s m.id m.ai.targetId m.stats.atk)) := by
  unfold CombatSystem.update
  split
  · rename_i hstate
    exact .inl ⟨hstate, rfl⟩
  rename_i hstate
  replace hstate := not_not.mp hstate
  simp only
  split
  · rename_i htimer
    exact .inr (.inl ⟨hstate, .inl htimer, rfl⟩)
  · rename_i htimer
    cases hpos : env.getPlayerPosition s m.ai.targetId with
    | none => exact .inr (.inl ⟨hstate, .inr rfl, rfl⟩)
    | some pos => exact .inr (.inr ⟨hstate, htimer, Option.some_ne_none pos, rfl⟩)

/-- `CombatSystem` changes nothing of a monster but two timers. -/
theorem CombatSystem.update_fst (env : MonsterEnvironment K σ) (dt : K) (s : σ)
    (m : Monster K) : ∃ attackTimer attackCd, (CombatSystem.update env dt s m).1 =
      { m with ai := { m.ai with attackTimer, attackCd } } := by
  obtain ⟨-, h⟩ | ⟨-, -, h⟩ | ⟨-, -, -, h⟩ := CombatSystem.update_cases env dt s m <;> rw [h]
  · exact ⟨_, _, rfl⟩
  · exact ⟨_, _, rfl⟩
  · exact ⟨_, _, rfl⟩

/-! ## Ids and prefabs -/

/-- What `create_monster` sets for good. -/
def Monster.tag (m : Monster K) : Nat × String := (m.id, m.prefabName)

omit [Scalar K] in
theorem Monster.ids_of_tags {ms ms' : List (Monster K)}
    (h : ms.map Monster.tag = ms'.map Monster.tag) : ms.map Monster.id = ms'.map Monster.id := by
  have hids := congrArg (List.map Prod.fst) h
  rw [List.map_map, List.map_map] at hids
  exact hids

theorem spawnUpdate_tag (env : MonsterEnvironment K σ) (dt : K) (s : σ) (m : Monster K) :
    (spawnUpdate env dt s m).1.tag = m.tag := by
  obtain ⟨-, h⟩ | ⟨-, -, h⟩ | ⟨-, -, h⟩ := spawnUpdate_cases env dt s m
  all_goals exact congrArg (fun r => r.1.tag) h

theorem AISystem.update_tag (env : MonsterEnvironment K σ) (policy : List K → Fin 5 → K) (dt : K)
    (s : σ) (m : Monster K) : (AISystem.update env policy dt s m).1.tag = m.tag := rfl

theorem MovementSystem.update_tag (env : MonsterEnvironment K σ) (dt : K) (s : σ)
    (m : Monster K) : (MovementSystem.update env dt s m).1.tag = m.tag := by
  obtain ⟨-, h⟩ | ⟨-, h⟩ | ⟨-, _, _, _, -, h⟩ := MovementSystem.update_cases env dt s m
  all_goals exact congrArg (fun r => r.1.tag) h

theorem CombatSystem.update_tag (env : MonsterEnvironment K σ) (dt : K) (s : σ) (m : Monster K) :
    (CombatSystem.update env dt s m).1.tag = m.tag := by
  obtain ⟨_, _, h⟩ := CombatSystem.update_fst env dt s m
  rw [h]
  rfl

/-- A tick changes neither. -/
theorem MonsterWorld.update_tags (env : MonsterEnvironment K σ) (policy : List K → Fin 5 → K)
    (dt : K) (w : MonsterWorld K) (s : σ) :
    (w.update env policy dt s).1.monsters.map Monster.tag = w.monsters.map Monster.tag := by
  unfold MonsterWorld.update
  simp only
  rw [updateLoop_map (CombatSystem.update_tag env dt),
    updateLoop_map (MovementSystem.update_tag env dt),
    updateLoop_map (AISystem.update_tag env policy dt), updateLoop_map (spawnUpdate_tag env dt)]

theorem MonsterWorld.hit_tag (m : Monster K) : (hit m).1.tag = m.tag := by
  unfold hit
  simp only
  split <;> rfl

/-- Neither does an attack. -/
theorem MonsterWorld.playerAttackMonster_tags (env : MonsterEnvironment K σ) (mid : Nat)
    (ms : List (Monster K)) (s : σ) :
    (playerAttackMonster env mid ms s).1.map Monster.tag = ms.map Monster.tag := by
  induction ms with
  | nil => rfl
  | cons m ms ih =>
    unfold playerAttackMonster
    split
    · simp only [List.map_cons, ih]
    · simp only [List.map_cons, hit_tag]

theorem spawnUpdate_id (env : MonsterEnvironment K σ) (dt : K) (s : σ) (m : Monster K) :
    (spawnUpdate env dt s m).1.id = m.id :=
  congrArg Prod.fst (spawnUpdate_tag env dt s m)

theorem AISystem.update_id (env : MonsterEnvironment K σ) (policy : List K → Fin 5 → K) (dt : K)
    (s : σ) (m : Monster K) : (AISystem.update env policy dt s m).1.id = m.id := rfl

theorem MovementSystem.update_id (env : MonsterEnvironment K σ) (dt : K) (s : σ)
    (m : Monster K) : (MovementSystem.update env dt s m).1.id = m.id :=
  congrArg Prod.fst (update_tag env dt s m)

theorem CombatSystem.update_id (env : MonsterEnvironment K σ) (dt : K) (s : σ) (m : Monster K) :
    (CombatSystem.update env dt s m).1.id = m.id :=
  congrArg Prod.fst (update_tag env dt s m)

theorem MonsterWorld.update_ids (env : MonsterEnvironment K σ) (policy : List K → Fin 5 → K)
    (dt : K) (w : MonsterWorld K) (s : σ) :
    (w.update env policy dt s).1.monsters.map Monster.id = w.monsters.map Monster.id :=
  Monster.ids_of_tags (w.update_tags env policy dt s)

theorem MonsterWorld.hit_id (m : Monster K) : (hit m).1.id = m.id :=
  congrArg Prod.fst (hit_tag m)

theorem MonsterWorld.playerAttackMonster_ids (env : MonsterEnvironment K σ) (mid : Nat)
    (ms : List (Monster K)) (s : σ) :
    (playerAttackMonster env mid ms s).1.map Monster.id = ms.map Monster.id :=
  Monster.ids_of_tags (playerAttackMonster_tags env mid ms s)

namespace MonsterEnvironment

variable {env : MonsterEnvironment K σ} {ids : Nat → Prop} {I : σ → Prop}

theorem Keeps.spawnUpdate (h : env.Keeps ids I) (dt : K) (s : σ) (m : Monster K) (hm : ids m.id)
    (hs : I s) : I (spawnUpdate env dt s m).2 := by
  obtain ⟨-, he⟩ | ⟨-, -, he⟩ | ⟨-, -, he⟩ := spawnUpdate_cases env dt s m <;> rw [he]
  · exact hs
  · exact hs
  · exact h.spawnInAoi _ _ _ _ hm hs

theorem Quiet.sync (h : env.Quiet I) (s : σ) (m : Monster K) (hs : I s) :
    I (AISystem.sync env s m).2 := by
  unfold AISystem.sync
  simp only
  split
  · exact hs
  · exact h.broadcastMonsterStat _ _ _ _ _ _ (h.broadcastAiState _ _ _ hs)

theorem Quiet.aiUpdate (h : env.Quiet I) (policy : List K → Fin 5 → K) (dt : K) (s : σ)
    (m : Monster K) (hs : I s) : I (AISystem.update env policy dt s m).2 := by
  have hsync := h.sync s { m with ai := { m.ai with attackCd := max (lit 0) (m.ai.attackCd - dt) } } hs
  refine iteInduction (motive := I) (fun _ => h.broadcastAiState _ _ _ ?_) (fun _ => ?_) <;>
    exact iteInduction (motive := I) (fun _ => h.broadcastMonsterStat _ _ _ _ _ _ hsync)
      fun _ => hsync

theorem Keeps.movementUpdate (h : env.Keeps ids I) (dt : K) (s : σ) (m : Monster K)
    (hm : ids m.id) (hs : I s) : I (MovementSystem.update env dt s m).2 := by
  obtain ⟨-, he⟩ | ⟨-, he⟩ | ⟨-, _, _, _, -, he⟩ := MovementSystem.update_cases env dt s m <;>
    rw [he]
  · exact hs
  · exact hs
  · exact h.moveInAoi _ _ _ _ hm hs

omit [Scalar K] in
theorem Quiet.attackPlayer (h : env.Quiet I) (s : σ) (mid pid : Nat) (atk : Int) (hs : I s) :
    I (CombatSystem.attackPlayer env s mid pid atk) := by
  unfold CombatSystem.attackPlayer
  split
  · exact hs
  · rename_i hp maxHp sp maxSp _
    simp only
    generalize (if 0 < hp - atk then hp - atk else 0) = newHp
    -- the stats, then the combat event, then the stat event, then the death
    refine iteInduction (motive := I) (fun _ => h.broadcastPlayerState _ _ _ ?_) (fun _ => ?_) <;>
      refine iteInduction (motive := I) (fun _ => h.broadcastPlayerStat _ _ _ _ _ _ ?_)
        (fun _ => ?_) <;>
      refine h.broadcastCombat _ _ _ _ _ (iteInduction (motive := I) (fun _ => ?_) fun _ => hs) <;>
      exact h.markPlayerDirty _ _ (h.setPlayerStats _ _ _ _ hs)

theorem Quiet.combatUpdate (h : env.Quiet I) (dt : K) (s : σ) (m : Monster K) (hs : I s) :
    I (CombatSystem.update env dt s m).2 := by
  obtain ⟨-, he⟩ | ⟨-, -, he⟩ | ⟨-, -, -, he⟩ := CombatSystem.update_cases env dt s m <;> rw [he]
  · exact hs
  · exact hs
  · exact h.attackPlayer _ _ _ _ hs

/-- What the callbacks keep, a tick of the monsters keeps. -/
theorem Keeps.update (h : env.Keeps ids I) (policy : List K → Fin 5 → K) (dt : K)
    {w : MonsterWorld K} (hw : ∀ i ∈ w.monsters.map Monster.id, ids i) {s : σ} (hs : I s) :
    I (w.update env policy dt s).2 := by
  have hmem : ∀ ms : List (Monster K), ms.map Monster.id = w.monsters.map Monster.id →
      ∀ m ∈ ms, ids m.id := fun ms hms m hm => hw _ (hms ▸ List.mem_map_of_mem hm)
  have hids₁ := updateLoop_map (spawnUpdate_id env dt) s w.monsters
  have hids₂ := fun s => (updateLoop_map (AISystem.update_id env policy dt) s _).trans hids₁
  unfold MonsterWorld.update
  simp only
  refine updateLoop_state (fun s m _ => h.combatUpdate dt s m) ?_
  refine updateLoop_state (fun s m hm => h.movementUpdate dt s m (hmem _ (hids₂ _) m hm)) ?_
  refine updateLoop_state (fun s m _ => h.aiUpdate policy dt s m) ?_
  exact updateLoop_state (fun s m hm => h.spawnUpdate dt s m (hmem _ rfl m hm)) hs

/-- What the callbacks keep, an attack on a monster keeps. -/
theorem Keeps.playerAttackMonster (h : env.Keeps ids I) (mid : Nat) (ms : List (Monster K))
    (hms : ∀ i ∈ ms.map Monster.id, ids i) {s : σ} (hs : I s) :
    I (MonsterWorld.playerAttackMonster env mid ms s).2.1 := by
  induction ms with
  | nil => exact hs
  | cons m ms ih =>
    rw [List.map_cons, List.forall_mem_cons] at hms
    unfold MonsterWorld.playerAttackMonster
    split
    · exact ih hms.2
    · simp only
      split
      · exact h.removeFromAoi _ _ hms.1 hs
      · exact hs

/-- What the callbacks do to `place`, the table of where the entities of
the index are, in the states that meet `I`. -/
structure Places (env : MonsterEnvironment K σ) (I : σ → Prop)
    (place : σ → Nat → Option (CTransform K)) : Prop extends env.Keeps (fun _ => True) I where
  quiet_place : ∀ p, env.Quiet fun s => I s ∧ place s = p
  moveInAoi_place : ∀ s mid x y, I s → place (env.moveInAoi s mid x y) =
    if (place s mid).isSome then Function.update (place s) mid (some ⟨x, y⟩) else place s
  spawnInAoi_place : ∀ s mid x y, I s →
    place (env.spawnInAoi s mid x y) = Function.update (place s) mid (some ⟨x, y⟩)
  removeFromAoi_place : ∀ s mid, I s →
    place (env.removeFromAoi s mid) = Function.update (place s) mid none

end MonsterEnvironment

/-! ## The AI never leaves a living monster dead -/

/-- `set_monster_move` sets the direction and the speed, and nothing else. -/
theorem setMonsterMove_eq (ai : CAI K) (dx dy speed : K) :
    ∃ a b v, setMonsterMove ai dx dy speed =
      { ai with moveDirX := a, moveDirY := b, moveSpeed := v } := by
  unfold setMonsterMove
  simp only
  split
  · exact ⟨_, _, _, rfl⟩
  · exact ⟨_, _, _, rfl⟩

@[simp] theorem setMonsterMove_state (ai : CAI K) (dx dy speed : K) :
    (setMonsterMove ai dx dy speed).state = ai.state := by
  obtain ⟨_, _, _, he⟩ := setMonsterMove_eq ai dx dy speed
  rw [he]

@[simp] theorem setMonsterMove_idlePatrolTimer (ai : CAI K) (dx dy speed : K) :
    (setMonsterMove ai dx dy speed).idlePatrolTimer = ai.idlePatrolTimer := by
  obtain ⟨_, _, _, he⟩ := setMonsterMove_eq ai dx dy speed
  rw [he]

@[simp] theorem setMonsterMove_thinkCooldown (ai : CAI K) (dx dy speed : K) :
    (setMonsterMove ai dx dy speed).thinkCooldown = ai.thinkCooldown := by
  obtain ⟨_, _, _, he⟩ := setMonsterMove_eq ai dx dy speed
  rw [he]

@[simp] theorem stopMove_state (ai : CAI K) : (stopMove ai).state = ai.state :=
  setMonsterMove_state _ _ _ _

namespace AISystem

theorem sync_state (env : MonsterEnvironment K σ) (s : σ) (m : Monster K) :
    (sync env s m).1.state = m.ai.state := by
  unfold sync
  simp only
  split
  · rfl
  · split <;> simp

omit [Scalar K] in
theorem selectTarget_state (env : MonsterEnvironment K σ) (s : σ) (tr : CTransform K)
    (sightRange : K) (ai : CAI K) : (selectTarget env s tr sightRange ai).1.state = ai.state := by
  unfold selectTarget
  split
  · rfl
  · simp only
    split
    · rfl
    · split <;> rfl

theorem flee_state (isArcher : Bool) (tr : CTransform K) (pos : Option (K × K)) (ai : CAI K) :
    (flee isArcher tr pos ai).state = .return ∨ (flee isArcher tr pos ai).state = .idle := by
  refine iteInduction (motive := fun ai : CAI K => ai.state = .return ∨ ai.state = .idle)
    (fun _ => Or.inr ?_) (fun _ => Or.inl ?_)
  · exact stopMove_state _
  · exact setMonsterMove_state _ _ _ _

theorem wander_state (ai : CAI K) :
    (wander ai).state = .patrol ∨ (wander ai).state = .idle ∨ (wander ai).state = ai.state := by
  unfold wander
  split
  · simp only
    split <;> simp
  · simp only
    split <;> simp

theorem archer_state (tr : CTransform K) (pos : K × K) (ai : CAI K) :
    (archer tr pos ai).state ≠ .dead := by
  unfold archer
  simp only
  split
  · simp
  · split <;> simp

theorem ofAction_ne_dead (a : Fin 5) : AiState.ofAction a ≠ .dead := by
  revert a
  decide

theorem gate_ne_dead (stats : CStats) (dist attackCd : K) {a : AiState} (ha : a ≠ .dead) :
    gate stats dist attackCd a ≠ .dead := by
  have h₁ : (if a = .patrol then .idle else a) ≠ AiState.dead :=
    iteInduction (motive := (· ≠ AiState.dead)) (fun _ => by decide) fun _ => ha
  refine iteInduction (motive := (· ≠ AiState.dead)) (fun _ => by decide) fun _ => ?_
  refine iteInduction (motive := (· ≠ AiState.dead)) (fun _ => ?_) fun _ => h₁
  exact iteInduction (motive := (· ≠ AiState.dead)) (fun _ => h₁) fun _ => by decide

theorem melee_state (policy : List K → Fin 5 → K) (tr : CTransform K) (stats : CStats)
    (pos : K × K) (oldState : AiState) (ai : CAI K) :
    (melee policy tr stats pos oldState ai).state ≠ .dead := by
  unfold melee
  simp only
  generalize hobs : makeObs16 (some pos) tr.x tr.y (ofInt stats.hp) (ofInt stats.maxHp) ai.attackCd
    oldState {} = obs
  generalize (if lit 0.000000000001 < distSq tr pos then sqrt (distSq tr pos) else lit 0) = dist
  have hgate := gate_ne_dead stats dist ai.attackCd (ofAction_ne_dead (argMax5 (policy obs)))
  revert hgate
  generalize gate stats dist ai.attackCd (AiState.ofAction (argMax5 (policy obs))) = a
  intro hgate
  cases a <;> simp_all

/-- A living monster thinks itself into any state but `Dead`. -/
theorem think_state (env : MonsterEnvironment K σ) (policy : List K → Fin 5 → K) (s : σ)
    (m : Monster K) (oldState : AiState) {ai : CAI K} (hai : ai.state ≠ .dead) :
    (think env policy s m oldState ai).state ≠ .dead := by
  have hsel := (selectTarget_state env s m.transform
    (if isArcher m then lit 18 else lit 11) ai).trans_ne hai
  unfold think
  simp only
  revert hsel
  generalize selectTarget env s m.transform (if isArcher m then lit 18 else lit 11) ai = sel
  intro hsel
  refine iteInduction (motive := fun ai : CAI K => ai.state ≠ .dead) (fun _ => ?_) fun _ => ?_
  · simp [disengage]
  refine iteInduction (motive := fun ai : CAI K => ai.state ≠ .dead) (fun _ => ?_) fun _ => ?_
  · rcases flee_state (isArcher m) m.transform sel.2 sel.1 with h | h <;> simp [h]
  refine iteInduction (motive := fun ai : CAI K => ai.state ≠ .dead) (fun _ => ?_) fun _ => ?_
  · rcases wander_state sel.1 with h | h | h <;> simp [h, hsel]
  cases sel.2 with
  | none => simp
  | some pos =>
    refine iteInduction (motive := fun ai : CAI K => ai.state ≠ .dead) (fun _ => ?_) fun _ => ?_
    · exact archer_state _ _ _
    · exact melee_state _ _ _ _ _ _

theorem decideAi_state (env : MonsterEnvironment K σ) (policy : List K → Fin 5 → K) (dt : K)
    (s : σ) (m : Monster K) (oldState : AiState) (ai : CAI K) :
    (m.stats.hp ≤ 0 → (decideAi env policy dt s m oldState ai).state = .dead) ∧
    (0 < m.stats.hp → ai.state ≠ .dead →
      (decideAi env policy dt s m oldState ai).state ≠ .dead) := by
  unfold decideAi
  constructor
  · intro hhp
    rw [if_pos hhp]
    simp
  · intro hhp hai
    rw [if_neg (by omega)]
    simp only
    split
    · exact hai
    · exact think_state _ _ _ _ _ hai

end AISystem

/-! ## Life and death -/

/-- The two consistent states of a monster that the index has at `place`,
or does not have. -/
inductive LifeCycle (place : Option (CTransform K)) (m : Monster K) : Prop
  | alive (hp : 0 < m.stats.hp) (le : m.stats.hp ≤ m.stats.maxHp)
      (place : place = some m.transform) (state : m.ai.state ≠ .dead)
      (pending : m.spawnInfo.pendingRespawn = false)
  | dead (hp : m.stats.hp = 0) (max : 0 < m.stats.maxHp) (place : place = none)
      (state : m.ai.state = .dead) (pending : m.spawnInfo.pendingRespawn = true)

/-- A pass over one monster that keeps its life consistent and leaves the
places of the others alone. -/
structure KeepsLife (I : σ → Prop) (place : σ → Nat → Option (CTransform K))
    (f : σ → Monster K → Monster K × σ) : Prop where
  id : ∀ s m, (f s m).1.id = m.id
  keeps : ∀ s m, I s → I (f s m).2
  self : ∀ s m, I s → LifeCycle (place s m.id) m → LifeCycle (place (f s m).2 m.id) (f s m).1
  other : ∀ s m, I s → ∀ i, i ≠ m.id → place (f s m).2 i = place s i

section

variable {env : MonsterEnvironment K σ} {I : σ → Prop}
  {place : σ → Nat → Option (CTransform K)}

omit [Scalar K] in
/-- A pass over all monsters. -/
theorem KeepsLife.loop {f : σ → Monster K → Monster K × σ} (h : KeepsLife I place f) {s : σ}
    (hs : I s) {ms : List (Monster K)} (hnd : (ms.map Monster.id).Nodup)
    (hms : ∀ m ∈ ms, LifeCycle (place s m.id) m) :
    I (updateLoop f s ms).2 ∧ ((updateLoop f s ms).1.map Monster.id).Nodup ∧
      ∀ m ∈ (updateLoop f s ms).1, LifeCycle (place (updateLoop f s ms).2 m.id) m := by
  refine ⟨updateLoop_state (fun s m _ => h.keeps s m) hs, ?_, ?_⟩
  · rw [updateLoop_map h.id]
    exact hnd
  · intro m hm
    -- each monster is tied to the state by its life cycle, under the invariant
    have hself : ∀ s m, I s ∧ LifeCycle (place s m.id) m →
        I (f s m).2 ∧ LifeCycle (place (f s m).2 (f s m).1.id) (f s m).1 := by
      rintro s m ⟨hs, hm⟩
      refine ⟨h.keeps s m hs, ?_⟩
      rw [h.id]
      exact h.self s m hs hm
    have hother : ∀ s m m', I s ∧ LifeCycle (place s m.id) m → m'.id ≠ m.id →
        I s ∧ LifeCycle (place s m'.id) m' → I (f s m).2 ∧ LifeCycle (place (f s m).2 m'.id) m' := by
      rintro s m m' ⟨hs, -⟩ hne ⟨-, hm'⟩
      refine ⟨h.keeps s m hs, ?_⟩
      rw [h.other s m hs _ hne]
      exact hm'
    exact (updateLoop_forall h.id hself hother hnd (fun m hm => ⟨hs, hms m hm⟩) m hm).2

/-- Respawning: the dead come back whole, where they were spawned. -/
theorem spawnUpdate_keepsLife (h : env.Places I place) (dt : K) :
    KeepsLife I place (spawnUpdate env dt) where
  id := spawnUpdate_id env dt
  keeps s m := h.spawnUpdate dt s m trivial
  self s m hs hm := by
    obtain ⟨-, he⟩ | ⟨hawaits, -, he⟩ | ⟨hawaits, -, he⟩ := spawnUpdate_cases env dt s m <;>
      rw [he]
    · exact hm
    · cases hm with
      | alive hp => exact absurd hp hawaits.hp
      | dead hp max hplace state pending => exact .dead hp max hplace state pending
    · cases hm with
      | alive hp => exact absurd hp hawaits.hp
      | dead hp max hplace state pending =>
        refine .alive max (Int.le_refl _) ?_ AiState.noConfusion rfl
        rw [h.spawnInAoi_place _ _ _ _ hs]
        exact Function.update_self _ _ _
  other s m hs i hi := by
    obtain ⟨-, he⟩ | ⟨-, -, he⟩ | ⟨-, -, he⟩ := spawnUpdate_cases env dt s m <;> rw [he]
    rw [h.spawnInAoi_place _ _ _ _ hs, Function.update_of_ne hi]

/-- Deciding: the AI state follows hp. -/
theorem aiUpdate_keepsLife (h : env.Places I place) (policy : List K → Fin 5 → K) (dt : K) :
    KeepsLife I place (AISystem.update env policy dt) where
  id := AISystem.update_id env policy dt
  keeps := h.aiUpdate policy dt
  self s m hs hm := by
    have hplace := ((h.quiet_place (place s)).aiUpdate policy dt s m ⟨hs, rfl⟩).2
    rw [hplace]
    obtain ⟨hdead, halive⟩ := AISystem.decideAi_state env policy dt
      (if m.stats.dirty then env.broadcastMonsterStat
          (AISystem.sync env s { m with ai := { m.ai with
            attackCd := Scalar.max (lit 0) (m.ai.attackCd - dt) } }).2
          m.id m.stats.hp m.stats.maxHp m.stats.sp m.stats.maxSp
        else (AISystem.sync env s { m with ai := { m.ai with
          attackCd := Scalar.max (lit 0) (m.ai.attackCd - dt) } }).2)
      { m with
        stats := { m.stats with dirty := false }
        ai := { m.ai with attackCd := Scalar.max (lit 0) (m.ai.attackCd - dt) } }
      m.ai.state
      (AISystem.sync env s { m with ai := { m.ai with
        attackCd := Scalar.max (lit 0) (m.ai.attackCd - dt) } }).1
    cases hm with
    | alive hp le place state pending =>
      refine .alive hp le place (halive hp ?_) pending
      rw [AISystem.sync_state]
      exact state
    | dead hp max place state pending =>
      exact .dead hp max place (hdead (Int.le_of_eq hp)) pending
  other s m hs i _ := by
    rw [((h.quiet_place (place s)).aiUpdate policy dt s m ⟨hs, rfl⟩).2]

/-- Moving: the index follows the monster. -/
theorem movementUpdate_keepsLife (h : env.Places I place) (dt : K) :
    KeepsLife I place (MovementSystem.update env dt) where
  id := MovementSystem.update_id env dt
  keeps s m := h.movementUpdate dt s m trivial
  self s m hs hm := by
    have hstop : LifeCycle (place s m.id) { m with ai := stopMove m.ai } := by
      cases hm with
      | alive hp le place state pending =>
        exact .alive hp le place (by rw [stopMove_state]; exact state) pending
      | dead hp max place state pending =>
        exact .dead hp max place (by rw [stopMove_state]; exact state) pending
    obtain ⟨-, he⟩ | ⟨-, he⟩ | ⟨hmoves, _, _, _, -, he⟩ := MovementSystem.update_cases env dt s m <;>
      rw [he]
    · exact hm
    · exact hstop
    · cases hm with
      | alive hp le hplace state pending =>
        refine .alive hp le ?_ (by rw [Monster.movedAlong, setMonsterMove_state]; exact state) pending
        rw [h.moveInAoi_place _ _ _ _ hs, hplace, if_pos (by rfl)]
        exact Function.update_self _ _ _
      | dead hp max hplace state pending =>
        -- the dead do not move
        exact absurd (Or.inr (Or.inr state)) hmoves
  other s m hs i hi := by
    obtain ⟨-, he⟩ | ⟨-, he⟩ | ⟨-, _, _, _, -, he⟩ := MovementSystem.update_cases env dt s m <;>
      rw [he]
    rw [h.moveInAoi_place _ _ _ _ hs]
    split
    · rw [Function.update_of_ne hi]
    · rfl

/-- Fighting: only timers change. -/
theorem combatUpdate_keepsLife (h : env.Places I place) (dt : K) :
    KeepsLife I place (CombatSystem.update env dt) where
  id := CombatSystem.update_id env dt
  keeps := h.combatUpdate dt
  self s m hs hm := by
    obtain ⟨_, _, he⟩ := CombatSystem.update_fst env dt s m
    rw [((h.quiet_place (place s)).combatUpdate dt s m ⟨hs, rfl⟩).2, he]
    cases hm with
    | alive hp le place state pending => exact .alive hp le place state pending
    | dead hp max place state pending => exact .dead hp max place state pending
  other s m hs i _ := by
    rw [((h.quiet_place (place s)).combatUpdate dt s m ⟨hs, rfl⟩).2]

/-- The life of every monster of the world is consistent. -/
structure MonsterWorld.AllConsistent (place : Nat → Option (CTransform K)) (w : MonsterWorld K) :
    Prop where
  nodup : (w.monsters.map Monster.id).Nodup
  life : ∀ m ∈ w.monsters, LifeCycle (place m.id) m

/-- **A tick keeps every life consistent.** -/
theorem MonsterWorld.update_allConsistent (h : env.Places I place)
    (policy : List K → Fin 5 → K) (dt : K) {w : MonsterWorld K} {s : σ} (hs : I s)
    (hw : w.AllConsistent (place s)) :
    I (w.update env policy dt s).2 ∧
      (w.update env policy dt s).1.AllConsistent (place (w.update env policy dt s).2) := by
  obtain ⟨hs₁, hnd₁, hl₁⟩ := (spawnUpdate_keepsLife h dt).loop hs hw.nodup hw.life
  obtain ⟨hs₂, hnd₂, hl₂⟩ := (aiUpdate_keepsLife h policy dt).loop hs₁ hnd₁ hl₁
  obtain ⟨hs₃, hnd₃, hl₃⟩ := (movementUpdate_keepsLife h dt).loop hs₂ hnd₂ hl₂
  obtain ⟨hs₄, hnd₄, hl₄⟩ := (combatUpdate_keepsLife h dt).loop hs₃ hnd₃ hl₃
  exact ⟨hs₄, hnd₄, hl₄⟩

/-- A hit takes hp off a living monster, kills it, or runs the death code
of a dead one again. -/
theorem MonsterWorld.hit_life (h : env.Places I place) {s : σ} (hs : I s) {m : Monster K}
    (hm : LifeCycle (place s m.id) m) :
    LifeCycle (place (if (hit m).2 then env.removeFromAoi s m.id else s) m.id) (hit m).1 := by
  unfold hit
  simp only
  split
  · rename_i hzero
    rw [if_pos rfl, h.removeFromAoi_place _ _ hs, Function.update_self]
    refine .dead rfl ?_ rfl rfl rfl
    cases hm with
    | alive hp le => exact Int.lt_of_lt_of_le hp le
    | dead hp max => exact max
  · rename_i hpos
    rw [if_neg (by simp)]
    cases hm with
    | alive hp le place state pending =>
      refine .alive ?_ ?_ place state pending
      · simpa using hpos
      · show m.stats.hp - 10 ≤ m.stats.maxHp
        omega
    | dead hp max place state pending =>
      exact absurd (show m.stats.hp - 10 ≤ 0 by omega) hpos

/-- **An attack keeps every life consistent**, whoever is attacked. -/
theorem MonsterWorld.playerAttackMonster_allConsistent (h : env.Places I place) (mid : Nat)
    {ms : List (Monster K)} {s : σ} (hs : I s)
    (hms : (MonsterWorld.mk ms).AllConsistent (place s)) :
    (MonsterWorld.mk (playerAttackMonster env mid ms s).1).AllConsistent
      (place (playerAttackMonster env mid ms s).2.1) ∧
    ∀ i, i ∉ ms.map Monster.id → place (playerAttackMonster env mid ms s).2.1 i = place s i := by
  induction ms with
  | nil => exact ⟨hms, fun i _ => rfl⟩
  | cons m ms ih =>
    obtain ⟨hnd, hlife⟩ := hms
    simp only [List.map_cons, List.nodup_cons] at hnd
    have hm := hlife m List.mem_cons_self
    unfold playerAttackMonster
    split
    · -- another monster is attacked
      obtain ⟨⟨hnd', hl'⟩, hother⟩ := ih ⟨hnd.2, fun m' hm' =>
        hlife m' (List.mem_cons_of_mem m hm')⟩
      simp only at hnd' hl'
      refine ⟨⟨?_, ?_⟩, ?_⟩
      · simp only [List.map_cons, playerAttackMonster_ids, List.nodup_cons]
        exact hnd
      · intro m' hm'
        rcases List.mem_cons.mp hm' with rfl | hm'
        · simp only
          rw [hother _ hnd.1]
          exact hm
        · exact hl' m' hm'
      · intro i hi
        exact hother i fun hmem => hi (List.mem_cons_of_mem _ hmem)
    · -- this one is hit
      have hplace : ∀ i, i ≠ m.id →
          place (if (hit m).2 then env.removeFromAoi s m.id else s) i = place s i := by
        intro i hi
        split
        · rw [h.removeFromAoi_place _ _ hs, Function.update_of_ne hi]
        · rfl
      refine ⟨⟨?_, ?_⟩, ?_⟩
      · simp only [List.map_cons, hit_id, List.nodup_cons]
        exact hnd
      · intro m' hm'
        rcases List.mem_cons.mp hm' with rfl | hm'
        · simp only [hit_id]
          exact hit_life h hs hm
        · have hne : m'.id ≠ m.id := fun e => hnd.1 (e ▸ List.mem_map_of_mem hm')
          simp only
          rw [hplace _ hne]
          exact hlife m' (List.mem_cons_of_mem m hm')
      · intro i hi
        exact hplace i fun e => hi (e ▸ List.mem_cons_self)

end

end MmorpgServer.Field
