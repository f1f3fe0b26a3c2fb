/-
MmorpgServer.Field.MonsterEcsTheorems — the component storages behave as a
list of records.

* `Holds` — the storages hold the components of a monster at its id.
* `runsAt_…` — one lemma for each program of `MonsterEcs`: at an entity
  whose components are held it does not throw, does to them what the
  function on records does, and leaves every other entity alone.
* `Represents.update`, `Represents.attack` — a tick and a hit, on the
  stored world and on the records.
* `component_storages_refine_records` — the two have the same runs.
-/
import MmorpgServer.Field.MonsterEcs
import MmorpgServer.Lib.KeyLoop
import MmorpgServer.Field.MonsterCombatTheorems

namespace MmorpgServer.Field.MonsterEcs

open MmorpgServer.Lib Scalar

variable {K σ : Type}

/-! ## What the storages hold -/

/-- The storages hold the components of a monster at its id, or nothing at
an id. -/
structure Holds (c : Components K) (e : Nat) (o : Option (Monster K)) : Prop where
  transform : c.transform.get e = o.map Monster.transform
  stats : c.stats.get e = o.map Monster.stats
  monsterTag : c.monsterTag.get e = o.map fun m => ⟨m.monsterType⟩
  spawnInfo : c.spawnInfo.get e = o.map Monster.spawnInfo
  aiComp : c.aiComp.get e = o.map Monster.ai
  prefabNameComp : c.prefabNameComp.get e = o.map fun m => ⟨m.prefabName⟩
  id : ∀ m ∈ o, m.id = e

variable {e : Nat} {m : Monster K} {s : σ}

theorem Holds.id_of {c : Components K} (h : Holds c e (some m)) {m' : Monster K}
    (hid : m'.id = m.id) : ∀ m'' ∈ some m', m''.id = e := by
  intro m'' hm
  cases hm
  rw [hid]
  exact h.id m rfl

theorem runsAt_stats : RunsAt Holds e (look Components.stats e) m s m.stats m s :=
  .read fun c hc => by simp [look, hc.stats]

theorem runsAt_spawnInfo : RunsAt Holds e (look Components.spawnInfo e) m s m.spawnInfo m s :=
  .read fun c hc => by simp [look, hc.spawnInfo]

theorem runsAt_ai : RunsAt Holds e (look Components.aiComp e) m s m.ai m s :=
  .read fun c hc => by simp [look, hc.aiComp]

theorem runsAt_transform : RunsAt Holds e (look Components.transform e) m s m.transform m s :=
  .read fun c hc => by simp [look, hc.transform]

theorem runsAt_monsterTag :
    RunsAt Holds e (look Components.monsterTag e) m s ⟨m.monsterType⟩ m s :=
  .read fun c hc => by simp [look, hc.monsterTag]

theorem runsAt_writeAi (f : CAI K → CAI K) :
    RunsAt Holds e (writeAi e f) m s () { m with ai := f m.ai } s := by
  intro c hc
  refine ⟨{ c with aiComp := c.aiComp.add e (f m.ai) }, by simp [writeAi, hc.aiComp], ?_, ?_⟩
  · exact { hc with aiComp := ComponentStorage.get_add .., id := hc.id_of rfl }
  · intro e' hne o ho
    exact { ho with aiComp := (c.aiComp.get_add_ne _ hne).trans ho.aiComp }

theorem runsAt_writeStats (f : CStats → CStats) :
    RunsAt Holds e (writeStats e f) m s () { m with stats := f m.stats } s := by
  intro c hc
  refine ⟨{ c with stats := c.stats.add e (f m.stats) }, by simp [writeStats, hc.stats], ?_, ?_⟩
  · exact { hc with stats := ComponentStorage.get_add .., id := hc.id_of rfl }
  · intro e' hne o ho
    exact { ho with stats := (c.stats.get_add_ne _ hne).trans ho.stats }

theorem runsAt_writeSpawnInfo (f : CSpawnInfo K → CSpawnInfo K) :
    RunsAt Holds e (writeSpawnInfo e f) m s () { m with spawnInfo := f m.spawnInfo } s := by
  intro c hc
  refine ⟨{ c with spawnInfo := c.spawnInfo.add e (f m.spawnInfo) },
    by simp [writeSpawnInfo, hc.spawnInfo], ?_, ?_⟩
  · exact { hc with spawnInfo := ComponentStorage.get_add .., id := hc.id_of rfl }
  · intro e' hne o ho
    exact { ho with spawnInfo := (c.spawnInfo.get_add_ne _ hne).trans ho.spawnInfo }

theorem runsAt_writeTransform (f : CTransform K → CTransform K) :
    RunsAt Holds e (writeTransform e f) m s () { m with transform := f m.transform } s := by
  intro c hc
  refine ⟨{ c with transform := c.transform.add e (f m.transform) },
    by simp [writeTransform, hc.transform], ?_, ?_⟩
  · exact { hc with transform := ComponentStorage.get_add .., id := hc.id_of rfl }
  · intro e' hne o ho
    exact { ho with transform := (c.transform.get_add_ne _ hne).trans ho.transform }

theorem runsAt_ask {α : Type} (f : σ → α) : RunsAt (Holds (K := K)) e (ask f) m s (f s) m s :=
  .state fun _ => rfl

theorem runsAt_call (f : σ → σ) : RunsAt (Holds (K := K)) e (call f) m s () m (f s) :=
  .state fun _ => rfl

theorem runsAt_callIf (p : Prop) [Decidable p] (f : σ → σ) :
    RunsAt (Holds (K := K)) e (callIf p f) m s () m (if p then f s else s) := by
  unfold callIf
  split
  · exact runsAt_call f
  · exact .pure ()

/-! ## The programs -/

namespace AISystem

theorem runsAt_announce (env : MonsterEnvironment K σ) (oldState : AiState) (hid : m.id = e) :
    RunsAt Holds e (announce env e oldState) m s () m
      (if m.ai.state ≠ oldState then env.broadcastAiState s m.id m.ai.state else s) := by
  subst hid
  exact runsAt_ai.bind (runsAt_callIf _ _)

theorem runsAt_syncStat (env : MonsterEnvironment K σ) (hid : m.id = e) :
    RunsAt Holds e (syncStat env e) m s ()
      { m with stats := { m.stats with dirty := false } }
      (if m.stats.dirty then
        env.broadcastMonsterStat s m.id m.stats.hp m.stats.maxHp m.stats.sp m.stats.maxSp
      else s) := by
  unfold syncStat
  refine runsAt_stats.bind ?_
  subst hid
  cases hdirty : m.stats.dirty with
  | true => exact (runsAt_call _).bind (runsAt_writeStats _)
  | false =>
    have hsame : { m with stats := { m.stats with dirty := false } } = m := by rw [← hdirty]
    rw [hsame]
    exact .pure ()

/-- The answer of target selection, from that on records. -/
def answer (sel : CAI K × Option (K × K)) : Nat × Option (K × K) := (sel.1.targetId, sel.2)

theorem runsAt_knownTarget (env : MonsterEnvironment K σ) :
    RunsAt Holds e (knownTarget env e) m s
      (match if m.ai.targetId ≠ 0 then env.getPlayerPosition s m.ai.targetId else none with
        | some pos => (m.ai.targetId, some pos)
        | none => (0, none))
      { m with
        ai := match if m.ai.targetId ≠ 0 then env.getPlayerPosition s m.ai.targetId else none with
          | some _ => m.ai
          | none => { m.ai with targetId := 0 } } s := by
  unfold knownTarget
  refine runsAt_ai.bind ?_
  by_cases htarget : m.ai.targetId = 0
  · have hsame : { m with ai := { m.ai with targetId := 0 } } = m := by rw [← htarget]
    simp only [htarget, if_true, ne_eq, not_true_eq_false, if_false, hsame]
    exact .pure (0, none)
  · simp only [htarget, if_false, ne_eq, not_false_eq_true, if_true]
    refine (runsAt_ask _).bind ?_
    cases env.getPlayerPosition s m.ai.targetId with
    | some pos => exact .pure _
    | none => exact (runsAt_writeAi _).bind (.pure _)

theorem runsAt_selectTarget (env : MonsterEnvironment K σ) (sightRange : K) :
    RunsAt Holds e (selectTarget env e sightRange) m s
      (answer (Field.AISystem.selectTarget env s m.transform sightRange m.ai))
      { m with ai := (Field.AISystem.selectTarget env s m.transform sightRange m.ai).1 } s := by
  unfold selectTarget Field.AISystem.selectTarget
  refine (runsAt_knownTarget env).bind ?_
  cases hknown : if m.ai.targetId ≠ 0 then env.getPlayerPosition s m.ai.targetId else none with
  | some pos =>
    have htarget : m.ai.targetId ≠ 0 := by
      intro hzero
      simp [hzero] at hknown
    simp only [if_pos htarget]
    exact .pure _
  | none =>
    simp only [ne_eq, not_true_eq_false, if_false]
    refine runsAt_transform.bind ((runsAt_ask _).bind ((runsAt_writeAi _).bind ?_))
    simp only
    by_cases htarget : env.findClosestPlayer s m.transform.x m.transform.y sightRange = 0
    · simp only [htarget, if_true]
      exact .pure _
    · simp only [htarget, if_false]
      refine (runsAt_ask _).bind ?_
      cases env.getPlayerPosition s (env.findClosestPlayer s m.transform.x m.transform.y
        sightRange) with
      | some pos => exact .pure _
      | none => exact (runsAt_writeAi _).bind (.pure _)

end AISystem

variable [Scalar K]

theorem runsAt_setMonsterMove (dx dy speed : K) :
    RunsAt Holds e (setMonsterMove e dx dy speed) m s ()
      { m with ai := Field.setMonsterMove m.ai dx dy speed } s := by
  unfold setMonsterMove Field.setMonsterMove
  simp only
  split
  · exact runsAt_writeAi _
  · exact runsAt_writeAi _

theorem runsAt_stopMove :
    RunsAt Holds e (stopMove e) m s () { m with ai := Field.stopMove m.ai } s :=
  (runsAt_writeAi _).bind (runsAt_setMonsterMove _ _ _)

theorem SpawnSystem.runsAt_body (env : MonsterEnvironment K σ) (dt : K) (hid : m.id = e) :
    RunsAt Holds e (SpawnSystem.body env dt e) m s () (spawnUpdate env dt s m).1
      (spawnUpdate env dt s m).2 := by
  unfold SpawnSystem.body spawnUpdate
  refine runsAt_stats.bind (runsAt_spawnInfo.bind (runsAt_ai.bind (runsAt_transform.bind ?_)))
  split
  · exact .pure ()
  split
  · exact .pure ()
  split
  · exact .pure ()
  refine (runsAt_writeSpawnInfo _).bind (runsAt_spawnInfo.bind ?_)
  simp only
  split
  · exact .pure ()
  · subst hid
    refine (runsAt_writeSpawnInfo _).bind ((runsAt_writeStats _).bind ?_)
    refine (runsAt_writeTransform _).bind ((runsAt_writeAi _).bind ?_)
    exact runsAt_transform.bind (runsAt_call _)

namespace AISystem

theorem runsAt_syncMove :
    RunsAt Holds e (syncMove e) m s ()
      { m with
        ai := if m.ai.state = .idle ∨ m.ai.state = .attack ∨ m.ai.state = .dead then
            Field.stopMove m.ai
          else Field.setMonsterMove m.ai m.ai.moveDirX m.ai.moveDirY patrolSpeed } s := by
  unfold syncMove
  refine runsAt_ai.bind ?_
  split
  · exact runsAt_stopMove
  · exact runsAt_setMonsterMove _ _ _

theorem runsAt_sync (env : MonsterEnvironment K σ) (hid : m.id = e) :
    RunsAt Holds e (sync env e) m s () { m with ai := (Field.AISystem.sync env s m).1 }
      (Field.AISystem.sync env s m).2 := by
  unfold sync Field.AISystem.sync
  refine runsAt_stats.bind (runsAt_ai.bind ?_)
  simp only
  split
  · exact .pure ()
  · subst hid
    refine (runsAt_call _).bind ((runsAt_call _).bind ?_)
    exact runsAt_syncMove.bind (runsAt_writeAi _)

omit [Scalar K] in
/-- Without a target no position is known. -/
theorem targetPos_eq {sel : Nat × Option (K × K)} (h : sel.1 = 0 → sel.2 = none) :
    targetPos sel = sel.2 := by
  unfold targetPos
  by_cases hzero : sel.1 = 0
  · simp [hzero, h hzero]
  · simp [hzero]

theorem runsAt_fleeDir (sel : Nat × Option (K × K)) (hsel : sel.1 = 0 → sel.2 = none) :
    RunsAt Holds e (fleeDir e sel) m s
      (match sel.2 with
        | some pos =>
          if lit 0.000001 < Field.AISystem.distSq m.transform pos then
            Field.AISystem.awayFrom m.transform pos
          else (m.ai.moveDirX, m.ai.moveDirY)
        | none =>
          if m.ai.moveDirX * m.ai.moveDirX + m.ai.moveDirY * m.ai.moveDirY < lit 0.000001 then
            (Field.AISystem.randomDir m.ai.rng).1
          else (m.ai.moveDirX, m.ai.moveDirY))
      { m with
        ai := { m.ai with
          rng := match sel.2 with
            | some _ => m.ai.rng
            | none =>
              if m.ai.moveDirX * m.ai.moveDirX + m.ai.moveDirY * m.ai.moveDirY < lit 0.000001 then
                (Field.AISystem.randomDir (K := K) m.ai.rng).2
              else m.ai.rng } } s := by
  unfold fleeDir
  refine runsAt_transform.bind (runsAt_ai.bind ?_)
  rw [targetPos_eq hsel]
  cases sel.2 with
  | some pos =>
    simp only
    split
    · exact .pure _
    · exact .pure _
  | none =>
    simp only
    split
    · exact (runsAt_writeAi _).bind (.pure _)
    · exact .pure _

theorem runsAt_flee (isArcher : Bool) (sel : Nat × Option (K × K))
    (hsel : sel.1 = 0 → sel.2 = none) :
    RunsAt Holds e (flee e isArcher sel) m s ()
      { m with ai := Field.AISystem.flee isArcher m.transform sel.2 m.ai } s := by
  unfold flee Field.AISystem.flee
  refine (runsAt_writeAi _).bind ((runsAt_writeAi _).bind ?_)
  refine runsAt_transform.bind (runsAt_ai.bind ?_)
  simp only
  generalize (if m.ai.idlePatrolTimer ≤ lit 0 then lit 1.2
    else max (lit 0) (m.ai.idlePatrolTimer - m.ai.thinkCooldown)) = timer
  generalize ((if isArcher then lit 22 else lit 16) : K) = fleeEndDist
  rw [targetPos_eq hsel]
  obtain ⟨target, pos⟩ := sel
  cases pos with
  | none =>
    simp only [Bool.false_eq_true, if_false]
    refine (runsAt_fleeDir _ hsel).bind ?_
    refine (runsAt_writeAi _).bind ?_
    simp only
    split
    · exact runsAt_setMonsterMove _ _ _
    · exact runsAt_setMonsterMove _ _ _
  | some pos =>
    simp only
    split
    · refine (runsAt_writeAi _).bind ?_
      exact runsAt_stopMove.bind (runsAt_writeAi _)
    · refine (runsAt_fleeDir _ hsel).bind ?_
      refine (runsAt_writeAi _).bind ?_
      exact runsAt_setMonsterMove _ _ _

theorem runsAt_wander :
    RunsAt Holds e (wander e) m s () { m with ai := Field.AISystem.wander m.ai } s := by
  unfold wander Field.AISystem.wander
  refine runsAt_ai.bind ?_
  split
  · refine (runsAt_writeAi _).bind ?_
    simp only
    split
    · refine (runsAt_writeAi _).bind ((runsAt_writeAi _).bind ((runsAt_writeAi _).bind ?_))
      exact runsAt_ai.bind (runsAt_setMonsterMove _ _ _)
    · exact (runsAt_writeAi _).bind ((runsAt_writeAi _).bind runsAt_stopMove)
  · refine (runsAt_writeAi _).bind (runsAt_ai.bind ?_)
    simp only
    split
    · exact runsAt_stopMove
    · exact runsAt_setMonsterMove _ _ _

theorem runsAt_turnAway (tr : CTransform K) (pos : K × K) :
    RunsAt Holds e (turnAway e tr pos) m s ()
      { m with
        ai := { m.ai with
          moveDirX := (if lit 0.000001 < Field.AISystem.distSq tr pos then
            Field.AISystem.awayFrom tr pos else (m.ai.moveDirX, m.ai.moveDirY)).1
          moveDirY := (if lit 0.000001 < Field.AISystem.distSq tr pos then
            Field.AISystem.awayFrom tr pos else (m.ai.moveDirX, m.ai.moveDirY)).2 } } s := by
  unfold turnAway
  split
  · exact runsAt_writeAi _
  · exact .pure ()

theorem runsAt_moveOn (speed : K) :
    RunsAt Holds e (moveOn e speed) m s ()
      { m with
        ai := Field.setMonsterMove { m.ai with moveSpeed := speed } m.ai.moveDirX m.ai.moveDirY
          speed } s :=
  (runsAt_writeAi _).bind (runsAt_ai.bind (runsAt_setMonsterMove _ _ _))

theorem runsAt_archer (tr : CTransform K) (pos : K × K) :
    RunsAt Holds e (archer e tr pos) m s ()
      { m with ai := Field.AISystem.archer tr pos m.ai } s := by
  unfold archer Field.AISystem.archer
  simp only
  split
  · exact (runsAt_writeAi _).bind ((runsAt_turnAway tr pos).bind (runsAt_moveOn _))
  split
  · exact (runsAt_writeAi _).bind runsAt_stopMove
  · exact (runsAt_writeAi _).bind (runsAt_moveOn _)

theorem runsAt_gate (st : CStats) (dist : K) :
    RunsAt Holds e (gate e st dist) m s ()
      { m with
        ai := { m.ai with state := Field.AISystem.gate st dist m.ai.attackCd m.ai.state } } s :=
  (runsAt_writeAi _).bind ((runsAt_writeAi _).bind (runsAt_writeAi _))

theorem runsAt_melee (policy : List K → Fin 5 → K) (tr : CTransform K) (st : CStats) (pos : K × K)
    (oldState : AiState) :
    RunsAt Holds e (melee policy e tr st pos oldState) m s ()
      { m with ai := Field.AISystem.melee policy tr st pos oldState m.ai } s := by
  unfold melee Field.AISystem.melee
  refine runsAt_ai.bind ((runsAt_writeAi _).bind ?_)
  refine (runsAt_gate _ _).bind (runsAt_ai.bind ?_)
  simp only
  generalize (Field.AISystem.gate (K := K) _ _ _ _) = state
  cases state with
  | idle => exact runsAt_stopMove
  | chase => exact runsAt_moveOn _
  | «return» => exact (runsAt_turnAway tr pos).bind (runsAt_moveOn _)
  | attack => exact runsAt_stopMove
  | patrol => exact .pure ()
  | dead => exact .pure ()

omit [Scalar K] in
theorem answer_selectTarget (env : MonsterEnvironment K σ) (s : σ) (tr : CTransform K)
    (sightRange : K) (ai : CAI K) :
    (answer (Field.AISystem.selectTarget env s tr sightRange ai)).1 = 0 →
      (answer (Field.AISystem.selectTarget env s tr sightRange ai)).2 = none := by
  unfold Field.AISystem.selectTarget answer
  split
  · rename_i pos hknown
    intro hzero
    simp [show ai.targetId = 0 from hzero] at hknown
  · simp only
    split
    · exact fun _ => rfl
    · rename_i htarget
      split
      · exact fun hzero => absurd hzero htarget
      · exact fun _ => rfl

theorem runsAt_act (env : MonsterEnvironment K σ) (policy : List K → Fin 5 → K)
    (oldState : AiState) :
    RunsAt Holds e (act env policy e (Field.AISystem.isArcher m) oldState) m s ()
      { m with ai := Field.AISystem.think env policy s m oldState m.ai } s := by
  unfold act Field.AISystem.think
  refine (runsAt_selectTarget env _).bind (runsAt_transform.bind (runsAt_stats.bind ?_))
  simp only
  have hsel := answer_selectTarget env s m.transform
    (if Field.AISystem.isArcher m then lit 18 else lit 11) m.ai
  generalize Field.AISystem.selectTarget env s m.transform
    (if Field.AISystem.isArcher m then lit 18 else lit 11) m.ai = sel at hsel ⊢
  rw [targetPos_eq hsel]
  obtain ⟨ai, pos⟩ := sel
  simp only [answer]
  generalize ((if Field.AISystem.isArcher m then lit 18 else lit 11) : K) = sightRange
  cases pos with
  | none =>
    simp only [Bool.false_eq_true, if_false]
    split
    · exact runsAt_flee _ _ hsel
    by_cases htarget : ai.targetId = 0
    · simp only [htarget, if_true]
      exact runsAt_wander
    · simp only [htarget, if_false]
      refine (runsAt_writeAi _).bind ?_
      exact runsAt_stopMove
  | some pos =>
    have htarget : ai.targetId ≠ 0 := fun hzero => by simpa [answer] using hsel hzero
    simp only [htarget, if_false]
    split
    · refine (runsAt_writeAi _).bind ?_
      exact runsAt_stopMove.bind (runsAt_writeAi _)
    split
    · exact runsAt_flee _ _ hsel
    split
    · exact runsAt_archer _ _
    · exact runsAt_melee _ _ _ _ _

theorem runsAt_body (env : MonsterEnvironment K σ) (policy : List K → Fin 5 → K) (dt : K)
    (hid : m.id = e) :
    RunsAt Holds e (body env policy dt e) m s () (Field.AISystem.update env policy dt s m).1
      (Field.AISystem.update env policy dt s m).2 := by
  unfold body Field.AISystem.update Field.AISystem.decideAi
  refine runsAt_stats.bind (runsAt_ai.bind (runsAt_transform.bind (runsAt_monsterTag.bind ?_)))
  refine (runsAt_writeAi _).bind ?_
  simp only
  refine (runsAt_sync env (by exact hid)).bind ?_
  refine (runsAt_syncStat env (by exact hid)).bind ?_
  refine runsAt_stats.bind ?_
  simp only
  split
  · refine (runsAt_writeAi _).bind ?_
    refine runsAt_stopMove.bind ?_
    exact runsAt_announce env _ (by exact hid)
  refine (runsAt_writeAi _).bind (runsAt_ai.bind ?_)
  simp only
  split
  · -- no think: the state is the one before
    simp only [Field.AISystem.sync_state, ne_eq, not_true_eq_false, if_false]
    exact .pure ()
  · refine (runsAt_writeAi _).bind ?_
    refine (runsAt_act env policy _).bind ?_
    exact runsAt_announce env _ (by exact hid)

end AISystem

namespace MovementSystem

theorem runsAt_course (env : MonsterEnvironment K σ) :
    RunsAt Holds e (course env e) m s (Field.MovementSystem.course env s m) m s := by
  unfold course Field.MovementSystem.course
  refine runsAt_ai.bind (runsAt_transform.bind ?_)
  cases hstate : m.ai.state with
  | chase =>
    simp only [if_true]
    by_cases htarget : m.ai.targetId = 0
    · simp only [htarget, if_true]
      exact .pure _
    · simp only [htarget, if_false]
      refine (runsAt_ask _).bind ?_
      cases env.getPlayerPosition s m.ai.targetId with
      | none => exact .pure _
      | some pos =>
        simp only
        split
        · exact .pure _
        · exact .pure _
  | patrol =>
    simp only [reduceCtorEq, if_false, true_or, if_true]
    split
    · exact .pure _
    · exact .pure _
  | «return» =>
    simp only [reduceCtorEq, if_false, or_true, if_true]
    split
    · exact .pure _
    · exact .pure _
  | idle => exact .pure _
  | attack => exact .pure _
  | dead => exact .pure _

theorem runsAt_body (env : MonsterEnvironment K σ) (dt : K) (hid : m.id = e) :
    RunsAt Holds e (body env dt e) m s () (Field.MovementSystem.update env dt s m).1
      (Field.MovementSystem.update env dt s m).2 := by
  unfold body Field.MovementSystem.update
  refine runsAt_ai.bind (runsAt_transform.bind ?_)
  split
  · split
    · exact runsAt_stopMove
    · exact .pure ()
  · refine (runsAt_course env).bind ?_
    cases Field.MovementSystem.course env s m with
    | none => exact runsAt_stopMove
    | some c =>
      subst hid
      refine (runsAt_writeTransform _).bind (runsAt_transform.bind ((runsAt_call _).bind ?_))
      exact (runsAt_writeAi _).bind (runsAt_setMonsterMove _ _ _)

end MovementSystem

namespace CombatSystem

omit [Scalar K] in
theorem runsAt_attackPlayer (env : MonsterEnvironment K σ) (playerId : Nat) (hid : m.id = e) :
    RunsAt Holds e (attackPlayer env e playerId) m s () m
      (Field.CombatSystem.attackPlayer env s m.id playerId m.stats.atk) := by
  unfold attackPlayer Field.CombatSystem.attackPlayer
  refine (runsAt_ask _).bind ?_
  cases env.getPlayerStats s playerId with
  | none => exact .pure ()
  | some stats =>
    obtain ⟨hp, maxHp, sp, maxSp⟩ := stats
    subst hid
    refine runsAt_stats.bind ?_
    simp only
    generalize (if 0 < hp - m.stats.atk then hp - m.stats.atk else 0) = newHp
    refine (runsAt_callIf _ _).bind ((runsAt_callIf _ _).bind ((runsAt_call _).bind ?_))
    refine (runsAt_callIf _ _).bind ?_
    by_cases hchanged : newHp ≠ hp ∨ sp ≠ sp
    · simp only [hchanged, if_true]
      exact runsAt_callIf _ _
    · simp only [hchanged, if_false]
      exact runsAt_callIf _ _

theorem runsAt_body (env : MonsterEnvironment K σ) (dt : K) (hid : m.id = e) :
    RunsAt Holds e (body env dt e) m s () (Field.CombatSystem.update env dt s m).1
      (Field.CombatSystem.update env dt s m).2 := by
  unfold body Field.CombatSystem.update
  refine runsAt_ai.bind ?_
  split
  · exact runsAt_writeAi _
  refine (runsAt_writeAi _).bind (runsAt_ai.bind ?_)
  simp only
  split
  · exact .pure ()
  refine (runsAt_ask _).bind ?_
  cases env.getPlayerPosition s m.ai.targetId with
  | none => exact .pure ()
  | some pos =>
    refine runsAt_stats.bind ?_
    refine (runsAt_attackPlayer env _ (by exact hid)).bind ?_
    exact (runsAt_writeAi _).bind (runsAt_writeAi _)

end CombatSystem

namespace World

theorem runsAt_hit (env : MonsterEnvironment K σ) (hid : m.id = e) :
    RunsAt Holds e (hit env e) m s (MonsterWorld.hit m).2 (MonsterWorld.hit m).1
      (if (MonsterWorld.hit m).2 then env.removeFromAoi s m.id else s) := by
  unfold hit MonsterWorld.hit MonsterWorld.killMonster killMonster
  refine (runsAt_writeStats _).bind (runsAt_stats.bind ?_)
  simp only
  split
  · subst hid
    refine (runsAt_writeStats _).bind ?_
    refine RunsAt.bind ((runsAt_writeStats _).bind ((runsAt_writeAi _).bind
      (runsAt_writeSpawnInfo _))) ?_
    exact (runsAt_writeSpawnInfo _).bind ((runsAt_call _).bind (.pure true))
  · exact .pure false

/-- The loop of `player_attack_monster` comes to the entity with the id, if
there is one. -/
theorem playerAttackMonster_eq (env : MonsterEnvironment K σ) (mid : Nat) (es : List Nat) :
    playerAttackMonster env mid es = if mid ∈ es then hit env mid else pure false := by
  induction es with
  | nil => rfl
  | cons e es ih =>
    unfold playerAttackMonster
    by_cases he : e = mid
    · simp [he]
    · simp [he, ih, Ne.symm he]

end World

theorem playerAttackMonster_of_mem (env : MonsterEnvironment K σ) {ms : List (Monster K)}
    (hnd : (ms.map Monster.id).Nodup) {m : Monster K} (hm : m ∈ ms) (s : σ) :
    MonsterWorld.playerAttackMonster env m.id ms s =
      (ms.map fun b => if b.id = m.id then (MonsterWorld.hit b).1 else b,
        if (MonsterWorld.hit m).2 then env.removeFromAoi s m.id else s,
        (MonsterWorld.hit m).2) := by
  induction ms with
  | nil => cases hm
  | cons a ms ih =>
    obtain ⟨hfresh, hnd⟩ := List.nodup_cons.mp hnd
    unfold MonsterWorld.playerAttackMonster
    rcases List.mem_cons.mp hm with rfl | hm
    · have hrest : ms.map (fun b => if b.id = m.id then (MonsterWorld.hit b).1 else b) = ms := by
        rw [List.map_congr_left (g := id), List.map_id]
        intro b hb
        have hne : b.id ≠ m.id := fun heq => hfresh (heq ▸ List.mem_map_of_mem hb)
        simp [hne]
      simp [hrest]
    · have hne : a.id ≠ m.id := fun heq => hfresh (heq ▸ List.mem_map_of_mem hm)
      simp [hne, ih hnd hm]

theorem playerAttackMonster_of_notMem (env : MonsterEnvironment K σ) {ms : List (Monster K)}
    {mid : Nat} (h : mid ∉ ms.map Monster.id) (s : σ) :
    MonsterWorld.playerAttackMonster env mid ms s = (ms, s, false) := by
  induction ms with
  | nil => rfl
  | cons a ms ih =>
    simp only [List.map_cons, List.mem_cons, not_or] at h
    unfold MonsterWorld.playerAttackMonster
    simp [Ne.symm h.1, ih h.2]

/-! ## Worlds -/

/-- The stored world holds the monsters of a list of records, which differ
in their ids. -/
structure Represents (c : Components K) (es : List Nat) (ms : List (Monster K)) : Prop where
  monsters : es = ms.map Monster.id
  nodup : (ms.map Monster.id).Nodup
  holds : ∀ e, Holds c e (ms.find? fun m => m.id = e)

variable {env : MonsterEnvironment K σ} {c : Components K} {es : List Nat} {ms : List (Monster K)}

omit [Scalar K] in
/-- A loop over the entities is the loop over the records. -/
theorem Represents.forM (h : Represents c es ms) {f : Nat → Ecs K σ Unit}
    {g : σ → Monster K → Monster K × σ} (hid : ∀ s m, (g s m).1.id = m.id)
    (hbody : ∀ s m, RunsAt Holds m.id (f m.id) m s () (g s m).1 (g s m).2) (s : σ) :
    ∃ c', es.forM f (c, s) = some ((), c', (updateLoop g s ms).2) ∧
      Represents c' es (updateLoop g s ms).1 := by
  obtain ⟨hes, hnd, hholds⟩ := h
  obtain ⟨c', hrun, hholds'⟩ := forM_find hid hbody hnd c s hholds
  have hids : (updateLoop g s ms).1.map Monster.id = ms.map Monster.id := updateLoop_map hid s ms
  refine ⟨c', hes ▸ hrun, hes.trans hids.symm, hids ▸ hnd, hholds'⟩

variable (env) in
/-- **A tick.** -/
theorem Represents.update (h : Represents c es ms) (policy : List K → Fin 5 → K) (dt : K) (s : σ) :
    ∃ c', World.update env policy dt es (c, s) =
        some ((), c', (MonsterWorld.update env policy dt ⟨ms⟩ s).2) ∧
      Represents c' es (MonsterWorld.update env policy dt ⟨ms⟩ s).1.monsters := by
  obtain ⟨c₁, hrun₁, h₁⟩ := h.forM (spawnUpdate_id env dt)
    (fun _ _ => SpawnSystem.runsAt_body env dt rfl) s
  obtain ⟨c₂, hrun₂, h₂⟩ := h₁.forM (Field.AISystem.update_id env policy dt)
    (fun _ _ => AISystem.runsAt_body env policy dt rfl) _
  obtain ⟨c₃, hrun₃, h₃⟩ := h₂.forM (Field.MovementSystem.update_id env dt)
    (fun _ _ => MovementSystem.runsAt_body env dt rfl) _
  obtain ⟨c₄, hrun₄, h₄⟩ := h₃.forM (Field.CombatSystem.update_id env dt)
    (fun _ _ => CombatSystem.runsAt_body env dt rfl) _
  refine ⟨c₄, ?_, h₄⟩
  change (es.forM (SpawnSystem.body env dt) (c, s)).bind (fun r =>
    (es.forM (AISystem.body env policy dt) r.2).bind fun r =>
      (es.forM (MovementSystem.body env dt) r.2).bind fun r =>
        es.forM (CombatSystem.body env dt) r.2) = _
  rw [hrun₁, Option.bind_some, hrun₂, Option.bind_some, hrun₃, Option.bind_some, hrun₄]
  rfl

variable (env) in
/-- **A hit.** -/
theorem Represents.attack (h : Represents c es ms) (mid : Nat) (s : σ) :
    ∃ c', World.playerAttackMonster env mid es (c, s) =
        some ((MonsterWorld.playerAttackMonster env mid ms s).2.2, c',
          (MonsterWorld.playerAttackMonster env mid ms s).2.1) ∧
      Represents c' es (MonsterWorld.playerAttackMonster env mid ms s).1 := by
  obtain ⟨hes, hnd, hholds⟩ := h
  rw [World.playerAttackMonster_eq]
  by_cases hmid : mid ∈ es
  · rw [if_pos hmid]
    rw [hes] at hmid
    obtain ⟨m, hm, rfl⟩ := List.mem_map.mp hmid
    have hself := hholds m.id
    rw [find_of_nodup hnd hm] at hself
    obtain ⟨c', hrun, hself', hother⟩ := World.runsAt_hit env (s := s) rfl c hself
    rw [playerAttackMonster_of_mem env hnd hm]
    have hids : (ms.map fun b => if b.id = m.id then (MonsterWorld.hit b).1 else b).map Monster.id =
        ms.map Monster.id := by
      rw [← MonsterWorld.playerAttackMonster_ids env m.id ms s,
        playerAttackMonster_of_mem env hnd hm]
    refine ⟨c', hrun, hes.trans hids.symm, hids ▸ hnd, ?_⟩
    exact tied_replace (g := fun b => (MonsterWorld.hit b).1) MonsterWorld.hit_id hnd hm hholds
      hself' hother
  · rw [if_neg hmid]
    rw [hes] at hmid
    rw [playerAttackMonster_of_notMem env hmid]
    exact ⟨c, rfl, hes, hnd, hholds⟩

/-- **A creation.** -/
theorem Represents.create {w : World K} {v : MonsterWorld K}
    (h : Represents w.components w.monsters v.monsters) {mid : Nat} (hmid : mid ∉ w.monsters)
    (x y : K) (prefabName : String) (monsterType maxHp hp maxSp sp atk d : Int) :
    let w' := w.createMonster mid x y prefabName monsterType maxHp hp maxSp sp atk d
    let v' := v.createMonster mid x y prefabName monsterType maxHp hp maxSp sp atk d
    Represents w'.components w'.monsters v'.monsters := by
  obtain ⟨hes, hnd, hholds⟩ := h
  rw [hes] at hmid
  refine ⟨by simp [World.createMonster, MonsterWorld.createMonster, hes], ?_, ?_⟩
  · simp only [MonsterWorld.createMonster, List.map_append, List.map_cons, List.map_nil]
    exact List.nodup_append.mpr ⟨hnd, List.nodup_singleton _, by simpa using hmid⟩
  · intro e
    simp only [MonsterWorld.createMonster, List.find?_append]
    by_cases he : e = mid
    · subst he
      rw [(find_eq_none_iff e).mpr hmid]
      constructor <;> simp [World.createMonster]
    · have hold := hholds e
      simp only [List.find?_cons_of_neg, Ne.symm he, decide_false, Bool.false_eq_true,
        not_false_eq_true, List.find?_nil, Option.or_none]
      exact {
        transform := (ComponentStorage.get_add_ne _ _ he).trans hold.transform
        stats := (ComponentStorage.get_add_ne _ _ he).trans hold.stats
        monsterTag := (ComponentStorage.get_add_ne _ _ he).trans hold.monsterTag
        spawnInfo := (ComponentStorage.get_add_ne _ _ he).trans hold.spawnInfo
        aiComp := (ComponentStorage.get_add_ne _ _ he).trans hold.aiComp
        prefabNameComp := (ComponentStorage.get_add_ne _ _ he).trans hold.prefabNameComp
        id := hold.id }

omit [Scalar K] in
/-- A delay set from outside. -/
theorem Represents.delay (h : Represents c es ms) (mid : Nat) (delay : K) (s : σ) :
    ∃ c', (if c.spawnInfo.has mid then
        writeSpawnInfo mid fun sp => { sp with respawnDelay := delay }
      else pure () : Ecs K σ Unit) (c, s) = some ((), c', s) ∧
      Represents c' es (ms.map fun m =>
        if m.id = mid then { m with spawnInfo := { m.spawnInfo with respawnDelay := delay } }
        else m) := by
  obtain ⟨hes, hnd, hholds⟩ := h
  have hids : (ms.map fun m =>
      if m.id = mid then { m with spawnInfo := { m.spawnInfo with respawnDelay := delay } }
      else m).map Monster.id = ms.map Monster.id := by
    rw [List.map_map]
    refine List.map_congr_left fun m _ => ?_
    simp only [Function.comp]
    split <;> rfl
  rw [ComponentStorage.has_eq, (hholds mid).spawnInfo]
  by_cases hmid : mid ∈ ms.map Monster.id
  · obtain ⟨m, hm, rfl⟩ := List.mem_map.mp hmid
    have hself := hholds m.id
    rw [find_of_nodup hnd hm] at hself ⊢
    obtain ⟨c', hrun, hself', hother⟩ := runsAt_writeSpawnInfo (s := s)
      (fun sp => { sp with respawnDelay := delay }) c hself
    refine ⟨c', hrun, hes.trans hids.symm, hids ▸ hnd, ?_⟩
    exact tied_replace (g := fun m : Monster K =>
      { m with spawnInfo := { m.spawnInfo with respawnDelay := delay } }) (fun _ => rfl) hnd hm
      hholds hself' hother
  · have hsame : (ms.map fun m =>
        if m.id = mid then { m with spawnInfo := { m.spawnInfo with respawnDelay := delay } }
        else m) = ms := by
      rw [List.map_congr_left (g := id), List.map_id]
      intro m hm
      have hne : m.id ≠ mid := fun heq => hmid (heq ▸ List.mem_map_of_mem hm)
      simp [hne]
    rw [(find_eq_none_iff mid).mpr hmid, hsame]
    exact ⟨c, rfl, hes, hnd, hholds⟩

/-- The stored world is the one of the records, before the same outside. -/
def State.Represents (st : State K σ) (rt : WorldState K σ) : Prop :=
  MonsterEcs.Represents st.world.components st.world.monsters rt.world.monsters ∧
    st.outside = rt.outside

omit [Scalar K] in
theorem State.Represents.allowed {st : State K σ} {rt : WorldState K σ} (h : st.Represents rt)
    (R : σ → σ → Prop) (a : WorldAction K σ) : st.Allowed R a ↔ rt.Allowed R a := by
  cases a with
  | create mid =>
    unfold State.Allowed WorldState.Allowed WorldState.ids
    rw [h.1.monsters]
  | outside s =>
    unfold State.Allowed WorldState.Allowed
    rw [h.2]
  | _ => exact Iff.rfl

omit [Scalar K] in
theorem State.run_eq {α : Type} {p : Ecs K σ α} {s s' : σ} {c' : Components K} {x : α}
    (h : p (c, s) = some (x, c', s')) :
    State.run ⟨⟨c, es⟩, s⟩ p = some (x, ⟨⟨c', es⟩, s'⟩) := by
  simp [State.run, h]

variable (env) in
/-- **Step refinement.** A step that is allowed does not throw, and is the
step of the records. -/
theorem State.Represents.step {st : State K σ} {rt : WorldState K σ} (h : st.Represents rt)
    {R : σ → σ → Prop} {a : WorldAction K σ} (ha : st.Allowed R a) :
    ∃ st', st.step env a = some st' ∧ st'.Represents (rt.step env a) := by
  obtain ⟨⟨c, es⟩, s⟩ := st
  obtain ⟨⟨ms⟩, s'⟩ := rt
  obtain ⟨h, hs⟩ := h
  simp only at h hs
  subst hs
  unfold State.step WorldState.step
  cases a with
  | create mid x y prefabName monsterType maxHp hp maxSp sp atk d =>
    exact ⟨_, rfl, h.create ha x y prefabName monsterType maxHp hp maxSp sp atk d, rfl⟩
  | setRespawnDelay mid delay =>
    obtain ⟨c', hrun, h'⟩ := h.delay mid delay s
    exact ⟨_, congrArg (Option.map Prod.snd) (State.run_eq hrun), h', rfl⟩
  | update policy dt =>
    obtain ⟨c', hrun, h'⟩ := h.update env policy dt s
    exact ⟨_, congrArg (Option.map Prod.snd) (State.run_eq hrun), h', rfl⟩
  | attack mid =>
    obtain ⟨c', hrun, h'⟩ := h.attack env mid s
    exact ⟨_, congrArg (Option.map Prod.snd) (State.run_eq hrun), h', rfl⟩
  | skill mid =>
    obtain ⟨c', hrun, h'⟩ := h.attack env mid s
    have hskill : (do
        let dead ← World.playerAttackMonster env mid es
        callIf (dead = true) fun s => env.broadcastAiState s mid .dead : Ecs K σ Unit) (c, s) =
        some ((), c', if (MonsterWorld.playerAttackMonster env mid ms s).2.2 then
          env.broadcastAiState (MonsterWorld.playerAttackMonster env mid ms s).2.1 mid .dead
        else (MonsterWorld.playerAttackMonster env mid ms s).2.1) := by
      change (World.playerAttackMonster env mid es (c, s)).bind (fun r =>
        callIf (r.1 = true) (fun s => env.broadcastAiState s mid .dead) r.2) = _
      rw [hrun, Option.bind_some, callIf]
      split <;> rfl
    refine ⟨_, congrArg (Option.map Prod.snd) (State.run_eq hskill), ?_⟩
    unfold State.Represents WorldState.attack
    simp only
    split
    · exact ⟨h', rfl⟩
    · exact ⟨h', rfl⟩
  | outside s' => exact ⟨_, rfl, h, rfl⟩

/-! ## Runs -/

theorem State.Represents.start {R : σ → σ → Prop} {st : State K σ} (h : (ecsSystem env R).init st) :
    st.Represents { outside := st.outside } := by
  refine ⟨⟨?_, List.nodup_nil, fun e => ?_⟩, rfl⟩
  · rw [h]
    rfl
  · rw [h]
    constructor <;> simp

/-- Every run of the stored world is a run of the records. -/
theorem ecsSystem_represents {R : σ → σ → Prop} {l : List (State K σ × WorldAction K σ)}
    {st : State K σ} (r : Run (ecsSystem env R) l st) :
    ∃ l' rt, Run (worldSystem env R) l' rt ∧ l'.map Prod.snd = l.map Prod.snd ∧
      st.Represents rt := by
  induction r with
  | @start st h => exact ⟨[], { outside := st.outside }, .start rfl, rfl, .start h⟩
  | step r h ih =>
    obtain ⟨l', rt, r', hactions, hrep⟩ := ih
    obtain ⟨ha, hstep⟩ := h
    obtain ⟨st', hstep', hrep'⟩ := hrep.step env ha
    obtain rfl := Option.some.inj (hstep.symm.trans hstep')
    exact ⟨_, _, r'.next _ ⟨(hrep.allowed R _).mp ha, rfl⟩, by simp [hactions], hrep'⟩

/-- Every run of the records is a run of the stored world. -/
theorem worldSystem_represented {R : σ → σ → Prop} {l' : List (WorldState K σ × WorldAction K σ)}
    {rt : WorldState K σ} (r : Run (worldSystem env R) l' rt) :
    ∃ l st, Run (ecsSystem env R) l st ∧ l.map Prod.snd = l'.map Prod.snd ∧ st.Represents rt := by
  induction r with
  | @start rt h =>
    have hstart : (ecsSystem env R).init { outside := rt.outside } := rfl
    have hrep := State.Represents.start hstart
    refine ⟨[], _, .start hstart, rfl, ?_⟩
    obtain ⟨⟨ms⟩, s⟩ := rt
    cases h
    exact hrep
  | step r h ih =>
    obtain ⟨l, st, r', hactions, hrep⟩ := ih
    obtain ⟨ha, rfl⟩ := h
    have ha' := (hrep.allowed R _).mpr ha
    obtain ⟨st', hstep, hrep'⟩ := hrep.step env ha'
    exact ⟨_, _, r'.next _ ⟨ha', hstep⟩, by simp [hactions], hrep'⟩

/-- **Component storages refine records.** Whatever is done with a
`MonsterWorld`, no `get` ever throws, and storages and vector hold exactly
the monsters that the same calls make of a list of records, before the
same outside; and every run of the records is one of the stored world. -/
theorem component_storages_refine_records (env : MonsterEnvironment K σ) (R : σ → σ → Prop) :
    (∀ l st, Run (ecsSystem env R) l st →
      (∃ l' rt, Run (worldSystem env R) l' rt ∧ l'.map Prod.snd = l.map Prod.snd ∧
        st.Represents rt) ∧
      ∀ a, st.Allowed R a → ∃ st', st.step env a = some st') ∧
    ∀ l' rt, Run (worldSystem env R) l' rt →
      ∃ l st, Run (ecsSystem env R) l st ∧ l.map Prod.snd = l'.map Prod.snd ∧
        st.Represents rt := by
  constructor
  · intro l st r
    have h := ecsSystem_represents r
    refine ⟨h, fun a ha => ?_⟩
    obtain ⟨_, _, _, _, hrep⟩ := h
    obtain ⟨st', hstep, _⟩ := hrep.step env ha
    exact ⟨st', hstep⟩
  · exact fun l' rt r => worldSystem_represented r

/-- An archer is created, shoots at a player and is hit: the storages hold
what became of the record, and whatever comes next does not throw. -/
theorem component_storages_refine_records_archer : ∃ l st,
    Run (ecsSystem onePlayer fun _ _ => True) l st ∧ st.world.monsters = [1000] ∧
      (st.world.components.stats.get 1000).map CStats.hp = some 190 ∧
      (st.world.components.aiComp.get 1000).map CAI.state = some .attack ∧
      (∃ l' rt, Run (worldSystem onePlayer fun _ _ => True) l' rt ∧
        l'.map Prod.snd = l.map Prod.snd ∧ st.Represents rt) ∧
      ∀ a, st.Allowed (fun _ _ => True) a → ∃ st', st.step onePlayer a = some st' := by
  obtain ⟨hstored, hrecords⟩ := component_storages_refine_records onePlayer fun _ _ => True
  have r : Run (worldSystem onePlayer fun _ _ => True) [] { outside := some (15, 0) } := .start rfl
  have r := r.next (.create 1000 0 0 "BowAndArrow1" 1 200 200 100 100 7 3)
    ⟨show 1000 ∉ [] by decide, rfl⟩
  have r := (r.next (.update (fun _ _ => 0) 1) ⟨trivial, rfl⟩).next (.attack 1000) ⟨trivial, rfl⟩
  have r := r.next (.update (fun _ _ => 0) (1 / 10)) ⟨trivial, rfl⟩
  obtain ⟨l, st, r', -, hrep⟩ := hrecords _ _ r
  have h := hstored l st r'
  have holds := hrep.1.holds 1000
  refine ⟨l, st, r', hrep.1.monsters.trans (by decide +kernel), ?_, ?_, h⟩
  · rw [holds.stats]
    decide +kernel
  · rw [holds.aiComp]
    decide +kernel

end MmorpgServer.Field.MonsterEcs
