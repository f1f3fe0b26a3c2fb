/-
MmorpgServer.Field.MonsterEcs — `MonsterWorld` as it is stored: a table of
components for each kind and the vector `monsters` of the entities.

`MmorpgServer.Field.Monster` has a monster as the record of its
components and gives every system as a function of that record. Here the
systems are the programs of the source: they look components up where the
source does (`get` is `at`, which throws for an entity without the
component), write them through the reference they got, and
`set_monster_move` finds the `CAI` it writes by itself, whatever reference
its caller holds.

* `ComponentStorage` — `has`, `get`, `add` and `remove`.
* `Ecs` — a program over the components and the state behind the
  callbacks; it fails where the source throws.
* `SpawnSystem.body`, `AISystem.body`, `MovementSystem.body`,
  `CombatSystem.body` — the loop bodies of the four systems.
* `World`, `ecsSystem` — `MonsterWorld`, and its runs.
-/
import MmorpgServer.Field.MonsterRuns
import Mathlib.Data.Finmap

namespace MmorpgServer.Field.MonsterEcs

open MmorpgServer.Lib Scalar

/-! ## `ComponentStorage.h` -/

/-- `ComponentStorage`. -/
structure ComponentStorage (T : Type) where
  data : Finmap fun _ : Nat => T := ∅

namespace ComponentStorage

variable {T : Type}

def has (c : ComponentStorage T) (e : Nat) : Bool := (c.data.lookup e).isSome

/-- `get`, or no value where `at` throws. -/
def get (c : ComponentStorage T) (e : Nat) : Option T := c.data.lookup e

def add (c : ComponentStorage T) (e : Nat) (v : T) : ComponentStorage T := ⟨c.data.insert e v⟩

def remove (c : ComponentStorage T) (e : Nat) : ComponentStorage T := ⟨c.data.erase e⟩

@[simp] theorem get_empty (e : Nat) : ({} : ComponentStorage T).get e = none :=
  Finmap.lookup_empty e

@[simp] theorem get_add (c : ComponentStorage T) (e : Nat) (v : T) : (c.add e v).get e = some v :=
  Finmap.lookup_insert c.data

theorem get_add_ne (c : ComponentStorage T) {e e' : Nat} (v : T) (h : e' ≠ e) :
    (c.add e v).get e' = c.get e' :=
  Finmap.lookup_insert_of_ne c.data h

theorem has_eq (c : ComponentStorage T) (e : Nat) : c.has e = (c.get e).isSome := rfl

end ComponentStorage

/-! ## Components -/

/-- `CMonsterTag`. -/
structure CMonsterTag where
  monsterType : Int

/-- `CPrefabName`. -/
structure CPrefabName where
  name : String

/-- The storages of a `MonsterWorld`. -/
structure Components (K : Type) where
  transform : ComponentStorage (CTransform K) := {}
  stats : ComponentStorage CStats := {}
  monsterTag : ComponentStorage CMonsterTag := {}
  spawnInfo : ComponentStorage (CSpawnInfo K) := {}
  aiComp : ComponentStorage (CAI K) := {}
  prefabNameComp : ComponentStorage CPrefabName := {}

/-! ## Programs -/

variable {K σ : Type}

/-- A program over the components and the state behind the callbacks. -/
abbrev Ecs (K σ : Type) := StateT (Components K × σ) Option

/-- A component of an entity, looked up. -/
def look {T : Type} (storage : Components K → ComponentStorage T) (e : Nat) : Ecs K σ T :=
  fun st => ((storage st.1).get e).map fun v => (v, st)

/-- A write through the reference to the `CAI`. -/
def writeAi (e : Nat) (f : CAI K → CAI K) : Ecs K σ Unit := fun st =>
  (st.1.aiComp.get e).map fun ai => ((), { st.1 with aiComp := st.1.aiComp.add e (f ai) }, st.2)

def writeStats (e : Nat) (f : CStats → CStats) : Ecs K σ Unit := fun st =>
  (st.1.stats.get e).map fun v => ((), { st.1 with stats := st.1.stats.add e (f v) }, st.2)

def writeSpawnInfo (e : Nat) (f : CSpawnInfo K → CSpawnInfo K) : Ecs K σ Unit := fun st =>
  (st.1.spawnInfo.get e).map fun v =>
    ((), { st.1 with spawnInfo := st.1.spawnInfo.add e (f v) }, st.2)

def writeTransform (e : Nat) (f : CTransform K → CTransform K) : Ecs K σ Unit := fun st =>
  (st.1.transform.get e).map fun v =>
    ((), { st.1 with transform := st.1.transform.add e (f v) }, st.2)

/-- A callback that answers. -/
def ask {α : Type} (f : σ → α) : Ecs K σ α := fun st => some (f st.2, st)

/-- A callback that acts. -/
def call (f : σ → σ) : Ecs K σ Unit := fun st => some ((), st.1, f st.2)

/-- A callback that acts if a condition holds. -/
def callIf (c : Prop) [Decidable c] (f : σ → σ) : Ecs K σ Unit := if c then call f else pure ()

variable [Scalar K]

/-- `MonsterEnvironment::set_monster_move`. -/
def setMonsterMove (e : Nat) (dx dy speed : K) : Ecs K σ Unit :=
  let len2 := dx * dx + dy * dy
  if len2 < lit 0.0001 ∨ speed ≤ lit 0 then
    writeAi e fun ai => { ai with moveDirX := lit 0, moveDirY := lit 0, moveSpeed := lit 0 }
  else
    let invLen := lit 1 / sqrt len2
    writeAi e fun ai =>
      { ai with moveDirX := dx * invLen, moveDirY := dy * invLen, moveSpeed := speed }

/-- `stop_move`. -/
def stopMove (e : Nat) : Ecs K σ Unit := do
  writeAi e fun ai => { ai with moveDirX := lit 0, moveDirY := lit 0, moveSpeed := lit 0 }
  setMonsterMove e (lit 0) (lit 0) (lit 0)

/-! ## `SpawnSystem` -/

def SpawnSystem.body (env : MonsterEnvironment K σ) (dt : K) (e : Nat) : Ecs K σ Unit := do
  let st ← look Components.stats e
  let sp ← look Components.spawnInfo e
  let _ ← look Components.aiComp e
  let _ ← look Components.transform e
  if 0 < st.hp then pure ()
  else if !sp.pendingRespawn then pure ()
  else if sp.respawnDelay ≤ lit 0 then pure ()
  else do
    writeSpawnInfo e fun sp => { sp with respawnTimer := sp.respawnTimer + dt }
    let sp ← look Components.spawnInfo e
    if sp.respawnTimer < sp.respawnDelay then pure ()
    else do
      writeSpawnInfo e fun sp => { sp with pendingRespawn := false, respawnTimer := lit 0 }
      writeStats e fun st => { st with hp := st.maxHp }
      writeTransform e fun _ => ⟨sp.spawnX, sp.spawnY⟩
      writeAi e fun ai =>
        { ai with state := .idle, targetId := 0, thinkCooldown := lit 0, attackTimer := lit 0 }
      let tr ← look Components.transform e
      call fun s => env.spawnInAoi s e tr.x tr.y

/-! ## `AISystem` -/

namespace AISystem

/-- `if (ai.state != oldState) env.broadcastAiState(e, ai.state)`. -/
def announce (env : MonsterEnvironment K σ) (e : Nat) (oldState : AiState) : Ecs K σ Unit := do
  let ai ← look Components.aiComp e
  callIf (ai.state ≠ oldState) fun s => env.broadcastAiState s e ai.state

/-- The first movement packet of a monster. -/
def syncMove (e : Nat) : Ecs K σ Unit := do
  let ai ← look Components.aiComp e
  if ai.state = .idle ∨ ai.state = .attack ∨ ai.state = .dead then stopMove e
  else setMonsterMove e ai.moveDirX ai.moveDirY patrolSpeed

/-- The first block: a monster not synchronised yet is announced. -/
def sync (env : MonsterEnvironment K σ) (e : Nat) : Ecs K σ Unit := do
  let st ← look Components.stats e
  let ai ← look Components.aiComp e
  if ai.netSynced then pure ()
  else do
    call fun s => env.broadcastAiState s e ai.state
    call fun s => env.broadcastMonsterStat s e st.hp st.maxHp st.sp st.maxSp
    syncMove e
    writeAi e fun ai => { ai with netSynced := true }

def syncStat (env : MonsterEnvironment K σ) (e : Nat) : Ecs K σ Unit := do
  let st ← look Components.stats e
  if st.dirty then do
    call fun s => env.broadcastMonsterStat s e st.hp st.maxHp st.sp st.maxSp
    writeStats e fun st => { st with dirty := false }
  else pure ()

/-- The target a monster has, and its position; none if it is gone. -/
def knownTarget (env : MonsterEnvironment K σ) (e : Nat) : Ecs K σ (Nat × Option (K × K)) := do
  let ai ← look Components.aiComp e
  if ai.targetId = 0 then pure (0, none)
  else do
    match ← ask fun s => env.getPlayerPosition s ai.targetId with
    | some pos => pure (ai.targetId, some pos)
    | none => do
      writeAi e fun ai => { ai with targetId := 0 }
      pure (0, none)

/-- Target selection: the target, and its position if it is known. -/
def selectTarget (env : MonsterEnvironment K σ) (e : Nat) (sightRange : K) :
    Ecs K σ (Nat × Option (K × K)) := do
  let known ← knownTarget env e
  if known.1 ≠ 0 then pure known
  else do
    let tr ← look Components.transform e
    let target ← ask fun s => env.findClosestPlayer s tr.x tr.y sightRange
    writeAi e fun ai => { ai with targetId := target }
    if target = 0 then pure (0, none)
    else do
      match ← ask fun s => env.getPlayerPosition s target with
      | some pos => pure (target, some pos)
      | none => do
        writeAi e fun ai => { ai with targetId := 0 }
        pure (0, none)

/-- `target && hasTargetPos`: the position to go by, if there is one. -/
def targetPos (sel : Nat × Option (K × K)) : Option (K × K) := if sel.1 ≠ 0 then sel.2 else none

/-- The direction of a flight, drawn if there is none to keep. -/
def fleeDir (e : Nat) (sel : Nat × Option (K × K)) : Ecs K σ (K × K) := do
  let tr ← look Components.transform e
  let ai ← look Components.aiComp e
  let old := (ai.moveDirX, ai.moveDirY)
  match targetPos sel with
  | some pos =>
    if lit 0.000001 < Field.AISystem.distSq tr pos then pure (Field.AISystem.awayFrom tr pos)
    else pure old
  | none =>
    if old.1 * old.1 + old.2 * old.2 < lit 0.000001 then do
      let r : K × UInt32 := frandRange ai.rng (lit 0) (lit 6.2831853)
      writeAi e fun ai => { ai with rng := r.2 }
      pure (cos r.1, sin r.1)
    else pure old

/-- Low on hp: flee for a while, and far enough from the target rest. -/
def flee (e : Nat) (isArcher : Bool) (sel : Nat × Option (K × K)) : Ecs K σ Unit := do
  writeAi e fun ai => { ai with state := .return }
  writeAi e fun ai => { ai with
    idlePatrolTimer :=
      if ai.idlePatrolTimer ≤ lit 0 then lit 1.2
      else max (lit 0) (ai.idlePatrolTimer - ai.thinkCooldown) }
  let tr ← look Components.transform e
  let ai ← look Components.aiComp e
  let fleeEndDist : K := if isArcher then lit 22 else lit 16
  let farEnough : Bool :=
    match targetPos sel with
    | none => false
    | some pos =>
      decide (ai.idlePatrolTimer ≤ lit 0) &&
        decide (fleeEndDist * fleeEndDist ≤ Field.AISystem.distSq tr pos)
  if farEnough then do
    writeAi e fun ai => { ai with targetId := 0, state := .idle }
    stopMove e
    writeAi e fun ai => { ai with idlePatrolTimer := lit 0 }
  else do
    let dir ← fleeDir e sel
    writeAi e fun ai =>
      { ai with moveDirX := dir.1, moveDirY := dir.2, moveSpeed := fleeSpeed isArcher }
    setMonsterMove e dir.1 dir.2 (fleeSpeed isArcher)

/-- No target: patrol or rest. -/
def wander (e : Nat) : Ecs K σ Unit := do
  let ai ← look Components.aiComp e
  if ai.idlePatrolTimer ≤ lit 0 then do
    let r : K × UInt32 := frand01 ai.rng
    writeAi e fun ai => { ai with rng := r.2 }
    if r.1 < lit 0.7 then do
      writeAi e fun ai => { ai with state := .patrol }
      let t : K × UInt32 := frandRange r.2 (lit 1.5) (lit 3.5)
      writeAi e fun ai => { ai with idlePatrolTimer := t.1, rng := t.2 }
      let a : K × UInt32 := frandRange t.2 (lit 0) (lit 6.2831853)
      writeAi e fun ai => { ai with
        rng := a.2, moveDirX := cos a.1, moveDirY := sin a.1, moveSpeed := patrolSpeed }
      let ai ← look Components.aiComp e
      setMonsterMove e ai.moveDirX ai.moveDirY ai.moveSpeed
    else do
      writeAi e fun ai => { ai with state := .idle }
      let t : K × UInt32 := frandRange r.2 (lit 0.8) (lit 2)
      writeAi e fun ai => { ai with idlePatrolTimer := t.1, rng := t.2 }
      stopMove e
  else do
    writeAi e fun ai => { ai with
      idlePatrolTimer := max (lit 0) (ai.idlePatrolTimer - ai.thinkCooldown) }
    let ai ← look Components.aiComp e
    if ai.state = .idle then stopMove e
    else setMonsterMove e ai.moveDirX ai.moveDirY ai.moveSpeed

/-- `dist_sq > 1e-6` decides whether the direction is changed. -/
def turnAway (e : Nat) (tr : CTransform K) (pos : K × K) : Ecs K σ Unit :=
  if lit 0.000001 < Field.AISystem.distSq tr pos then
    writeAi e fun ai => { ai with
      moveDirX := (Field.AISystem.awayFrom tr pos).1
      moveDirY := (Field.AISystem.awayFrom tr pos).2 }
  else pure ()

/-- A write of the speed and `set_monster_move` with what is stored. -/
def moveOn (e : Nat) (speed : K) : Ecs K σ Unit := do
  writeAi e fun ai => { ai with moveSpeed := speed }
  let ai ← look Components.aiComp e
  setMonsterMove e ai.moveDirX ai.moveDirY ai.moveSpeed

/-- An archer keeps its distance, shoots or closes in. -/
def archer (e : Nat) (tr : CTransform K) (pos : K × K) : Ecs K σ Unit := do
  let attackRange : K := lit 17
  let desiredMin := attackRange * lit 0.7
  let d2 := Field.AISystem.distSq tr pos
  if d2 < desiredMin * desiredMin then do
    writeAi e fun ai => { ai with state := .return }
    turnAway e tr pos
    moveOn e (fleeSpeed true)
  else if d2 ≤ attackRange * attackRange then do
    writeAi e fun ai => { ai with state := .attack }
    stopMove e
  else do
    writeAi e fun ai => { ai with state := .chase }
    moveOn e (chaseSpeed true)

/-- The gates after the policy. -/
def gate (e : Nat) (st : CStats) (dist : K) : Ecs K σ Unit := do
  writeAi e fun ai => { ai with state := if ai.state = .patrol then .idle else ai.state }
  writeAi e fun ai => { ai with
    state :=
      if ai.state = .attack then
        if dist ≤ ({} : ObsParams K).attackRange ∧ ai.attackCd ≤ lit 0 then ai.state else .chase
      else ai.state }
  let hpRatio : K := if 0 < st.maxHp then ofInt st.hp / ofInt st.maxHp else lit 0
  writeAi e fun ai => { ai with
    state :=
      if ai.state = .return ∧ ({} : ObsParams K).lowHpRatio < hpRatio then .chase else ai.state }

/-- A melee monster does what the policy says, gated. -/
def melee (policy : List K → Fin 5 → K) (e : Nat) (tr : CTransform K) (st : CStats) (pos : K × K)
    (oldState : AiState) : Ecs K σ Unit := do
  let d2 := Field.AISystem.distSq tr pos
  let dist := if lit 0.000000000001 < d2 then sqrt d2 else lit 0
  let ai ← look Components.aiComp e
  let obs := makeObs16 (some pos) tr.x tr.y (ofInt st.hp) (ofInt st.maxHp) ai.attackCd oldState {}
  writeAi e fun ai => { ai with state := AiState.ofAction (argMax5 (policy obs)) }
  gate e st dist
  let ai ← look Components.aiComp e
  match ai.state with
  | .idle => stopMove e
  | .chase => moveOn e (chaseSpeed false)
  | .return => do
    turnAway e tr pos
    moveOn e (fleeSpeed false)
  | .attack => stopMove e
  | _ => pure ()

/-- From target selection to the last broadcast. -/
def act (env : MonsterEnvironment K σ) (policy : List K → Fin 5 → K) (e : Nat) (isArcher : Bool)
    (oldState : AiState) : Ecs K σ Unit := do
  let sightRange : K := if isArcher then lit 18 else lit 11
  let sel ← selectTarget env e sightRange
  let tr ← look Components.transform e
  let st ← look Components.stats e
  let disengageRange := sightRange * lit 1.4
  let tooFar : Bool :=
    match targetPos sel with
    | none => false
    | some pos => decide (disengageRange * disengageRange < Field.AISystem.distSq tr pos)
  if tooFar then do
    writeAi e fun ai => { ai with targetId := 0, state := .idle }
    stopMove e
    writeAi e fun ai => { ai with idlePatrolTimer := lit 0 }
  else if 0 < st.maxHp ∧ (ofInt st.hp / ofInt st.maxHp : K) ≤ lit 0.25 then flee e isArcher sel
  else if sel.1 = 0 then wander e
  else match sel.2 with
    | none => do
      writeAi e fun ai => { ai with targetId := 0, state := .idle }
      stopMove e
    | some pos => if isArcher then archer e tr pos else melee policy e tr st pos oldState

def body (env : MonsterEnvironment K σ) (policy : List K → Fin 5 → K) (dt : K) (e : Nat) :
    Ecs K σ Unit := do
  let _ ← look Components.stats e
  let ai ← look Components.aiComp e
  let _ ← look Components.transform e
  let ty ← look Components.monsterTag e
  let oldState := ai.state
  writeAi e fun ai => { ai with attackCd := max (lit 0) (ai.attackCd - dt) }
  let isArcher := decide (ty.monsterType = 1)
  sync env e
  syncStat env e
  let st ← look Components.stats e
  if st.hp ≤ 0 then do
    writeAi e fun ai => { ai with state := .dead, targetId := 0 }
    stopMove e
    announce env e oldState
  else do
    writeAi e fun ai => { ai with thinkCooldown := ai.thinkCooldown - dt }
    let ai ← look Components.aiComp e
    if lit 0 < ai.thinkCooldown then pure ()
    else do
      writeAi e fun ai => { ai with thinkCooldown := lit 0.3 }
      act env policy e isArcher oldState
      announce env e oldState

end AISystem

/-! ## `MovementSystem` -/

namespace MovementSystem

/-- The course of a step, or none where the source stops and goes on. -/
def course (env : MonsterEnvironment K σ) (e : Nat) : Ecs K σ (Option (K × K × K)) := do
  let ai ← look Components.aiComp e
  let tr ← look Components.transform e
  if ai.state = .chase then
    if ai.targetId = 0 then pure none
    else do
      match ← ask fun s => env.getPlayerPosition s ai.targetId with
      | none => pure none
      | some (px, py) =>
        let dx := px - tr.x
        let dy := py - tr.y
        let len2 := dx * dx + dy * dy
        if len2 < lit 0.000001 then pure none
        else
          let inv := lit 1 / sqrt len2
          pure (some (dx * inv, dy * inv, if ai.moveSpeed ≤ lit 0 then lit 6 else ai.moveSpeed))
  else if ai.state = .patrol ∨ ai.state = .return then
    let len2 := ai.moveDirX * ai.moveDirX + ai.moveDirY * ai.moveDirY
    if len2 < lit 0.000001 ∨ ai.moveSpeed ≤ lit 0 then pure none
    else pure (some (ai.moveDirX, ai.moveDirY, ai.moveSpeed))
  else pure none

def body (env : MonsterEnvironment K σ) (dt : K) (e : Nat) : Ecs K σ Unit := do
  let ai ← look Components.aiComp e
  let _ ← look Components.transform e
  if ai.state = .idle ∨ ai.state = .attack ∨ ai.state = .dead then
    if ai.moveSpeed ≠ lit 0 ∨ ai.moveDirX ≠ lit 0 ∨ ai.moveDirY ≠ lit 0 then stopMove e
    else pure ()
  else do
    match ← course env e with
    | none => stopMove e
    | some (dirX, dirY, speed) => do
      writeTransform e fun tr => ⟨tr.x + dirX * speed * dt, tr.y + dirY * speed * dt⟩
      let tr ← look Components.transform e
      call fun s => env.moveInAoi s e tr.x tr.y
      writeAi e fun ai => { ai with moveDirX := dirX, moveDirY := dirY, moveSpeed := speed }
      setMonsterMove e dirX dirY speed

end MovementSystem

/-! ## `CombatSystem` -/

namespace CombatSystem

/-- `CombatSystem::attack_player`. -/
def attackPlayer (env : MonsterEnvironment K σ) (monsterId playerId : Nat) : Ecs K σ Unit := do
  match ← ask fun s => env.getPlayerStats s playerId with
  | none => pure ()
  | some (hp, maxHp, sp, maxSp) => do
    let mon ← look Components.stats monsterId
    let dmg := mon.atk
    let newHp := if 0 < hp - dmg then hp - dmg else 0
    let newSp := sp
    let hpChanged := newHp ≠ hp
    let spChanged := newSp ≠ sp
    let statChanged := hpChanged ∨ spChanged
    callIf statChanged fun s => env.setPlayerStats s playerId newHp newSp
    callIf statChanged fun s => env.markPlayerDirty s playerId
    call fun s => env.broadcastCombat s monsterId playerId dmg newHp
    callIf statChanged fun s => env.broadcastPlayerStat s playerId newHp maxHp newSp maxSp
    callIf (hpChanged ∧ newHp ≤ 0) fun s => env.broadcastPlayerState s playerId .dead

def body (env : MonsterEnvironment K σ) (dt : K) (e : Nat) : Ecs K σ Unit := do
  let ai ← look Components.aiComp e
  if ai.state ≠ .attack then writeAi e fun ai => { ai with attackTimer := lit 0 }
  else do
    writeAi e fun ai => { ai with attackTimer := ai.attackTimer + dt }
    let ai ← look Components.aiComp e
    if ai.attackTimer < ai.attackCooldown then pure ()
    else do
      match ← ask fun s => env.getPlayerPosition s ai.targetId with
      | none => pure ()
      | some _ => do
        let _ ← look Components.stats e
        attackPlayer env e ai.targetId
        writeAi e fun ai => { ai with attackCd := lit 0.9 }
        writeAi e fun ai => { ai with attackTimer := lit 0 }

end CombatSystem

/-! ## `MonsterWorld` -/

/-- `MonsterWorld`. -/
structure World (K : Type) where
  components : Components K := {}
  monsters : List Nat := []

namespace World

/-- `create_monster`. -/
def createMonster (w : World K) (databaseid : Nat) (x y : K) (prefabName : String)
    (monsterType maxHp hp maxSp sp atk «def» : Int) : World K :=
  let e := databaseid
  { monsters := w.monsters ++ [e]
    components := {
      transform := w.components.transform.add e ⟨x, y⟩
      stats := w.components.stats.add e { maxHp, hp, maxSp, sp, atk, «def» }
      monsterTag := w.components.monsterTag.add e ⟨monsterType⟩
      spawnInfo := w.components.spawnInfo.add e {
        spawnX := x, spawnY := y, respawnDelay := lit 0, pendingRespawn := false,
        respawnTimer := lit 0, deadTimer := lit 0 }
      aiComp := w.components.aiComp.add e {
        state := .patrol, targetId := 0, thinkCooldown := lit 0, attackCooldown := lit 1,
        attackTimer := lit 0, idlePatrolTimer := lit 0, moveDirX := lit 0, moveDirY := lit 0,
        moveSpeed := lit 0, netSynced := false, rng := 0x12345678, attackCd := lit 0 }
      prefabNameComp := w.components.prefabNameComp.add e ⟨prefabName⟩ } }

/-- `update`: the loops of the four systems, one after the other. -/
def update (env : MonsterEnvironment K σ) (policy : List K → Fin 5 → K) (dt : K)
    (monsters : List Nat) : Ecs K σ Unit := do
  monsters.forM (SpawnSystem.body env dt)
  monsters.forM (AISystem.body env policy dt)
  monsters.forM (MovementSystem.body env dt)
  monsters.forM (CombatSystem.body env dt)

/-- `kill_monster`. -/
def killMonster (e : Nat) : Ecs K σ Unit := do
  writeStats e fun st => { st with hp := 0 }
  writeAi e fun ai => { ai with state := .dead }
  writeSpawnInfo e fun sp => { sp with deadTimer := lit 0 }

/-- The body of the loop of `player_attack_monster`, at the entity it is
for. -/
def hit (env : MonsterEnvironment K σ) (e : Nat) : Ecs K σ Bool := do
  writeStats e fun st => { st with hp := st.hp - 10, dirty := true }
  let st ← look Components.stats e
  if st.hp ≤ 0 then do
    writeStats e fun st => { st with hp := 0 }
    killMonster e
    writeSpawnInfo e fun sp => { sp with pendingRespawn := true, respawnTimer := lit 0 }
    call fun s => env.removeFromAoi s e
    pure true
  else pure false

/-- `player_attack_monster`, over the entities that are left. -/
def playerAttackMonster (env : MonsterEnvironment K σ) (mid : Nat) : List Nat → Ecs K σ Bool
  | [] => pure false
  | e :: es => if e ≠ mid then playerAttackMonster env mid es else hit env e

end World

/-! ## Runs -/

/-- A world and the state behind its environment. -/
structure State (K σ : Type) where
  world : World K := {}
  outside : σ

namespace State

/-- A program runs over the components of a world. -/
def run {α : Type} (st : State K σ) (p : Ecs K σ α) : Option (α × State K σ) :=
  (p (st.world.components, st.outside)).map fun r => (r.1, ⟨⟨r.2.1, st.world.monsters⟩, r.2.2⟩)

/-- A step, or none where the source throws. -/
def step (env : MonsterEnvironment K σ) (st : State K σ) :
    WorldAction K σ → Option (State K σ)
  | .create mid x y prefabName monsterType maxHp hp maxSp sp atk «def» =>
    some { st with
      world := st.world.createMonster mid x y prefabName monsterType maxHp hp maxSp sp atk «def» }
  | .setRespawnDelay mid delay =>
    (st.run (if st.world.components.spawnInfo.has mid then
      writeSpawnInfo mid fun sp => { sp with respawnDelay := delay } else pure ())).map Prod.snd
  | .update policy dt => (st.run (World.update env policy dt st.world.monsters)).map Prod.snd
  | .attack mid => (st.run (World.playerAttackMonster env mid st.world.monsters)).map Prod.snd
  | .skill mid =>
    (st.run do
      let dead ← World.playerAttackMonster env mid st.world.monsters
      callIf (dead = true) fun s => env.broadcastAiState s mid .dead).map Prod.snd
  | .outside s => some { st with outside := s }

/-- An id is created once, and the state behind the environment changes as
`R` allows. -/
def Allowed (R : σ → σ → Prop) (st : State K σ) : WorldAction K σ → Prop
  | .create mid _ _ _ _ _ _ _ _ _ _ => mid ∉ st.world.monsters
  | .outside s => R st.outside s
  | _ => True

end State

/-- Every sequence of steps from an empty world on. A step that throws
leads nowhere. -/
def ecsSystem (env : MonsterEnvironment K σ) (R : σ → σ → Prop) :
    System (State K σ) (WorldAction K σ) where
  init st := st.world = {}
  step st a st' := st.Allowed R a ∧ st.step env a = some st'

end MmorpgServer.Field.MonsterEcs
