/-
MmorpgServer.Field.Monster — the monsters of a field: the components of
`field/monster/Components.h`, the callbacks of `MonsterEnvironment`, the
four systems and `MonsterWorld`.

Reading the model against the source:

* `create_monster` adds every component of an entity at once, and none is
  ever removed, so an entity is a record of its components (`Monster`) and
  the storages are a list of these in the order of `monsters`.
* A system loops over `monsters` and changes nothing but the components of
  the monster it is at; everything else it does goes through the
  environment. `update` of a system is therefore a function from a monster
  and the state `σ` behind the callbacks to both, applied in order by
  `updateLoop`.
* The policy network is a parameter: any function from observations to
  five logits.
* Arithmetic is that of an arbitrary `Scalar`.
-/
import MmorpgServer.Lib.Loop
import MmorpgServer.Lib.Scalar

namespace MmorpgServer.Field

open MmorpgServer.Lib Scalar

/-! ## Components -/

/-- `CTransform`. -/
structure CTransform (K : Type) where
  x : K
  y : K
  deriving DecidableEq, Repr

/-- `CStats`. -/
structure CStats where
  maxHp : Int
  hp : Int
  maxSp : Int
  sp : Int
  atk : Int
  «def» : Int
  dirty : Bool := false
  deriving DecidableEq, Repr

/-- `CSpawnInfo`. -/
structure CSpawnInfo (K : Type) where
  spawnX : K
  spawnY : K
  respawnDelay : K
  pendingRespawn : Bool
  respawnTimer : K
  deadTimer : K
  deriving DecidableEq, Repr

/-- `CAI::State`. -/
inductive AiState where
  | idle
  | patrol
  | chase
  | attack
  | return
  | dead
  deriving DecidableEq, Repr

/-- `PlayerState`. -/
inductive PlayerState where
  | idle
  | patrol
  | chase
  | attack
  | return
  | dead
  deriving DecidableEq, Repr

/-- `CAI`. -/
structure CAI (K : Type) where
  state : AiState
  targetId : Nat
  thinkCooldown : K
  attackCooldown : K
  attackTimer : K
  idlePatrolTimer : K
  moveDirX : K
  moveDirY : K
  moveSpeed : K
  netSynced : Bool
  rng : UInt32
  attackCd : K
  deriving DecidableEq, Repr

/-- The components of an entity, `CMonsterTag` and `CPrefabName` by their
one field. -/
structure Monster (K : Type) where
  id : Nat
  transform : CTransform K
  stats : CStats
  monsterType : Int
  spawnInfo : CSpawnInfo K
  ai : CAI K
  prefabName : String
  deriving DecidableEq, Repr

/-! ## The environment -/

/-- `MonsterEnvironment`: the callbacks, over the state they work on. -/
structure MonsterEnvironment (K σ : Type) where
  findClosestPlayer : σ → K → K → K → Nat
  getPlayerPosition : σ → Nat → Option (K × K)
  broadcastCombat : σ → Nat → Nat → Int → Int → σ
  moveInAoi : σ → Nat → K → K → σ
  broadcastAiState : σ → Nat → AiState → σ
  broadcastPlayerState : σ → Nat → PlayerState → σ
  spawnInAoi : σ → Nat → K → K → σ
  removeFromAoi : σ → Nat → σ
  broadcastMonsterStat : σ → Nat → Int → Int → Int → Int → σ
  broadcastPlayerStat : σ → Nat → Int → Int → Int → Int → σ
  /-- hp, maxHp, sp and maxSp -/
  getPlayerStats : σ → Nat → Option (Int × Int × Int × Int)
  setPlayerStats : σ → Nat → Int → Int → σ
  markPlayerDirty : σ → Nat → σ

variable {K σ : Type} [Scalar K]

/-- `MonsterEnvironment::set_monster_move`, on the `CAI` of the entity. -/
def setMonsterMove (ai : CAI K) (dx dy speed : K) : CAI K :=
  let len2 := dx * dx + dy * dy
  if len2 < lit 0.0001 ∨ speed ≤ lit 0 then
    { ai with moveDirX := lit 0, moveDirY := lit 0, moveSpeed := lit 0 }
  else
    let invLen := lit 1 / sqrt len2
    { ai with moveDirX := dx * invLen, moveDirY := dy * invLen, moveSpeed := speed }

/-- `stop_move`. -/
def stopMove (ai : CAI K) : CAI K :=
  setMonsterMove { ai with moveDirX := lit 0, moveDirY := lit 0, moveSpeed := lit 0 }
    (lit 0) (lit 0) (lit 0)

/-! ## `core_types.h` -/

/-- `xorshift32`: the next state, which is also the value. -/
def xorshift32 (s : UInt32) : UInt32 :=
  let s := s ^^^ (s <<< 13)
  let s := s ^^^ (s >>> 17)
  s ^^^ (s <<< 5)

/-- `frand01`: the value and the next state. -/
def frand01 (s : UInt32) : K × UInt32 :=
  let s := xorshift32 s
  (ofInt (s &&& 0xFFFFFF).toNat / lit 0x1000000, s)

/-- `frandRange`. -/
def frandRange (s : UInt32) (a b : K) : K × UInt32 :=
  let r : K × UInt32 := frand01 s
  (a + (b - a) * r.1, r.2)

def playerSpeed : K := lit 5

def patrolSpeed : K := playerSpeed * lit 0.5

def chaseSpeed (_isArcher : Bool) : K := playerSpeed * lit 1.1

def fleeSpeed (_isArcher : Bool) : K := playerSpeed * lit 0.7

/-! ## `RlObs16.h` -/

/-- `ObsParams`, with its default values. -/
structure ObsParams (K : Type) [Scalar K] where
  sight : K := lit 11
  attackRange : K := lit 1.3
  keepAttackRange : K := lit 1.8
  lowHpRatio : K := lit 0.25

/-- `MakeObs16`, for a monster at `(mx, my)` and a target or none. -/
def makeObs16 (target : Option (K × K)) (mx my mHp mMaxHp mAttackCd : K) (lastAction : AiState)
    (p : ObsParams K) : List K :=
  let flag (c : Bool) : K := if c then lit 1 else lit 0
  let o : K × K × K × Bool × Bool × Bool :=
    match target with
    | none => (lit 0, lit 0, lit 0, false, false, false)
    | some (tx, ty) =>
      let vx := tx - mx
      let vy := ty - my
      let dist := sqrt (vx * vx + vy * vy)
      let dir : K × K := if lit 0.000001 < dist then (vx / dist, vy / dist) else (lit 0, lit 0)
      let inAttack := decide (dist ≤ p.attackRange)
      (clampf (dist / p.sight) (lit 0) (lit 2), dir.1, dir.2, decide (mAttackCd ≤ lit 0) && inAttack,
        inAttack, decide (dist ≤ p.keepAttackRange))
  let hpRatio := clampf (if lit 0 < mMaxHp then mHp / mMaxHp else lit 0) (lit 0) (lit 1)
  [flag target.isSome, o.1, o.2.1, o.2.2.1, hpRatio, flag (decide (hpRatio ≤ p.lowHpRatio)),
    flag o.2.2.2.1, flag o.2.2.2.2.1, flag o.2.2.2.2.2,
    flag (decide (lastAction = .idle)), flag (decide (lastAction = .patrol)),
    flag (decide (lastAction = .chase)), flag (decide (lastAction = .attack)),
    flag (decide (lastAction = .return)), lit 0, lit 0]

/-- `ArgMax5`: the first of the greatest logits. -/
def argMax5 (logits : Fin 5 → K) : Fin 5 :=
  ([1, 2, 3, 4] : List (Fin 5)).foldl (fun best i => if logits best < logits i then i else best) 0

/-- `(CAI::State)a`. -/
def AiState.ofAction : Fin 5 → AiState
  | 0 => .idle
  | 1 => .patrol
  | 2 => .chase
  | 3 => .attack
  | 4 => .return

/-! ## `SpawnSystem` -/

/-- `SpawnSystem::update`, for one monster. -/
def spawnUpdate (env : MonsterEnvironment K σ) (dt : K) (s : σ) (m : Monster K) : Monster K × σ :=
  if 0 < m.stats.hp then (m, s)
  else if !m.spawnInfo.pendingRespawn then (m, s)
  else if m.spawnInfo.respawnDelay ≤ lit 0 then (m, s)
  else
    let timer := m.spawnInfo.respawnTimer + dt
    if timer < m.spawnInfo.respawnDelay then
      ({ m with spawnInfo := { m.spawnInfo with respawnTimer := timer } }, s)
    else
      let sp := { m.spawnInfo with pendingRespawn := false, respawnTimer := lit 0 }
      ({ m with
          spawnInfo := sp
          stats := { m.stats with hp := m.stats.maxHp }
          transform := ⟨sp.spawnX, sp.spawnY⟩
          ai := { m.ai with
            state := .idle, targetId := 0, thinkCooldown := lit 0, attackTimer := lit 0 } },
        env.spawnInAoi s m.id sp.spawnX sp.spawnY)

/-! ## `AISystem` -/

namespace AISystem

def isArcher (m : Monster K) : Bool := decide (m.monsterType = 1)

/-- The first block: a monster not synchronised yet is announced. -/
def sync (env : MonsterEnvironment K σ) (s : σ) (m : Monster K) : CAI K × σ :=
  let ai := m.ai
  if ai.netSynced then (ai, s)
  else
    let s := env.broadcastAiState s m.id ai.state
    let s := env.broadcastMonsterStat s m.id m.stats.hp m.stats.maxHp m.stats.sp m.stats.maxSp
    let ai :=
      if ai.state = .idle ∨ ai.state = .attack ∨ ai.state = .dead then stopMove ai
      else setMonsterMove ai ai.moveDirX ai.moveDirY patrolSpeed
    ({ ai with netSynced := true }, s)

/-- Target selection: the known target while its position is known, else
the closest player in sight. -/
def selectTarget (env : MonsterEnvironment K σ) (s : σ) (tr : CTransform K) (sightRange : K)
    (ai : CAI K) : CAI K × Option (K × K) :=
  match if ai.targetId ≠ 0 then env.getPlayerPosition s ai.targetId else none with
  | some pos => (ai, some pos)
  | none =>
    let target := env.findClosestPlayer s tr.x tr.y sightRange
    if target = 0 then ({ ai with targetId := 0 }, none)
    else match env.getPlayerPosition s target with
      | some pos => ({ ai with targetId := target }, some pos)
      | none => ({ ai with targetId := 0 }, none)

def distSq (tr : CTransform K) (pos : K × K) : K :=
  let dx := pos.1 - tr.x
  let dy := pos.2 - tr.y
  dx * dx + dy * dy

/-- The target got too far away: give it up. -/
def disengage (ai : CAI K) : CAI K :=
  { stopMove { ai with targetId := 0, state := .idle } with idlePatrolTimer := lit 0 }

/-- The unit vector from the target to the monster. -/
def awayFrom (tr : CTransform K) (pos : K × K) : K × K :=
  let dx := pos.1 - tr.x
  let dy := pos.2 - tr.y
  let inv := lit 1 / sqrt (dx * dx + dy * dy)
  (-dx * inv, -dy * inv)

/-- A direction drawn from the monster's own generator. -/
def randomDir (rng : UInt32) : (K × K) × UInt32 :=
  let r : K × UInt32 := frandRange rng (lit 0) (lit 6.2831853)
  ((cos r.1, sin r.1), r.2)

/-- Low on hp: flee for a while, and far enough from the target rest. -/
def flee (isArcher : Bool) (tr : CTransform K) (pos : Option (K × K)) (ai : CAI K) : CAI K :=
  let ai := { ai with state := .return }
  let ai := { ai with
    idlePatrolTimer :=
      if ai.idlePatrolTimer ≤ lit 0 then lit 1.2
      else max (lit 0) (ai.idlePatrolTimer - ai.thinkCooldown) }
  let fleeEndDist : K := if isArcher then lit 22 else lit 16
  let farEnough : Bool :=
    match pos with
    | none => false
    | some p =>
      decide (ai.idlePatrolTimer ≤ lit 0) && decide (fleeEndDist * fleeEndDist ≤ distSq tr p)
  if farEnough then
    { stopMove { ai with targetId := 0, state := .idle } with idlePatrolTimer := lit 0 }
  else
    let old := (ai.moveDirX, ai.moveDirY)
    let dir : (K × K) × UInt32 :=
      match pos with
      | some p => (if lit 0.000001 < distSq tr p then awayFrom tr p else old, ai.rng)
      | none =>
        if old.1 * old.1 + old.2 * old.2 < lit 0.000001 then randomDir ai.rng else (old, ai.rng)
    let ai := { ai with
      moveDirX := dir.1.1, moveDirY := dir.1.2, moveSpeed := fleeSpeed isArcher, rng := dir.2 }
    setMonsterMove ai ai.moveDirX ai.moveDirY ai.moveSpeed

/-- No target: patrol or rest, seven times out of ten the former. -/
def wander (ai : CAI K) : CAI K :=
  if ai.idlePatrolTimer ≤ lit 0 then
    let r : K × UInt32 := frand01 ai.rng
    if r.1 < lit 0.7 then
      let t : K × UInt32 := frandRange r.2 (lit 1.5) (lit 3.5)
      let dir := randomDir (K := K) t.2
      let ai := { ai with
        state := .patrol, idlePatrolTimer := t.1, rng := dir.2,
        moveDirX := dir.1.1, moveDirY := dir.1.2, moveSpeed := patrolSpeed }
      setMonsterMove ai ai.moveDirX ai.moveDirY ai.moveSpeed
    else
      let t : K × UInt32 := frandRange r.2 (lit 0.8) (lit 2)
      stopMove { ai with state := .idle, idlePatrolTimer := t.1, rng := t.2 }
  else
    let ai := { ai with
      idlePatrolTimer := max (lit 0) (ai.idlePatrolTimer - ai.thinkCooldown) }
    if ai.state = .idle then stopMove ai
    else setMonsterMove ai ai.moveDirX ai.moveDirY ai.moveSpeed

/-- An archer keeps its distance, shoots or closes in. -/
def archer (tr : CTransform K) (pos : K × K) (ai : CAI K) : CAI K :=
  let attackRange : K := lit 17
  let desiredMin := attackRange * lit 0.7
  let d2 := distSq tr pos
  if d2 < desiredMin * desiredMin then
    let dir := if lit 0.000001 < d2 then awayFrom tr pos else (ai.moveDirX, ai.moveDirY)
    let ai := { ai with
      state := .return, moveDirX := dir.1, moveDirY := dir.2, moveSpeed := fleeSpeed true }
    setMonsterMove ai ai.moveDirX ai.moveDirY ai.moveSpeed
  else if d2 ≤ attackRange * attackRange then stopMove { ai with state := .attack }
  else
    let ai := { ai with state := .chase, moveSpeed := chaseSpeed true }
    setMonsterMove ai ai.moveDirX ai.moveDirY ai.moveSpeed

/-- The gates between the action the policy picks and the state taken. -/
def gate (stats : CStats) (dist attackCd : K) (a : AiState) : AiState :=
  let a := if a = .patrol then .idle else a
  let a :=
    if a = .attack then
      if dist ≤ ({} : ObsParams K).attackRange ∧ attackCd ≤ lit 0 then a else .chase
    else a
  let hpRatio : K := if 0 < stats.maxHp then ofInt stats.hp / ofInt stats.maxHp else lit 0
  if a = .return ∧ ({} : ObsParams K).lowHpRatio < hpRatio then .chase else a

/-- A melee monster does what the policy says, gated. -/
def melee (policy : List K → Fin 5 → K) (tr : CTransform K) (stats : CStats) (pos : K × K)
    (oldState : AiState) (ai : CAI K) : CAI K :=
  let d2 := distSq tr pos
  let dist := if lit 0.000000000001 < d2 then sqrt d2 else lit 0
  let obs := makeObs16 (some pos) tr.x tr.y (ofInt stats.hp) (ofInt stats.maxHp) ai.attackCd
    oldState {}
  let ai := { ai with
    state := gate stats dist ai.attackCd (AiState.ofAction (argMax5 (policy obs))) }
  match ai.state with
  | .idle => stopMove ai
  | .chase =>
    let ai := { ai with moveSpeed := chaseSpeed false }
    setMonsterMove ai ai.moveDirX ai.moveDirY ai.moveSpeed
  | .return =>
    let dir := if lit 0.000001 < d2 then awayFrom tr pos else (ai.moveDirX, ai.moveDirY)
    let ai := { ai with moveDirX := dir.1, moveDirY := dir.2, moveSpeed := fleeSpeed false }
    setMonsterMove ai ai.moveDirX ai.moveDirY ai.moveSpeed
  | .attack => stopMove ai
  | _ => ai

/-- What a living monster does when its think tick has come. -/
def think (env : MonsterEnvironment K σ) (policy : List K → Fin 5 → K) (s : σ) (m : Monster K)
    (oldState : AiState) (ai : CAI K) : CAI K :=
  let archerType := isArcher m
  let sightRange : K := if archerType then lit 18 else lit 11
  let sel := selectTarget env s m.transform sightRange ai
  let ai := sel.1
  let disengageRange := sightRange * lit 1.4
  let tooFar : Bool :=
    match sel.2 with
    | none => false
    | some pos => decide (disengageRange * disengageRange < distSq m.transform pos)
  if tooFar then disengage ai
  else if 0 < m.stats.maxHp ∧
      (ofInt m.stats.hp / ofInt m.stats.maxHp : K) ≤ lit 0.25 then
    flee archerType m.transform sel.2 ai
  else if ai.targetId = 0 then wander ai
  else match sel.2 with
    | none => stopMove { ai with targetId := 0, state := .idle }
    | some pos =>
      if archerType then archer m.transform pos ai
      else melee policy m.transform m.stats pos oldState ai

/-- From the death check on: what becomes of the `CAI`. -/
def decideAi (env : MonsterEnvironment K σ) (policy : List K → Fin 5 → K) (dt : K) (s : σ)
    (m : Monster K) (oldState : AiState) (ai : CAI K) : CAI K :=
  if m.stats.hp ≤ 0 then stopMove { ai with state := .dead, targetId := 0 }
  else
    let ai := { ai with thinkCooldown := ai.thinkCooldown - dt }
    if lit 0 < ai.thinkCooldown then ai
    else think env policy s m oldState { ai with thinkCooldown := lit 0.3 }

/-- `AISystem::update`, for one monster. Every way out of the loop body
that may have changed the state ends in the same broadcast. -/
def update (env : MonsterEnvironment K σ) (policy : List K → Fin 5 → K) (dt : K) (s : σ)
    (m : Monster K) : Monster K × σ :=
  let oldState := m.ai.state
  let m := { m with ai := { m.ai with attackCd := max (lit 0) (m.ai.attackCd - dt) } }
  let synced := sync env s m
  let s := synced.2
  let s :=
    if m.stats.dirty then
      env.broadcastMonsterStat s m.id m.stats.hp m.stats.maxHp m.stats.sp m.stats.maxSp
    else s
  let m := { m with stats := { m.stats with dirty := false } }
  let ai := decideAi env policy dt s m oldState synced.1
  ({ m with ai }, if ai.state ≠ oldState then env.broadcastAiState s m.id ai.state else s)

end AISystem

/-! ## `MovementSystem` -/

namespace MovementSystem

/-- The direction and speed of this step, if the monster moves. -/
def course (env : MonsterEnvironment K σ) (s : σ) (m : Monster K) : Option (K × K × K) :=
  match m.ai.state with
  | .chase =>
    match if m.ai.targetId = 0 then none else env.getPlayerPosition s m.ai.targetId with
    | none => none
    | some (px, py) =>
      let dx := px - m.transform.x
      let dy := py - m.transform.y
      let len2 := dx * dx + dy * dy
      if len2 < lit 0.000001 then none
      else
        let inv := lit 1 / sqrt len2
        some (dx * inv, dy * inv, if m.ai.moveSpeed ≤ lit 0 then lit 6 else m.ai.moveSpeed)
  | .patrol | .return =>
    let len2 := m.ai.moveDirX * m.ai.moveDirX + m.ai.moveDirY * m.ai.moveDirY
    if len2 < lit 0.000001 ∨ m.ai.moveSpeed ≤ lit 0 then none
    else some (m.ai.moveDirX, m.ai.moveDirY, m.ai.moveSpeed)
  | _ => none

/-- `MovementSystem::update`, for one monster. -/
def update (env : MonsterEnvironment K σ) (dt : K) (s : σ) (m : Monster K) : Monster K × σ :=
  if m.ai.state = .idle ∨ m.ai.state = .attack ∨ m.ai.state = .dead then
    if m.ai.moveSpeed ≠ lit 0 ∨ m.ai.moveDirX ≠ lit 0 ∨ m.ai.moveDirY ≠ lit 0 then
      ({ m with ai := stopMove m.ai }, s)
    else (m, s)
  else match course env s m with
    | none => ({ m with ai := stopMove m.ai }, s)
    | some (dirX, dirY, speed) =>
      let x := m.transform.x + dirX * speed * dt
      let y := m.transform.y + dirY * speed * dt
      let ai := { m.ai with moveDirX := dirX, moveDirY := dirY, moveSpeed := speed }
      ({ m with transform := ⟨x, y⟩, ai := setMonsterMove ai dirX dirY speed },
        env.moveInAoi s m.id x y)

end MovementSystem

/-! ## `CombatSystem` -/

namespace CombatSystem

/-- `CombatSystem::attack_player`. -/
def attackPlayer (env : MonsterEnvironment K σ) (s : σ) (monsterId playerId : Nat) (atk : Int) :
    σ :=
  match env.getPlayerStats s playerId with
  | none => s
  | some (hp, maxHp, sp, maxSp) =>
    let dmg := atk
    let newHp := if 0 < hp - dmg then hp - dmg else 0
    let newSp := sp
    let hpChanged := newHp ≠ hp
    let spChanged := newSp ≠ sp
    let statChanged := hpChanged ∨ spChanged
    let s :=
      if statChanged then env.markPlayerDirty (env.setPlayerStats s playerId newHp newSp) playerId
      else s
    let s := env.broadcastCombat s monsterId playerId dmg newHp
    let s := if statChanged then env.broadcastPlayerStat s playerId newHp maxHp newSp maxSp else s
    if hpChanged ∧ newHp ≤ 0 then env.broadcastPlayerState s playerId .dead else s

/-- `CombatSystem::update`, for one monster. -/
def update (env : MonsterEnvironment K σ) (dt : K) (s : σ) (m : Monster K) : Monster K × σ :=
  if m.ai.state ≠ .attack then ({ m with ai := { m.ai with attackTimer := lit 0 } }, s)
  else
    let m := { m with ai := { m.ai with attackTimer := m.ai.attackTimer + dt } }
    if m.ai.attackTimer < m.ai.attackCooldown then (m, s)
    else match env.getPlayerPosition s m.ai.targetId with
      | none => (m, s)
      | some _ =>
        ({ m with ai := { m.ai with attackCd := lit 0.9, attackTimer := lit 0 } },
          attackPlayer env s m.id m.ai.targetId m.stats.atk)

end CombatSystem

/-! ## `MonsterWorld` -/

/-- `MonsterWorld`. -/
structure MonsterWorld (K : Type) where
  monsters : List (Monster K) := []

namespace MonsterWorld

/-- `create_monster`. The members of `CSpawnInfo` without an initialiser
are zeroed by the aggregate initialisation. -/
def createMonster (w : MonsterWorld K) (databaseid : Nat) (x y : K) (prefabName : String)
    (monsterType maxHp hp maxSp sp atk «def» : Int) : MonsterWorld K :=
  { monsters := w.monsters ++ [{
      id := databaseid
      transform := ⟨x, y⟩
      stats := { maxHp, hp, maxSp, sp, atk, «def» }
      monsterType
      spawnInfo := {
        spawnX := x, spawnY := y, respawnDelay := lit 0, pendingRespawn := false,
        respawnTimer := lit 0, deadTimer := lit 0 }
      ai := {
        state := .patrol, targetId := 0, thinkCooldown := lit 0, attackCooldown := lit 1,
        attackTimer := lit 0, idlePatrolTimer := lit 0, moveDirX := lit 0, moveDirY := lit 0,
        moveSpeed := lit 0, netSynced := false, rng := 0x12345678, attackCd := lit 0 }
      prefabName }] }

/-- `MonsterWorld::update`: the four systems, one after the other. -/
def update (env : MonsterEnvironment K σ) (policy : List K → Fin 5 → K) (dt : K)
    (w : MonsterWorld K) (s : σ) : MonsterWorld K × σ :=
  let r := updateLoop (spawnUpdate env dt) s w.monsters
  let r := updateLoop (AISystem.update env policy dt) r.2 r.1
  let r := updateLoop (MovementSystem.update env dt) r.2 r.1
  let r := updateLoop (CombatSystem.update env dt) r.2 r.1
  ({ monsters := r.1 }, r.2)

/-- `kill_monster`, on the components of the monster. -/
def killMonster (m : Monster K) : Monster K :=
  { m with
    stats := { m.stats with hp := 0 }
    ai := { m.ai with state := .dead }
    spawnInfo := { m.spawnInfo with deadTimer := lit 0 } }

/-- A hit on a monster: the monster, and whether the hit kills. -/
def hit (m : Monster K) : Monster K × Bool :=
  let m := { m with stats := { m.stats with hp := m.stats.hp - 10, dirty := true } }
  if m.stats.hp ≤ 0 then
    let m := killMonster m
    ({ m with spawnInfo := { m.spawnInfo with pendingRespawn := true, respawnTimer := lit 0 } },
      true)
  else (m, false)

/-- The loop of `player_attack_monster`: the first monster with the id is
hit, and leaves the index when it dies. -/
def playerAttackMonster (env : MonsterEnvironment K σ) (mid : Nat) :
    List (Monster K) → σ → List (Monster K) × σ × Bool
  | [], s => ([], s, false)
  | m :: ms, s =>
    if m.id ≠ mid then
      let r := playerAttackMonster env mid ms s
      (m :: r.1, r.2)
    else
      let r := hit m
      (r.1 :: ms, if r.2 then env.removeFromAoi s m.id else s, r.2)

end MonsterWorld

end MmorpgServer.Field
