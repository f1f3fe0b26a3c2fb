/-
MmorpgServer.Field.MonsterRuns — a `MonsterWorld` from its first monster
on, and what is observed of it.

* `worldSystem` — monsters created, ticked and attacked in any order,
  while the state behind the callbacks changes in any way it is allowed
  to.
* `MonsterEnvironment.recorded` — the environment that also remembers the
  calls replication and respawning are judged by.
* `AISystem.thinkRecord`, `CombatSystem.attackCall` — a think and a call
  of `attack_player`, which are no callbacks, as functions of what the
  system is at; `MonsterWorld.thinkOf` and `MonsterWorld.attackCalls` are
  those of a whole tick.
-/
import MmorpgServer.Field.Monster
import MmorpgServer.Lib.TransitionSystem

namespace MmorpgServer.Field

open MmorpgServer.Lib Scalar

variable {K σ : Type} [Scalar K]

/-! ## Runs -/

/-- A world and the state behind its environment. -/
structure WorldState (K σ : Type) where
  world : MonsterWorld K := {}
  outside : σ

/-- What is done with a world. -/
inductive WorldAction (K σ : Type) where
  | create (mid : Nat) (x y : K) (prefabName : String)
      (monsterType maxHp hp maxSp sp atk «def» : Int)
  /-- `spawnInfo.get(e).respawnDelay = delay`, which no code does -/
  | setRespawnDelay (mid : Nat) (delay : K)
  | update (policy : List K → Fin 5 → K) (dt : K)
  /-- `player_attack_monster` -/
  | attack (mid : Nat)
  /-- the same, and the broadcast of `handle_skill` after it -/
  | skill (mid : Nat)
  /-- the state behind the environment changes -/
  | outside (s : σ)

namespace WorldState

def ids (st : WorldState K σ) : List Nat := st.world.monsters.map Monster.id

/-- `player_attack_monster`, with its result. -/
def attack (env : MonsterEnvironment K σ) (st : WorldState K σ) (mid : Nat) :
    WorldState K σ × Bool :=
  let r := MonsterWorld.playerAttackMonster env mid st.world.monsters st.outside
  (⟨⟨r.1⟩, r.2.1⟩, r.2.2)

def update (env : MonsterEnvironment K σ) (policy : List K → Fin 5 → K) (dt : K)
    (st : WorldState K σ) : WorldState K σ :=
  let r := st.world.update env policy dt st.outside
  ⟨r.1, r.2⟩

def step (env : MonsterEnvironment K σ) (st : WorldState K σ) : WorldAction K σ → WorldState K σ
  | .create mid x y prefabName monsterType maxHp hp maxSp sp atk «def» =>
    { st with
      world := st.world.createMonster mid x y prefabName monsterType maxHp hp maxSp sp atk «def» }
  | .setRespawnDelay mid delay =>
    { st with
      world := ⟨st.world.monsters.map fun m =>
        if m.id = mid then { m with spawnInfo := { m.spawnInfo with respawnDelay := delay } }
        else m⟩ }
  | .update policy dt => st.update env policy dt
  | .attack mid => (st.attack env mid).1
  | .skill mid =>
    let r := st.attack env mid
    if r.2 then { r.1 with outside := env.broadcastAiState r.1.outside mid .dead } else r.1
  | .outside s => { st with outside := s }

/-- An id is created once, and the state behind the environment changes as
`R` allows. -/
def Allowed (R : σ → σ → Prop) (st : WorldState K σ) : WorldAction K σ → Prop
  | .create mid _ _ _ _ _ _ _ _ _ _ => mid ∉ st.ids
  | .outside s => R st.outside s
  | _ => True

end WorldState

/-- Every sequence of steps from a world without monsters on. -/
def worldSystem (env : MonsterEnvironment K σ) (R : σ → σ → Prop) :
    System (WorldState K σ) (WorldAction K σ) where
  init st := st.world.monsters = []
  step st a st' := st.Allowed R a ∧ st' = st.step env a

/-! ## Recording -/

/-- What is remembered of the calls: the hp of the most recent
`broadcastMonsterStat`, the state of the most recent `broadcastAiState`
and the number of `spawnInAoi` calls, for each monster. -/
structure Calls where
  stat : Nat → Option Int := fun _ => none
  state : Nat → Option AiState := fun _ => none
  spawns : Nat → Nat := fun _ => 0

/-- The environment, with its calls remembered. -/
def MonsterEnvironment.recorded (env : MonsterEnvironment K σ) :
    MonsterEnvironment K (σ × Calls) where
  findClosestPlayer s := env.findClosestPlayer s.1
  getPlayerPosition s := env.getPlayerPosition s.1
  broadcastCombat s mid pid dmg hp := (env.broadcastCombat s.1 mid pid dmg hp, s.2)
  moveInAoi s mid x y := (env.moveInAoi s.1 mid x y, s.2)
  broadcastAiState s mid state :=
    (env.broadcastAiState s.1 mid state,
      { s.2 with state := Function.update s.2.state mid (some state) })
  broadcastPlayerState s pid state := (env.broadcastPlayerState s.1 pid state, s.2)
  spawnInAoi s mid x y :=
    (env.spawnInAoi s.1 mid x y,
      { s.2 with spawns := Function.update s.2.spawns mid (s.2.spawns mid + 1) })
  removeFromAoi s mid := (env.removeFromAoi s.1 mid, s.2)
  broadcastMonsterStat s mid hp maxHp sp maxSp :=
    (env.broadcastMonsterStat s.1 mid hp maxHp sp maxSp,
      { s.2 with stat := Function.update s.2.stat mid (some hp) })
  broadcastPlayerStat s pid hp maxHp sp maxSp :=
    (env.broadcastPlayerStat s.1 pid hp maxHp sp maxSp, s.2)
  getPlayerStats s := env.getPlayerStats s.1
  setPlayerStats s pid hp sp := (env.setPlayerStats s.1 pid hp sp, s.2)
  markPlayerDirty s pid := (env.markPlayerDirty s.1 pid, s.2)

/-- The monsters and their environment, recorded. What happens outside
calls nothing. -/
def recordedSystem (env : MonsterEnvironment K σ) :
    System (WorldState K (σ × Calls)) (WorldAction K (σ × Calls)) where
  init st := st.world.monsters = [] ∧ st.outside.2 = {}
  step := (worldSystem env.recorded fun s s' => s'.2 = s.2).step

/-- A recorded world, without the record. -/
def WorldState.unrecorded (st : WorldState K (σ × Calls)) : WorldState K σ :=
  ⟨st.world, st.outside.1⟩

/-- What is done with a recorded world, without the record. -/
def WorldAction.unrecorded : WorldAction K (σ × Calls) → WorldAction K σ
  | .create mid x y prefabName monsterType maxHp hp maxSp sp atk «def» =>
    .create mid x y prefabName monsterType maxHp hp maxSp sp atk «def»
  | .setRespawnDelay mid delay => .setRespawnDelay mid delay
  | .update policy dt => .update policy dt
  | .attack mid => .attack mid
  | .skill mid => .skill mid
  | .outside s => .outside s.1

/-! ## Dying and coming back -/

namespace WorldState

/-- A step in which `player_attack_monster` kills the monster. -/
def Kills (env : MonsterEnvironment K σ) (mid : Nat) (p : WorldState K σ × WorldAction K σ) :
    Prop :=
  (p.2 = .attack mid ∨ p.2 = .skill mid) ∧ (p.1.attack env mid).2 = true

/-- `n` calls of `MonsterWorld::update(dt)`. -/
def updates (env : MonsterEnvironment K σ) (policy : List K → Fin 5 → K) (dt : K) :
    Nat → WorldState K σ → WorldState K σ
  | 0, st => st
  | n + 1, st => (updates env policy dt n st).update env policy dt

/-- Between two states, the monster came back: it is whole again, stands
where it was spawned, waits for no respawn, and was passed to `spawnInAoi`
once. -/
def CameBack (mid : Nat) (st st' : WorldState K (σ × Calls)) : Prop :=
  ∃ m ∈ st'.world.monsters, m.id = mid ∧ m.stats.hp = m.stats.maxHp ∧
    m.transform = ⟨m.spawnInfo.spawnX, m.spawnInfo.spawnY⟩ ∧ m.spawnInfo.pendingRespawn = false ∧
    st'.outside.2.spawns mid = st.outside.2.spawns mid + 1

end WorldState

/-- `SpawnSystem` respawns the monster, of which clients have been told. -/
def Monster.Respawns (dt : K) (m : Monster K) : Prop :=
  m.ai.netSynced = true ∧ ¬ 0 < m.stats.hp ∧ m.spawnInfo.pendingRespawn = true ∧
    ¬ m.spawnInfo.respawnDelay ≤ lit 0 ∧
    ¬ m.spawnInfo.respawnTimer + dt < m.spawnInfo.respawnDelay

/-! ## The four systems of a tick -/

namespace MonsterWorld

variable (env : MonsterEnvironment K σ) (policy : List K → Fin 5 → K) (dt : K)
  (w : MonsterWorld K) (s : σ)

/-- The monsters after `SpawnSystem`. -/
def spawned : List (Monster K) × σ := updateLoop (spawnUpdate env dt) s w.monsters

/-- The monsters after `AISystem`. -/
def decided : List (Monster K) × σ :=
  updateLoop (AISystem.update env policy dt) (spawned env dt w s).2 (spawned env dt w s).1

/-- The monsters after `MovementSystem`. -/
def moved : List (Monster K) × σ :=
  updateLoop (MovementSystem.update env dt) (decided env policy dt w s).2
    (decided env policy dt w s).1

/-- The passes of `AISystem`. -/
def aiPasses : List (σ × Monster K) :=
  visits (AISystem.update env policy dt) (spawned env dt w s).2 (spawned env dt w s).1

/-- The passes of `CombatSystem`. -/
def combatPasses : List (σ × Monster K) :=
  visits (CombatSystem.update env dt) (moved env policy dt w s).2 (moved env policy dt w s).1

end MonsterWorld

/-! ## Thinks -/

/-- A think of a monster: what it is, where it stands, `attackCd` after
its decrement, and the target it chose, with its position if known. -/
structure ThinkRecord (K : Type) where
  archer : Bool
  place : CTransform K
  attackCd : K
  target : Nat
  targetPos : Option (K × K)
  deriving DecidableEq

namespace AISystem

/-- Where `AISystem::update` is when it comes to the death check. -/
def announced (env : MonsterEnvironment K σ) (dt : K) (s : σ) (m : Monster K) : CAI K × σ :=
  let m := { m with ai := { m.ai with attackCd := max (lit 0) (m.ai.attackCd - dt) } }
  let synced := sync env s m
  (synced.1,
    if m.stats.dirty then
      env.broadcastMonsterStat synced.2 m.id m.stats.hp m.stats.maxHp m.stats.sp m.stats.maxSp
    else synced.2)

/-- The think of a pass, if its tick has come. -/
def thinkRecord (env : MonsterEnvironment K σ) (dt : K) (s : σ) (m : Monster K) :
    Option (ThinkRecord K) :=
  let r := announced env dt s m
  if m.stats.hp ≤ 0 then none
  else if lit 0 < r.1.thinkCooldown - dt then none
  else
    let sightRange : K := if isArcher m then lit 18 else lit 11
    let sel := selectTarget env r.2 m.transform sightRange { r.1 with thinkCooldown := lit 0.3 }
    some {
      archer := isArcher m, place := m.transform, attackCd := r.1.attackCd
      target := sel.1.targetId, targetPos := sel.2 }

/-- The distance to a target, as the melee branch computes it. -/
def distance (tr : CTransform K) (pos : K × K) : K :=
  if lit 0.000000000001 < distSq tr pos then sqrt (distSq tr pos) else lit 0

end AISystem

/-- The chosen target's position was known and within attack range: for an
archer the squared distance lies between those of 0.7 * 17 and 17, for the
others the distance is at most 1.3 and the cooldown is over. -/
def ThinkRecord.InRange (r : ThinkRecord K) : Prop :=
  ∃ pos, r.targetPos = some pos ∧
    if r.archer then
      ¬ AISystem.distSq r.place pos < lit 17 * lit 0.7 * (lit 17 * lit 0.7) ∧
        AISystem.distSq r.place pos ≤ lit 17 * lit 17
    else AISystem.distance r.place pos ≤ lit 1.3 ∧ r.attackCd ≤ lit 0

/-- The think of a monster in a tick. -/
def MonsterWorld.thinkOf (env : MonsterEnvironment K σ) (policy : List K → Fin 5 → K) (dt : K)
    (w : MonsterWorld K) (s : σ) (mid : Nat) : Option (ThinkRecord K) :=
  ((aiPasses env policy dt w s).find? fun v => v.2.id = mid).bind fun v =>
    AISystem.thinkRecord env dt v.1 v.2

/-- The most recent think of a monster in a history. -/
def lastThink (env : MonsterEnvironment K σ) (mid : Nat) :
    List (WorldState K σ × WorldAction K σ) → Option (ThinkRecord K)
  | [] => none
  | (st, .update policy dt) :: l =>
    (st.world.thinkOf env policy dt st.outside mid).or (lastThink env mid l)
  | _ :: l => lastThink env mid l

/-! ## Attacks -/

/-- The player a pass of `CombatSystem::update` calls `attack_player` for. -/
def CombatSystem.attackCall (env : MonsterEnvironment K σ) (dt : K) (s : σ) (m : Monster K) :
    Option Nat :=
  if m.ai.state ≠ .attack then none
  else if m.ai.attackTimer + dt < m.ai.attackCooldown then none
  else if (env.getPlayerPosition s m.ai.targetId).isSome then some m.ai.targetId
  else none

/-- The calls of `attack_player` in a tick: the monster, as it is then,
and the player. -/
def MonsterWorld.attackCalls (env : MonsterEnvironment K σ) (policy : List K → Fin 5 → K) (dt : K)
    (w : MonsterWorld K) (s : σ) : List (Monster K × Nat) :=
  (combatPasses env policy dt w s).filterMap fun v =>
    (CombatSystem.attackCall env dt v.1 v.2).map fun p => (v.2, p)

/-- The calls of `attack_player` of a step. -/
def WorldState.attackCalls (env : MonsterEnvironment K σ) (st : WorldState K σ) :
    WorldAction K σ → List (Monster K × Nat)
  | .update policy dt => st.world.attackCalls env policy dt st.outside
  | _ => []

end MmorpgServer.Field
