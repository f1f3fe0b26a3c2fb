/-
MmorpgServer.Worker.FieldWorker — the worker of one field,
`worker/fieldWorker.h` and `worker/fieldWorker.cpp`.

The worker owns the players in its field, the monsters and the index of
the area of interest. Messages, skills and ticks change these; what it
tells the outside — payloads to sessions, snapshots for Redis, dirty marks
for the database flush — is kept in `log`, oldest first.

Reading the model against the source:

* A `Player` object is shared between `players_`, `PlayerManager` and the
  game worker; there is one per id, so `player` is the objects by id,
  `players` the keys of `players_` and `registered` the ids
  `PlayerManager` finds. `sessions` are the ids `SessionManager` finds a
  session for.
* `players_` is iterated in an order that changes with its contents only:
  `FieldConfig.playerOrder` gives one for each number of changes so far.
* The callbacks of the environment run while `MonsterWorld::update` is at
  work on the monsters. All they read of the monsters is prefab names,
  which `create_monster` sets for good.
* Two entries of `log` are not effects of the program: where a player is
  added and where a session changes. They say where the stay of a client
  begins and ends. A dirty mark carries the state of the player at that
  moment.
-/
import MmorpgServer.Field.FieldAoiSystem
import MmorpgServer.Lib.TransitionSystem
import MmorpgServer.Field.Monster
import MmorpgServer.Storage.UserSnapshot

namespace MmorpgServer.Worker

open MmorpgServer.Lib MmorpgServer.Field MmorpgServer.Storage Scalar

/-! ## Data -/

/-- `core::Vec2`. -/
structure Vec2 (K : Type) where
  x : K
  y : K
  deriving DecidableEq, Repr

/-- `PlayerMoveState`. -/
structure PlayerMoveState (K : Type) where
  dir : Vec2 K
  moving : Bool
  speed : K
  lastInputTime : K
  deriving DecidableEq, Repr

/-- `PlayerStat`, with its default values. -/
structure PlayerStat where
  hp : Int := 500
  maxHp : Int := 500
  sp : Int := 100
  maxSp : Int := 100
  deriving DecidableEq, Repr

/-- What a field worker uses of a `Player`. -/
structure Player (K : Type) where
  pos : Vec2 K
  moveState : PlayerMoveState K
  stat : PlayerStat
  lastDirtyMarkTime : K
  deriving DecidableEq, Repr

/-- `Player::set_hp` and `Player::set_sp`: clamped to what is allowed. -/
def PlayerStat.setHp (st : PlayerStat) (hp : Int) : PlayerStat :=
  let hp := if st.maxHp < hp then st.maxHp else hp
  { st with hp := if hp < 0 then 0 else hp }

def PlayerStat.setSp (st : PlayerStat) (sp : Int) : PlayerStat :=
  let sp := if st.maxSp < sp then st.maxSp else sp
  { st with sp := if sp < 0 then 0 else sp }

/-- `field::EntityType`, as far as it is sent. -/
inductive EntityType where
  | player
  | monster
  deriving DecidableEq, Repr

/-- `field::FieldCmdType`. -/
inductive FieldCmdType where
  | enter
  | leave
  | move
  deriving DecidableEq, Repr

/-- The packets a field worker sends in a `field::Envelope`. The states of
monsters and players have one representation on the wire. -/
inductive Packet (K : Type) where
  | fieldCmd (type : FieldCmdType) (entityType : EntityType) (entityId : EntityId) (pos : Vec2 K)
      (prefabName : String)
  | combatEvent (attackerType : EntityType) (attackerId : EntityId) (targetType : EntityType)
      (targetId : EntityId) (damage remainHp : Int)
  | aiStateEvent (entityType : EntityType) (entityId : EntityId) (state : AiState)
  | statEvent (entityType : EntityType) (entityId : EntityId) (hp maxHp sp maxSp : Int)
  deriving DecidableEq, Repr

/-- Where a dirty mark comes from: `mark_dirty_state`,
`mark_dirty_pos_if_needed` or `env_.markPlayerDirty`. -/
inductive DirtySource where
  | state
  | pos
  | combat
  deriving DecidableEq, Repr

/-- An entry of the log. -/
inductive Effect (K : Type) where
  | send (playerId : EntityId) (packet : Packet K)
  | redisRtWrite (snap : UserSnapshot K)
  | markDirty (source : DirtySource) (now : UserSnapshot K)
  | playerAdded (playerId : EntityId) (online : Bool)
  | sessionChanged (playerId : EntityId)
  deriving DecidableEq, Repr

/-- What is outside a field worker's control: how positions are rounded to
cells and the orders hash containers are iterated in. -/
structure FieldConfig (K : Type) where
  floor : K → Int
  aoiOrder : Nat → AoiOrder
  playerOrder : Nat → Enumeration EntityId

/-- `FieldWorker`. -/
structure FieldWorker (K : Type) where
  monsterWorld : MonsterWorld K := {}
  aoiSystem : FieldAoiSystem (Vec2 K) := {}
  players : Finset EntityId := ∅
  playersChanges : Nat := 0
  player : EntityId → Player K
  registered : EntityId → Bool := fun _ => false
  sessions : EntityId → Bool := fun _ => false
  worldTime : K
  playerAcc : K
  monsterAcc : K
  redisRtWriter : Bool
  log : List (Effect K) := []

variable {K : Type} [Scalar K]

/-- `PlayerStep` and `MonsterStep`. -/
def playerStep : K := lit 0.05
def monsterStep : K := lit 0.1

def posDirtyDist : K := lit 0.1
def dirtyMinInterval : K := lit 0.25

/-- The index of a field: sectors of 15, two around one's own in view. -/
def FieldConfig.aoi (cfg : FieldConfig K) : AoiConfig (Vec2 K) where
  cell p := (cfg.floor (p.x / lit 15), cfg.floor (p.y / lit 15))
  viewRadiusSectors := 2
  order := cfg.aoiOrder

/-- `is_monster_id`. -/
def isMonsterId (id : EntityId) : Bool := decide (1000 ≤ id)

/-- `to_field_cmd_type`. -/
def toFieldCmdType : AoiEventType → FieldCmdType
  | .snapshot | .enter => .enter
  | .leave => .leave
  | .move => .move

/-- `to_fb_state`. -/
def toFbState : PlayerState → AiState
  | .idle => .idle
  | .patrol => .patrol
  | .chase => .chase
  | .attack => .attack
  | .return => .return
  | .dead => .dead

namespace FieldWorker

/-! ## Telling the outside -/

def emit (fw : FieldWorker K) (es : List (Effect K)) : FieldWorker K :=
  { fw with log := fw.log ++ es }

/-- `find_by_player_id` and `send_payload`. -/
def sendTo (fw : FieldWorker K) (playerId : EntityId) (packet : Packet K) : FieldWorker K :=
  if fw.sessions playerId then fw.emit [.send playerId packet] else fw

/-- The keys of `players_`, as they are iterated. -/
def playerIds (cfg : FieldConfig K) (fw : FieldWorker K) : List EntityId :=
  (cfg.playerOrder fw.playersChanges).list fw.players

/-- `get_prefab_name`. -/
def getPrefabName (fw : FieldWorker K) (id : EntityId) (isMonster : Bool) : String :=
  if isMonster then
    match fw.monsterWorld.monsters.find? fun m => m.id = id with
    | some m => m.prefabName
    | none => ""
  else if id ∈ fw.players then "Paladin"
  else ""

/-- The `FieldCmd` about a subject that both senders build. -/
def fieldCmd (fw : FieldWorker K) (type : FieldCmdType) (subjectId : EntityId) (isMonster : Bool)
    (pos : Vec2 K) : Packet K :=
  let prefabName := fw.getPrefabName subjectId isMonster
  .fieldCmd type (if isMonster then .monster else .player) subjectId pos
    (if prefabName = "" then "Default" else prefabName)

/-- The callback given to `set_send_func`. -/
def aoiSend (fw : FieldWorker K) (d : Delivery (Vec2 K)) : List (Effect K) :=
  if fw.sessions d.watcherId then
    [.send d.watcherId (fw.fieldCmd (toFieldCmdType d.ev.type) d.ev.subjectId
      (isMonsterId d.ev.subjectId) d.ev.position)]
  else []

/-- A call of the index, with the callback called for what it delivers. -/
def aoiCall (fw : FieldWorker K) (r : FieldAoiSystem (Vec2 K) × List (Delivery (Vec2 K))) :
    FieldWorker K :=
  { fw with aoiSystem := r.1, log := fw.log ++ r.2.flatMap fw.aoiSend }

def aoiAdd (cfg : FieldConfig K) (fw : FieldWorker K) (id : EntityId) (isPlayer : Bool)
    (pos : Vec2 K) : FieldWorker K :=
  fw.aoiCall (fw.aoiSystem.addEntity cfg.aoi id isPlayer pos)

def aoiRemove (cfg : FieldConfig K) (fw : FieldWorker K) (id : EntityId) : FieldWorker K :=
  fw.aoiCall (fw.aoiSystem.removeEntity cfg.aoi id)

def aoiMove (cfg : FieldConfig K) (fw : FieldWorker K) (id : EntityId) (pos : Vec2 K) :
    FieldWorker K :=
  fw.aoiCall (fw.aoiSystem.moveEntity cfg.aoi id pos)

/-- A packet to every watcher of an entity (`for_each_watcher`). -/
def broadcast (fw : FieldWorker K) (id : EntityId) (packet : Packet K) : FieldWorker K :=
  (fw.aoiSystem.forEachWatcher id).foldl (fun fw watcherId => fw.sendTo watcherId packet) fw

/-- `broadcast_ai_state`. -/
def broadcastAiState (fw : FieldWorker K) (id : EntityId) (et : EntityType) (state : AiState) :
    FieldWorker K :=
  fw.broadcast id (.aiStateEvent et id state)

/-- `broadcast_stat_event`. -/
def broadcastStatEvent (fw : FieldWorker K) (id : EntityId) (et : EntityType)
    (hp maxHp sp maxSp : Int) : FieldWorker K :=
  fw.broadcast id (.statEvent et id hp maxHp sp maxSp)

def broadcastPlayerState (fw : FieldWorker K) (playerId : EntityId) (st : PlayerState) :
    FieldWorker K :=
  fw.broadcastAiState playerId .player (toFbState st)

/-! ## Persistence -/

def setPlayer (fw : FieldWorker K) (playerId : EntityId) (p : Player K) : FieldWorker K :=
  { fw with player := Function.update fw.player playerId p }

/-- What `write_player_rt_enqueue` puts in `scratchSnap_`. -/
def snapshot (fw : FieldWorker K) (playerId : EntityId) : UserSnapshot K :=
  let p := fw.player playerId
  { uid := playerId, x := p.pos.x, z := p.pos.y, hp := p.stat.hp, sp := p.stat.sp }

/-- `write_player_rt_enqueue`. -/
def writePlayerRtEnqueue (fw : FieldWorker K) (playerId : EntityId) : FieldWorker K :=
  if fw.redisRtWriter then fw.emit [.redisRtWrite (fw.snapshot playerId)] else fw

/-- `dirtyHub_.mark_dirty`. -/
def markDirty (fw : FieldWorker K) (source : DirtySource) (playerId : EntityId) : FieldWorker K :=
  fw.emit [.markDirty source (fw.snapshot playerId)]

def setLastDirtyMarkTime (fw : FieldWorker K) (playerId : EntityId) : FieldWorker K :=
  fw.setPlayer playerId { fw.player playerId with lastDirtyMarkTime := fw.worldTime }

/-- `mark_dirty_state`. -/
def markDirtyState (fw : FieldWorker K) (playerId : EntityId) : FieldWorker K :=
  ((fw.writePlayerRtEnqueue playerId).markDirty .state playerId).setLastDirtyMarkTime playerId

/-- `mark_dirty_pos_if_needed`. -/
def markDirtyPosIfNeeded (fw : FieldWorker K) (playerId : EntityId) (oldPos newPos : Vec2 K) :
    FieldWorker K :=
  let dx := newPos.x - oldPos.x
  let dy := newPos.y - oldPos.y
  let distSq := dx * dx + dy * dy
  let threshSq : K := posDirtyDist * posDirtyDist
  if distSq < threshSq then fw
  else
    let last := (fw.player playerId).lastDirtyMarkTime
    if fw.worldTime - last < dirtyMinInterval then fw
    else
      ((fw.writePlayerRtEnqueue playerId).markDirty .pos playerId).setLastDirtyMarkTime playerId

/-! ## The environment of the monsters -/

/-- `env_.findClosestPlayer`. -/
def findClosestPlayer (cfg : FieldConfig K) (fw : FieldWorker K) (x y maxDist : K) : EntityId :=
  ((fw.playerIds cfg).foldl (fun (closest : EntityId × K) pid =>
    let pos := (fw.player pid).pos
    let dx := pos.x - x
    let dy := pos.y - y
    let distSq := dx * dx + dy * dy
    if distSq < closest.2 then (pid, distSq) else closest) (0, maxDist * maxDist)).1

/-- `init_monster_env`. -/
def env (cfg : FieldConfig K) : MonsterEnvironment K (FieldWorker K) where
  findClosestPlayer fw x y maxDist := fw.findClosestPlayer cfg x y maxDist
  getPlayerPosition fw pid :=
    if pid ∈ fw.players then some ((fw.player pid).pos.x, (fw.player pid).pos.y) else none
  broadcastCombat fw monsterId playerId damage _ :=
    if playerId ∈ fw.players then
      fw.sendTo playerId (.combatEvent .monster monsterId .player playerId damage
        (fw.player playerId).stat.hp)
    else fw
  moveInAoi fw mid x y := fw.aoiMove cfg mid ⟨x, y⟩
  broadcastAiState fw mid state := fw.broadcastAiState mid .monster state
  broadcastPlayerState fw pid st := fw.broadcastPlayerState pid st
  spawnInAoi fw mid x y := (fw.aoiRemove cfg mid).aoiAdd cfg mid false ⟨x, y⟩
  removeFromAoi fw mid := fw.aoiRemove cfg mid
  broadcastMonsterStat fw mid hp maxHp sp maxSp :=
    fw.broadcastStatEvent mid .monster hp maxHp sp maxSp
  broadcastPlayerStat fw pid hp maxHp sp maxSp :=
    fw.broadcastStatEvent pid .player hp maxHp sp maxSp
  getPlayerStats fw pid :=
    if fw.registered pid then
      let st := (fw.player pid).stat
      some (st.hp, st.maxHp, st.sp, st.maxSp)
    else none
  setPlayerStats fw pid hp sp :=
    if fw.registered pid then
      let p := fw.player pid
      fw.setPlayer pid { p with stat := (p.stat.setHp hp).setSp sp }
    else fw
  markPlayerDirty fw pid :=
    let fw := if pid ∈ fw.players then fw.setLastDirtyMarkTime pid else fw
    fw.markDirty .combat pid

/-! ## Messages -/

/-- `on_client_move_input`, for a session's player (`none` without a
session) and the id and direction of a `Move` command. -/
def onClientMoveInput (fw : FieldWorker K) (session : Option EntityId) (entityId : EntityId)
    (dir : Option (Vec2 K)) : FieldWorker K :=
  if session ≠ some entityId then fw
  else if entityId ∉ fw.players then fw
  else match dir with
    | none => fw
    | some d =>
      let len2 := d.x * d.x + d.y * d.y
      let p := fw.player entityId
      let mv := { p.moveState with lastInputTime := fw.worldTime }
      if len2 < lit 0.0001 then
        if !mv.moving then fw.setPlayer entityId { p with moveState := mv }
        else
          let mv := { mv with moving := false, dir := ⟨lit 0, lit 0⟩, speed := lit 0 }
          (fw.setPlayer entityId { p with moveState := mv }).broadcastPlayerState entityId .idle
      else
        let invLen := lit 1 / sqrt len2
        let wasMoving := mv.moving
        let mv := { mv with moving := true, dir := ⟨d.x * invLen, d.y * invLen⟩, speed := lit 4.5 }
        let fw := fw.setPlayer entityId { p with moveState := mv }
        if wasMoving then fw else fw.broadcastPlayerState entityId .chase

/-- `handle_skill`, for a verified `SkillCmd`. -/
def handleSkill (cfg : FieldConfig K) (fw : FieldWorker K) (session : Option EntityId)
    (targetId : EntityId) : FieldWorker K :=
  match session with
  | none => fw
  | some pid =>
    let fw := fw.broadcastPlayerState pid .attack
    let r := MonsterWorld.playerAttackMonster (env cfg) targetId fw.monsterWorld.monsters fw
    let fw := { r.2.1 with monsterWorld := ⟨r.1⟩ }
    if r.2.2 then fw.broadcastAiState targetId .monster .dead else fw

/-! ## Players entering and leaving -/

/-- `send_field_enter`. -/
def sendFieldEnter (fw : FieldWorker K) (watcherId subjectId : EntityId) (isMonster : Bool)
    (pos : Vec2 K) : FieldWorker K :=
  fw.sendTo watcherId (fw.fieldCmd .enter subjectId isMonster pos)

/-- `on_player_enter_field`. -/
def onPlayerEnterField (cfg : FieldConfig K) (fw : FieldWorker K) (pid : EntityId) :
    FieldWorker K :=
  let p := (fw.player pid).pos
  let fw := fw.aoiAdd cfg pid true p
  let fw := fw.sendFieldEnter pid pid false p
  let others := (fw.playerIds cfg).filter fun otherId => otherId ≠ pid
  let fw := others.foldl (fun fw otherId =>
    fw.sendFieldEnter pid otherId false (fw.player otherId).pos) fw
  let fw := fw.monsterWorld.monsters.foldl (fun fw m =>
    fw.sendFieldEnter pid m.id true ⟨m.transform.x, m.transform.y⟩) fw
  others.foldl (fun fw otherId => fw.sendFieldEnter otherId pid false p) fw

/-- `add_player`, with the content of the `Player` object. -/
def addPlayer (cfg : FieldConfig K) (fw : FieldWorker K) (pid : EntityId) (p : Player K) :
    FieldWorker K :=
  let fw := { fw with
    players := insert pid fw.players
    playersChanges := fw.playersChanges + 1
    player := Function.update fw.player pid p
    log := fw.log ++ [Effect.playerAdded pid (fw.sessions pid)] }
  fw.onPlayerEnterField cfg pid

/-- `remove_player`. -/
def removePlayer (cfg : FieldConfig K) (fw : FieldWorker K) (pid : EntityId) : FieldWorker K :=
  let fw := fw.aoiRemove cfg pid
  { fw with players := fw.players.erase pid, playersChanges := fw.playersChanges + 1 }

/-! ## Ticks -/

/-- The body of the loop of `tick_players`. -/
def tickPlayer (cfg : FieldConfig K) (step : K) (fw : FieldWorker K) (pid : EntityId) :
    FieldWorker K :=
  let player := fw.player pid
  let mv := player.moveState
  if mv.moving ∧ lit 0.5 < fw.worldTime - mv.lastInputTime then
    let mv := { mv with moving := false, dir := ⟨lit 0, lit 0⟩, speed := lit 0 }
    ((fw.setPlayer pid { player with moveState := mv }).broadcastPlayerState pid .idle).markDirtyState
      pid
  else if !mv.moving then fw
  else
    let oldPos := player.pos
    let newPos : Vec2 K :=
      ⟨oldPos.x + mv.dir.x * mv.speed * step, oldPos.y + mv.dir.y * mv.speed * step⟩
    -- `is_walkable` accepts everything
    let fw := fw.setPlayer pid { player with pos := newPos }
    (fw.aoiMove cfg pid newPos).markDirtyPosIfNeeded pid oldPos newPos

/-- `tick_players`. -/
def tickPlayers (cfg : FieldConfig K) (step : K) (fw : FieldWorker K) : FieldWorker K :=
  (fw.playerIds cfg).foldl (tickPlayer cfg step) fw

/-- `tick_monsters`. -/
def tickMonsters (cfg : FieldConfig K) (policy : List K → Fin 5 → K) (step : K)
    (fw : FieldWorker K) : FieldWorker K :=
  let r := fw.monsterWorld.update (env cfg) policy step fw
  { r.2 with monsterWorld := r.1 }

/-- The player loop of `update_world`, with `loops` passes left. -/
def playerLoop (cfg : FieldConfig K) : Nat → FieldWorker K → FieldWorker K
  | 0, fw => fw
  | loops + 1, fw =>
    if playerStep ≤ fw.playerAcc then
      let fw := fw.tickPlayers cfg playerStep
      playerLoop cfg loops { fw with playerAcc := fw.playerAcc - playerStep }
    else fw

/-- The monster loop of `update_world`. -/
def monsterLoop (cfg : FieldConfig K) (policy : List K → Fin 5 → K) :
    Nat → FieldWorker K → FieldWorker K
  | 0, fw => fw
  | loops + 1, fw =>
    if monsterStep ≤ fw.monsterAcc then
      let fw := fw.tickMonsters cfg policy monsterStep
      monsterLoop cfg policy loops { fw with monsterAcc := fw.monsterAcc - monsterStep }
    else fw

/-- `update_world`. -/
def updateWorld (cfg : FieldConfig K) (policy : List K → Fin 5 → K) (dt : K)
    (fw : FieldWorker K) : FieldWorker K :=
  if dt ≤ lit 0 then fw
  else
    let fw := { fw with worldTime := fw.worldTime + dt, playerAcc := fw.playerAcc + dt }
    let fw := playerLoop cfg 5 fw
    monsterLoop cfg policy 3 { fw with monsterAcc := fw.monsterAcc + dt }

/-! ## Construction -/

/-- The arguments of `create_monster`. -/
structure MonsterSpawn (K : Type) where
  id : EntityId
  x : K
  y : K
  prefabName : String
  monsterType : Int
  maxHp : Int
  hp : Int
  maxSp : Int
  sp : Int
  atk : Int
  «def» : Int
  deriving DecidableEq, Repr

/-- A monster is created and added to the index where it stands. -/
def spawn (cfg : FieldConfig K) (fw : FieldWorker K) (sp : MonsterSpawn K) : FieldWorker K :=
  let fw := { fw with
    monsterWorld := fw.monsterWorld.createMonster sp.id sp.x sp.y sp.prefabName sp.monsterType
      sp.maxHp sp.hp sp.maxSp sp.sp sp.atk sp.def }
  fw.aoiAdd cfg sp.id false ⟨sp.x, sp.y⟩

/-- The constructor, with the monsters it spawns. The index hands events
on only once it is initialised, at the end. -/
def construct (cfg : FieldConfig K) (player : EntityId → Player K) (redisRtWriter : Bool)
    (spawns : List (MonsterSpawn K)) : FieldWorker K :=
  let fw : FieldWorker K := {
    player, redisRtWriter, worldTime := lit 0, playerAcc := lit 0, monsterAcc := lit 0
    aoiSystem := ({} : FieldAoiSystem (Vec2 K)).setSendFunc }
  let fw := spawns.foldl (spawn cfg) fw
  { fw with aoiSystem := fw.aoiSystem.setInitialized true }

/-- `SpawnMonstersEvenGrid`: where the monsters of field 1000 are spawned,
with the ids `MakeDatabaseID` gives them. -/
def spawnMonstersEvenGrid (makeDatabaseID : Nat → EntityId) : List (MonsterSpawn K) :=
  let names := ["BowAndArrow1", "BowAndArrow2", "BowAndArrow3", "DoubleSwords1", "DoubleSwords2",
    "DoubleSwords3", "MagicWand1", "MagicWand2", "MagicWand3"]
  (List.range 300).map fun i =>
    let cell : K := lit 500 / lit 10
    let at' (n : Nat) : K := clampf (lit 0 + (ofInt n + lit 0.5) * cell) (lit 0) (lit 500)
    let typeIndex := i % 9
    { id := makeDatabaseID i
      x := at' (i % 10)
      y := at' (i / 10)
      prefabName := names.getD typeIndex ""
      monsterType := if typeIndex < 3 then 1 else if typeIndex < 6 then 2 else 3
      maxHp := 200, hp := 200, maxSp := 100, sp := 100, atk := 7, «def» := 3 }

end FieldWorker

/-! ## Runs -/

/-- What a field worker is asked to do, and what changes around it: the
sessions and the players `PlayerManager` knows. -/
inductive FieldAction (K : Type) where
  | addPlayer (pid : EntityId) (p : Player K)
  | removePlayer (pid : EntityId)
  | moveInput (session : Option EntityId) (entityId : EntityId) (dir : Option (Vec2 K))
  | skill (session : Option EntityId) (targetId : EntityId)
  | updateWorld (policy : List K → Fin 5 → K) (dt : K)
  | setSession (pid : EntityId) (online : Bool)
  | setRegistered (pid : EntityId) (registered : Bool)

namespace FieldWorker

def step (cfg : FieldConfig K) (fw : FieldWorker K) : FieldAction K → FieldWorker K
  | .addPlayer pid p => fw.addPlayer cfg pid p
  | .removePlayer pid => fw.removePlayer cfg pid
  | .moveInput session entityId dir => fw.onClientMoveInput session entityId dir
  | .skill session targetId => fw.handleSkill cfg session targetId
  | .updateWorld policy dt => fw.updateWorld cfg policy dt
  | .setSession pid online =>
    { fw with
      sessions := Function.update fw.sessions pid online
      log := fw.log ++ [.sessionChanged pid] }
  | .setRegistered pid registered =>
    { fw with registered := Function.update fw.registered pid registered }

def monsterIds (fw : FieldWorker K) : List EntityId := fw.monsterWorld.monsters.map Monster.id

end FieldWorker

/-- Players and monsters have different ids: a monster is never added or
removed as a player. -/
def FieldAction.Sane (fw : FieldWorker K) : FieldAction K → Prop
  | .addPlayer pid _ => pid ∉ fw.monsterIds
  | .removePlayer pid => pid ∉ fw.monsterIds
  | _ => True

instance (fw : FieldWorker K) : (a : FieldAction K) → Decidable (a.Sane fw)
  | .addPlayer pid _ => inferInstanceAs (Decidable (pid ∉ fw.monsterIds))
  | .removePlayer pid => inferInstanceAs (Decidable (pid ∉ fw.monsterIds))
  | .moveInput _ _ _ => isTrue trivial
  | .skill _ _ => isTrue trivial
  | .updateWorld _ _ => isTrue trivial
  | .setSession _ _ => isTrue trivial
  | .setRegistered _ _ => isTrue trivial

/-- A field worker from its construction on, with any monsters of
different ids. -/
def fieldSystem (cfg : FieldConfig K) (redisRtWriter : Bool) :
    System (FieldWorker K) (FieldAction K) where
  init fw := ∃ player spawns, (spawns.map FieldWorker.MonsterSpawn.id).Nodup ∧
    fw = FieldWorker.construct cfg player redisRtWriter spawns
  step fw a fw' := a.Sane fw ∧ fw' = fw.step cfg a

end MmorpgServer.Worker
