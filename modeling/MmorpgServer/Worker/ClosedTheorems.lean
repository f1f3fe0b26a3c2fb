/-
MmorpgServer.Worker.ClosedTheorems — a field worker computes with what it
is given.

For any set `P` of scalars that arithmetic does not leave: as long as
players come into the field in `P` and the directions their clients send
are in `P`, every position and direction of a player, every position in
the index and every snapshot written for Redis is in `P` (`step_in`).
-/
import MmorpgServer.Field.MonsterClosedTheorems
import MmorpgServer.Worker.MotionTheorems

namespace MmorpgServer.Worker

open MmorpgServer.Lib MmorpgServer.Field MmorpgServer.Storage Scalar

variable {K : Type} {P : K → Prop}

/-! ## In `P` -/

structure Vec2.In (P : K → Prop) (v : Vec2 K) : Prop where
  x : P v.x
  y : P v.y

/-- Where a player is and how it moves. -/
structure Motion.In (P : K → Prop) (m : Motion K) : Prop where
  pos : m.pos.In P
  dir : m.moveState.dir.In P
  speed : P m.moveState.speed

/-- What a field worker has and has written. -/
structure FieldWorker.In (P : K → Prop) (fw : FieldWorker K) : Prop where
  players : ∀ pid ∈ fw.players, (fw.player pid).motion.In P
  entities : fw.aoiSystem.aoi.AllAt (Vec2.In P)
  monsters : ∀ m ∈ fw.monsterWorld.monsters, m.In P
  written : ∀ snap, Effect.redisRtWrite snap ∈ fw.log → P snap.x ∧ P snap.z

/-- What a field worker is given: the players that enter, and the
directions it takes from clients. -/
def FieldAction.In (P : K → Prop) (fw : FieldWorker K) : FieldAction K → Prop
  | .addPlayer _ p => p.motion.In P
  | .moveInput session entityId dir =>
    ∀ d, fw.motions.accepted session entityId dir = some d → d.In P
  | _ => True

/-! ## One player -/

section

variable [Scalar K] (hP : Closed P)

include hP

theorem Motion.halt_in {m : Motion K} (h : m.In P) : m.halt.In P :=
  ⟨h.pos, ⟨hP.lit 0, hP.lit 0⟩, hP.lit 0⟩

theorem Motion.advance_in {step : K} (hstep : P step) {m : Motion K} (h : m.In P) :
    (m.advance step).In P :=
  ⟨⟨hP.along h.pos.x h.dir.x h.speed hstep, hP.along h.pos.y h.dir.y h.speed hstep⟩, h.dir, h.speed⟩

/-- A direction that is long enough, divided by its length. -/
theorem Vec2.unit_in {d : Vec2 K} (hd : d.In P) (hlen : ¬ d.x * d.x + d.y * d.y < lit 0.0001) :
    Vec2.In P ⟨d.x * (lit 1 / sqrt (d.x * d.x + d.y * d.y)),
      d.y * (lit 1 / sqrt (d.x * d.x + d.y * d.y))⟩ := by
  have hinv := hP.invRoot _ 0.0001 (hP.sq_add_sq hd.x hd.y) (by norm_num) (.inr hlen)
  exact ⟨hP.mul _ _ hd.x hinv, hP.mul _ _ hd.y hinv⟩

end

namespace FieldWorker

/-! ## Telling and the index -/

section

variable {fw : FieldWorker K}

theorem In.emit (h : fw.In P) {es : List (Effect K)}
    (hes : ∀ snap, Effect.redisRtWrite snap ∈ es → P snap.x ∧ P snap.z) : (fw.emit es).In P := by
  refine ⟨h.players, h.entities, h.monsters, fun snap hsnap => ?_⟩
  rcases List.mem_append.mp hsnap with hsnap | hsnap
  · exact h.written snap hsnap
  · exact hes snap hsnap

theorem In.sendTo (h : fw.In P) (w : EntityId) (packet : Packet K) : (fw.sendTo w packet).In P := by
  rw [sendTo_eq]
  refine h.emit fun snap hsnap => ?_
  split at hsnap <;> simp at hsnap

theorem In.broadcast (h : fw.In P) (id : EntityId) (packet : Packet K) :
    (fw.broadcast id packet).In P := by
  rw [broadcast_eq]
  exact h.emit (by simp)

theorem In.aoiCall (h : fw.In P) {r : FieldAoiSystem (Vec2 K) × List (Delivery (Vec2 K))}
    (hr : r.1.aoi.AllAt (Vec2.In P)) : (fw.aoiCall r).In P := by
  refine ⟨h.players, hr, h.monsters, fun snap hsnap => ?_⟩
  rcases List.mem_append.mp hsnap with hsnap | hsnap
  · exact h.written snap hsnap
  · obtain ⟨d, -, hd⟩ := List.mem_flatMap.mp hsnap
    unfold aoiSend at hd
    split at hd <;> simp at hd

theorem In.setPlayer (h : fw.In P) {pid : EntityId} {p : Player K}
    (hp : pid ∈ fw.players → p.motion.In P) : (fw.setPlayer pid p).In P := by
  refine ⟨fun i hi => ?_, h.entities, h.monsters, h.written⟩
  show (Function.update fw.player pid p i).motion.In P
  by_cases hip : i = pid
  · subst hip
    rw [Function.update_self]
    exact hp hi
  · rw [Function.update_of_ne hip]
    exact h.players i hi

theorem In.setPlayer_of_eq (h : fw.In P) {pid : EntityId} {p : Player K}
    (hpos : p.pos = (fw.player pid).pos) (hmove : p.moveState = (fw.player pid).moveState) :
    (fw.setPlayer pid p).In P := by
  refine h.setPlayer fun hin => ?_
  have hsame : p.motion = (fw.player pid).motion := by rw [Player.motion, hpos, hmove]; rfl
  rw [hsame]
  exact h.players pid hin

/-- A mark of the worker's own, for a player of the field. -/
theorem In.mark (h : fw.In P) (source : DirtySource) {pid : EntityId} (hpid : pid ∈ fw.players) :
    (((fw.writePlayerRtEnqueue pid).markDirty source pid).setLastDirtyMarkTime pid).In P := by
  have hpos := (h.players pid hpid).pos
  have hwrite : (fw.writePlayerRtEnqueue pid).In P := by
    unfold writePlayerRtEnqueue
    split
    · refine h.emit fun snap hsnap => ?_
      rw [List.mem_singleton, Effect.redisRtWrite.injEq] at hsnap
      rw [hsnap]
      exact ⟨hpos.x, hpos.y⟩
    · exact h
  have hmark : ((fw.writePlayerRtEnqueue pid).markDirty source pid).In P := hwrite.emit (by simp)
  exact hmark.setPlayer_of_eq rfl rfl

end

variable [Scalar K] {cfg : FieldConfig K} {fw : FieldWorker K}

theorem In.aoiAdd (h : fw.In P) (id : EntityId) (isPlayer : Bool) {pos : Vec2 K}
    (hpos : pos.In P) : (fw.aoiAdd cfg id isPlayer pos).In P := by
  refine h.aoiCall ?_
  rw [FieldAoiSystem.addEntity, FieldAoiSystem.handle_aoi]
  exact h.entities.addEntity cfg.aoi id isPlayer hpos

theorem In.aoiRemove (h : fw.In P) (id : EntityId) : (fw.aoiRemove cfg id).In P := by
  refine h.aoiCall ?_
  rw [FieldAoiSystem.removeEntity, FieldAoiSystem.handle_aoi]
  exact h.entities.removeEntity cfg.aoi id

theorem In.aoiMove (h : fw.In P) (id : EntityId) {pos : Vec2 K} (hpos : pos.In P) :
    (fw.aoiMove cfg id pos).In P := by
  refine h.aoiCall ?_
  rw [FieldAoiSystem.moveEntity, FieldAoiSystem.handle_aoi]
  exact h.entities.moveEntity cfg.aoi id hpos

/-- The callbacks of the environment. -/
theorem env_confined (cfg : FieldConfig K) : (env cfg).Confined P (In P) where
  toQuiet := by
    refine env_quiet cfg (fun fw w packet _ h => h.emit (by simp)) ?_ ?_
    · exact fun fw pid p hpos hmove h => h.setPlayer_of_eq hpos hmove
    · exact fun fw pid h => h.emit (by simp)
  getPlayerPosition fw pid pos h hpos := by
    change (if pid ∈ fw.players then _ else _) = some pos at hpos
    split at hpos
    · rename_i hpid
      cases hpos
      have hin := (h.players pid hpid).pos
      exact ⟨hin.x, hin.y⟩
    · cases hpos
  moveInAoi _ mid _ _ hx hy h := h.aoiMove mid ⟨hx, hy⟩
  spawnInAoi _ mid _ _ hx hy h := (h.aoiRemove mid).aoiAdd mid false ⟨hx, hy⟩
  removeFromAoi _ mid h := h.aoiRemove mid

/-! ## What a field worker is asked to do -/

theorem In.spawn (h : fw.In P) (hP : Closed P) {sp : MonsterSpawn K} (hx : P sp.x) (hy : P sp.y) :
    (fw.spawn cfg sp).In P := by
  have hcreated : FieldWorker.In P { fw with
      monsterWorld := fw.monsterWorld.createMonster sp.id sp.x sp.y sp.prefabName sp.monsterType
        sp.maxHp sp.hp sp.maxSp sp.sp sp.atk sp.def } := by
    refine ⟨h.players, h.entities, fun m hm => ?_, h.written⟩
    rcases List.mem_append.mp hm with hm | hm
    · exact h.monsters m hm
    · rw [List.mem_singleton] at hm
      rw [hm]
      exact ⟨hx, hy, hx, hy, hP.lit 0, hP.lit 0, hP.lit 0⟩
  exact hcreated.aoiAdd sp.id false ⟨hx, hy⟩

theorem construct_in (hP : Closed P) (cfg : FieldConfig K) (player : EntityId → Player K)
    (redisRtWriter : Bool) {spawns : List (MonsterSpawn K)}
    (hspawns : ∀ sp ∈ spawns, P sp.x ∧ P sp.y) :
    (construct cfg player redisRtWriter spawns).In P := by
  have hstart : FieldWorker.In P {
      player, redisRtWriter, worldTime := lit 0, playerAcc := lit 0, monsterAcc := lit 0
      aoiSystem := ({} : FieldAoiSystem (Vec2 K)).setSendFunc } :=
    ⟨by simp, fun _ _ he => (by cases he), by simp, by simp⟩
  have hspawned := List.foldlRecOn (motive := In P) spawns (FieldWorker.spawn cfg) hstart
    fun _ h sp hsp => h.spawn hP (hspawns sp hsp).1 (hspawns sp hsp).2
  exact ⟨hspawned.players, hspawned.entities, hspawned.monsters, hspawned.written⟩

theorem In.onPlayerEnterField (h : fw.In P) {pid : EntityId} (hpid : pid ∈ fw.players) :
    (fw.onPlayerEnterField cfg pid).In P := by
  have hpos := (h.players pid hpid).pos
  have hsend : ∀ (fw : FieldWorker K) (w i : EntityId) (isMonster : Bool) (pos : Vec2 K),
      fw.In P → (fw.sendFieldEnter w i isMonster pos).In P :=
    fun fw w i isMonster pos h => h.sendTo w _
  unfold FieldWorker.onPlayerEnterField
  refine List.foldlRecOn (motive := In P) _ _ ?_ fun fw h _ _ => hsend fw _ _ _ _ h
  refine List.foldlRecOn (motive := In P) _ _ ?_ fun fw h _ _ => hsend fw _ _ _ _ h
  refine List.foldlRecOn (motive := In P) _ _ ?_ fun fw h _ _ => hsend fw _ _ _ _ h
  exact hsend _ _ _ _ _ (h.aoiAdd pid true hpos)

theorem In.addPlayer (h : fw.In P) (pid : EntityId) {p : Player K} (hp : p.motion.In P) :
    (fw.addPlayer cfg pid p).In P := by
  have hentered : FieldWorker.In P { fw with
      players := insert pid fw.players
      playersChanges := fw.playersChanges + 1
      player := Function.update fw.player pid p
      log := fw.log ++ [Effect.playerAdded pid (fw.sessions pid)] } := by
    refine ⟨fun i hi => ?_, h.entities, h.monsters, fun snap hsnap => ?_⟩
    · show (Function.update fw.player pid p i).motion.In P
      by_cases hip : i = pid
      · subst hip
        rw [Function.update_self]
        exact hp
      · rw [Function.update_of_ne hip]
        exact h.players i (Finset.mem_of_mem_insert_of_ne hi hip)
    · exact h.written snap (by simpa using hsnap)
  exact hentered.onPlayerEnterField (Finset.mem_insert_self pid fw.players)

theorem In.removePlayer (h : fw.In P) (pid : EntityId) : (fw.removePlayer cfg pid).In P := by
  have hremoved : (fw.aoiRemove cfg pid).In P := h.aoiRemove pid
  exact ⟨fun i hi => hremoved.players i (Finset.mem_of_mem_erase hi), hremoved.entities,
    hremoved.monsters, hremoved.written⟩

theorem In.handleSkill (h : fw.In P) (session : Option EntityId) (targetId : EntityId) :
    (fw.handleSkill cfg session targetId).In P := by
  cases session with
  | none => exact h
  | some pid =>
    have hcast : (fw.broadcastPlayerState pid .attack).In P := h.broadcast _ _
    obtain ⟨hattack, hmonsters⟩ := MonsterWorld.playerAttackMonster_in (env_confined cfg) targetId
      hcast.monsters hcast
    have hafter : FieldWorker.In P
        { (MonsterWorld.playerAttackMonster (env cfg) targetId
            (fw.broadcastPlayerState pid .attack).monsterWorld.monsters
            (fw.broadcastPlayerState pid .attack)).2.1 with
          monsterWorld := ⟨(MonsterWorld.playerAttackMonster (env cfg) targetId
            (fw.broadcastPlayerState pid .attack).monsterWorld.monsters
            (fw.broadcastPlayerState pid .attack)).1⟩ } :=
      ⟨hattack.players, hattack.entities, hmonsters, hattack.written⟩
    exact iteInduction (motive := In P) (fun _ => hafter.broadcast _ _) fun _ => hafter

variable (hP : Closed P)

include hP

theorem In.onClientMoveInput (h : fw.In P) (session : Option EntityId) (entityId : EntityId)
    (dir : Option (Vec2 K))
    (hdir : ∀ d, fw.motions.accepted session entityId dir = some d → d.In P) :
    (fw.onClientMoveInput session entityId dir).In P := by
  refine iteInduction (motive := In P) (fun _ => h) fun hsession => ?_
  refine iteInduction (motive := In P) (fun _ => h) fun hin => ?_
  rw [not_not] at hsession hin
  cases dir with
  | none => exact h
  | some d =>
    have hd := hdir d (if_pos ⟨hsession, hin⟩)
    have hmotion := h.players entityId hin
    refine iteInduction (motive := In P) (fun _ => ?_) fun hlen => ?_
    · refine iteInduction (motive := In P) (fun _ => ?_) fun _ => ?_
      · exact h.setPlayer fun _ => ⟨hmotion.pos, hmotion.dir, hmotion.speed⟩
      · refine In.broadcast (h.setPlayer fun _ => ?_) _ _
        exact ⟨hmotion.pos, ⟨hP.lit 0, hP.lit 0⟩, hP.lit 0⟩
    · refine iteInduction (motive := In P) (fun _ => ?_) fun _ => ?_
      · exact h.setPlayer fun _ => ⟨hmotion.pos, Vec2.unit_in hP hd hlen, hP.lit 4.5⟩
      · refine In.broadcast (h.setPlayer fun _ => ?_) _ _
        exact ⟨hmotion.pos, Vec2.unit_in hP hd hlen, hP.lit 4.5⟩

/-- A pass of the loop of `tick_players`. -/
theorem In.tickPlayer (h : fw.In P) {step : K} (hstep : P step) {pid : EntityId}
    (hpid : pid ∈ fw.players) : (fw.tickPlayer cfg step pid).In P := by
  have hmotion := h.players pid hpid
  refine iteInduction (motive := In P) (fun _ => ?_) fun _ => ?_
  · have hset : (fw.setPlayer pid { fw.player pid with
        moveState := (fw.player pid).motion.halt.moveState }).In P :=
      h.setPlayer fun _ => Motion.halt_in hP hmotion
    have hcast := hset.broadcast pid (.aiStateEvent .player pid (toFbState .idle))
    refine hcast.mark .state ?_
    rw [← motions_players, motions_broadcast]
    exact hpid
  refine iteInduction (motive := In P) (fun _ => h) fun _ => ?_
  have hmoved := Motion.advance_in hP hstep hmotion
  have hset : (fw.setPlayer pid { fw.player pid with
      pos := ((fw.player pid).motion.advance step).pos }).In P := h.setPlayer fun _ => hmoved
  have haoi : FieldWorker.In P
      (FieldWorker.aoiMove cfg _ pid ((fw.player pid).motion.advance step).pos) :=
    hset.aoiMove pid hmoved.pos
  -- the position is marked if it is far and the last mark is old enough
  refine iteInduction (motive := In P) (fun _ => haoi) fun _ => ?_
  exact iteInduction (motive := In P) (fun _ => haoi) fun _ => haoi.mark .pos hpid

theorem In.tickPlayers (h : fw.In P) {step : K} (hstep : P step) :
    (fw.tickPlayers cfg step).In P := by
  have hloop : (fw.tickPlayers cfg step).In P ∧
      (fw.tickPlayers cfg step).players = fw.players := by
    refine List.foldlRecOn (motive := fun fw' : FieldWorker K =>
      fw'.In P ∧ fw'.players = fw.players) _ _ ⟨h, rfl⟩ fun fw' h' pid hpid => ?_
    have hin : pid ∈ fw.players := ((cfg.playerOrder fw.playersChanges).mem_iff _ _).mp hpid
    have hplayers : (fw'.tickPlayer cfg step pid).players = fw'.players :=
      congrArg Motions.players (motions_tickPlayer cfg step fw' pid)
    exact ⟨h'.1.tickPlayer hP hstep (h'.2 ▸ hin), hplayers.trans h'.2⟩
  exact hloop.1

theorem In.tickMonsters (h : fw.In P) (policy : List K → Fin 5 → K) {step : K} (hstep : P step) :
    (fw.tickMonsters cfg policy step).In P := by
  obtain ⟨hworld, hmonsters⟩ := MonsterWorld.update_in hP (env_confined cfg) policy hstep
    h.monsters h
  exact ⟨hworld.players, hworld.entities, hmonsters, hworld.written⟩

theorem In.updateWorld (h : fw.In P) (policy : List K → Fin 5 → K) (dt : K) :
    (fw.updateWorld cfg policy dt).In P := by
  refine updateWorld_keeps (I := In P) policy ?_ ?_ ?_ dt h
  · exact fun fw _ _ _ h => ⟨h.players, h.entities, h.monsters, h.written⟩
  · exact fun fw h => h.tickPlayers hP (hP.lit 0.05)
  · exact fun fw h => h.tickMonsters hP policy (hP.lit 0.1)

/-- **A field worker stays in `P`** with what it is given. -/
theorem In.step (h : fw.In P) {a : FieldAction K} (ha : a.In P fw) : (fw.step cfg a).In P := by
  cases a with
  | addPlayer pid p => exact h.addPlayer pid ha
  | removePlayer pid => exact h.removePlayer pid
  | moveInput session entityId dir => exact h.onClientMoveInput hP session entityId dir ha
  | skill session targetId => exact h.handleSkill session targetId
  | updateWorld policy dt => exact h.updateWorld hP policy dt
  | setSession pid online =>
    have htold : (fw.emit [.sessionChanged pid]).In P := h.emit (by simp)
    exact ⟨htold.players, htold.entities, htold.monsters, htold.written⟩
  | setRegistered pid registered => exact ⟨h.players, h.entities, h.monsters, h.written⟩

end FieldWorker

end MmorpgServer.Worker
