/-
MmorpgServer.Worker.FieldWorkerTheorems — what each callback and helper
of the field worker changes.

Most of them only tell something: they are `emit`. The index changes
through `aoiCall` alone, and `env_places` is what the callbacks do to it.
`ticksOf` is where the monster ticks of a step begin;
`updateWorld_keeps_of_ticks` is the rule for what each of them keeps.
-/
import MmorpgServer.Field.AoiReplica
import MmorpgServer.Field.FieldAoiSystemTheorems
import MmorpgServer.Field.MonsterTheorems
import MmorpgServer.Worker.FieldWorker

namespace MmorpgServer.Worker

open MmorpgServer.Lib MmorpgServer.Field MmorpgServer.Storage Scalar

variable {K : Type} [Scalar K]

namespace FieldWorker

/-! ## Telling -/

section

omit [Scalar K]

variable (fw : FieldWorker K) (es es' : List (Effect K)) (id : EntityId)

@[simp] theorem emit_aoiSystem : (fw.emit es).aoiSystem = fw.aoiSystem := rfl
@[simp] theorem emit_sessions : (fw.emit es).sessions = fw.sessions := rfl
@[simp] theorem emit_log : (fw.emit es).log = fw.log ++ es := rfl

@[simp] theorem emit_nil : fw.emit [] = fw := by
  simp only [emit, List.append_nil]

@[simp] theorem emit_emit : (fw.emit es).emit es' = fw.emit (es ++ es') := by
  simp only [emit, List.append_assoc]

/-- Sending is telling, if there is a session. -/
theorem sendTo_eq (playerId : EntityId) (packet : Packet K) :
    fw.sendTo playerId packet =
      fw.emit (if fw.sessions playerId then [.send playerId packet] else []) := by
  unfold sendTo
  split
  · rfl
  · rw [emit_nil]

/-- A loop of sends tells one packet for each receiver with a session. -/
theorem foldl_sendTo {ι : Type} (receiver : ι → EntityId) (packet : FieldWorker K → ι → Packet K)
    (hpacket : ∀ fw es i, packet (emit fw es) i = packet fw i) (l : List ι) :
    l.foldl (fun fw i => fw.sendTo (receiver i) (packet fw i)) fw =
      fw.emit ((l.filter fun i => fw.sessions (receiver i)).map fun i =>
        .send (receiver i) (packet fw i)) := by
  induction l generalizing fw with
  | nil => simp
  | cons i l ih =>
    rw [List.foldl_cons, ih, sendTo_eq]
    by_cases hi : fw.sessions (receiver i) = true <;> simp [hi, hpacket]

theorem broadcast_eq (packet : Packet K) :
    fw.broadcast id packet = fw.emit
      (((fw.aoiSystem.forEachWatcher id).filter fw.sessions).map fun w => .send w packet) :=
  foldl_sendTo fw (fun w => w) (fun _ _ => packet) (fun _ _ _ => rfl) _

end

/-! ## The index -/

section

omit [Scalar K]

variable (fw : FieldWorker K)
  (r : FieldAoiSystem (Vec2 K) × List (Delivery (Vec2 K)))

@[simp] theorem aoiCall_aoiSystem : (fw.aoiCall r).aoiSystem = r.1 := rfl

end

@[simp] theorem aoiAdd_aoi (cfg : FieldConfig K) (fw : FieldWorker K) (id : EntityId)
    (isPlayer : Bool) (pos : Vec2 K) : (fw.aoiAdd cfg id isPlayer pos).aoiSystem.aoi =
      (fw.aoiSystem.aoi.addEntity cfg.aoi id isPlayer pos).1 :=
  FieldAoiSystem.handle_aoi _ _

@[simp] theorem aoiRemove_aoi (cfg : FieldConfig K) (fw : FieldWorker K) (id : EntityId) :
    (fw.aoiRemove cfg id).aoiSystem.aoi = (fw.aoiSystem.aoi.removeEntity cfg.aoi id).1 :=
  FieldAoiSystem.handle_aoi _ _

@[simp] theorem aoiMove_aoi (cfg : FieldConfig K) (fw : FieldWorker K) (id : EntityId)
    (pos : Vec2 K) : (fw.aoiMove cfg id pos).aoiSystem.aoi =
      (fw.aoiSystem.aoi.moveEntity cfg.aoi id pos).1 :=
  FieldAoiSystem.handle_aoi _ _

/-- What a call of the index tells, in a field that is initialised. -/
theorem aoiAdd_snd (cfg : FieldConfig K) (fw : FieldWorker K) (id : EntityId) (isPlayer : Bool)
    (pos : Vec2 K) : (fw.aoiSystem.addEntity cfg.aoi id isPlayer pos).2 =
      if fw.aoiSystem.initialized && fw.aoiSystem.sendFunc then
        (fw.aoiSystem.aoi.addEntity cfg.aoi id isPlayer pos).2 else [] :=
  FieldAoiSystem.handle_snd _ _

/-! ## Places -/

/-- Where an index has its entities. -/
def aoiPlace (w : AoiWorld (Vec2 K)) (id : EntityId) : Option (CTransform K) :=
  (w.entities id).map fun e => ⟨e.pos.x, e.pos.y⟩

theorem aoiPlace_addEntity (cfg : FieldConfig K) (w : AoiWorld (Vec2 K)) (id : EntityId)
    (isPlayer : Bool) (x y : K) : aoiPlace (w.addEntity cfg.aoi id isPlayer ⟨x, y⟩).1 =
      Function.update (aoiPlace w) id (some ⟨x, y⟩) := by
  obtain ⟨e, hent, -, hpos, -⟩ := AoiWorld.addEntity_entities cfg.aoi w id isPlayer ⟨x, y⟩
  funext i
  by_cases hi : i = id
  · subst hi
    simp [aoiPlace, hent, hpos]
  · simp [aoiPlace, hent, hi]

theorem aoiPlace_removeEntity (cfg : FieldConfig K) (w : AoiWorld (Vec2 K)) (id : EntityId) :
    aoiPlace (w.removeEntity cfg.aoi id).1 = Function.update (aoiPlace w) id none := by
  funext i
  cases he : w.entities id with
  | none =>
    rw [AoiWorld.removeEntity_of_none he]
    by_cases hi : i = id
    · subst hi
      simp [aoiPlace, he]
    · simp [hi]
  | some e =>
    by_cases hi : i = id
    · subst hi
      simp [aoiPlace, AoiWorld.removeEntity_entities he]
    · simp [aoiPlace, AoiWorld.removeEntity_entities he, hi]

theorem aoiPlace_moveEntity (cfg : FieldConfig K) {w : AoiWorld (Vec2 K)} (hw : w.Inv cfg.aoi)
    (id : EntityId) (x y : K) : aoiPlace (w.moveEntity cfg.aoi id ⟨x, y⟩).1 =
      if (aoiPlace w id).isSome then Function.update (aoiPlace w) id (some ⟨x, y⟩)
      else aoiPlace w := by
  cases he : w.entities id with
  | none =>
    rw [AoiWorld.moveEntity_of_none he]
    simp [aoiPlace, he]
  | some e₀ =>
    obtain ⟨e, hent, -, hpos, -⟩ := AoiWorld.resubscribed_entities hw he ⟨x, y⟩
    rw [AoiWorld.moveEntity_fst he, if_pos (by simp [aoiPlace, he])]
    funext i
    by_cases hi : i = id
    · subst hi
      simp [aoiPlace, hent, hpos]
    · simp [aoiPlace, hent, hi]

/-! ## Construction -/

/-- A field worker starts with an empty log and no players. -/
theorem construct_start (cfg : FieldConfig K) (player : EntityId → Player K)
    (redisRtWriter : Bool) (spawns : List (MonsterSpawn K)) :
    (construct cfg player redisRtWriter spawns).log = [] ∧
    (construct cfg player redisRtWriter spawns).players = ∅ ∧
    (construct cfg player redisRtWriter spawns).redisRtWriter = redisRtWriter := by
  have key : ∀ fw : FieldWorker K, fw.aoiSystem.initialized = false →
      (spawns.foldl (spawn cfg) fw).log = fw.log ∧
      (spawns.foldl (spawn cfg) fw).players = fw.players ∧
      (spawns.foldl (spawn cfg) fw).redisRtWriter = fw.redisRtWriter := by
    induction spawns with
    | nil => exact fun fw _ => ⟨rfl, rfl, rfl⟩
    | cons sp spawns ih =>
      intro fw hinit
      have hquiet : (fw.aoiSystem.addEntity cfg.aoi sp.id false ⟨sp.x, sp.y⟩).2 = [] := by
        rw [aoiAdd_snd, hinit]
        rfl
      have hlog : (fw.spawn cfg sp).log = fw.log := by
        simp [spawn, aoiAdd, aoiCall, hquiet]
      obtain ⟨h₁, h₂, h₃⟩ := ih (fw.spawn cfg sp)
        ((FieldAoiSystem.handle_flags _ _).1.trans hinit)
      exact ⟨h₁.trans hlog, h₂, h₃⟩
  exact key _ rfl

theorem spawn_monsterIds (cfg : FieldConfig K) (fw : FieldWorker K) (sp : MonsterSpawn K) :
    (fw.spawn cfg sp).monsterIds = fw.monsterIds ++ [sp.id] := by
  simp [monsterIds, spawn, aoiAdd, aoiCall, MonsterWorld.createMonster]

/-- **Rule for the spawn loop**: what one spawn of a new id keeps, a list
of spawns with different ids keeps. -/
theorem foldl_spawn (cfg : FieldConfig K) {I : FieldWorker K → Prop}
    {spawns : List (MonsterSpawn K)}
    (hspawn : ∀ fw, ∀ sp ∈ spawns, sp.id ∉ fw.monsterIds → I fw → I (fw.spawn cfg sp))
    {fw : FieldWorker K} (h : I fw) (hnd : (fw.monsterIds ++ spawns.map MonsterSpawn.id).Nodup) :
    I (spawns.foldl (spawn cfg) fw) := by
  induction spawns generalizing fw with
  | nil => exact h
  | cons sp spawns ih =>
    have hnew : sp.id ∉ fw.monsterIds := by
      intro hmem
      rw [List.nodup_append] at hnd
      exact hnd.2.2 _ hmem _ (by simp) rfl
    refine ih (fun fw sp' hsp' => hspawn fw sp' (List.mem_cons_of_mem _ hsp'))
      (hspawn fw sp List.mem_cons_self hnew h) ?_
    rw [spawn_monsterIds]
    simpa using hnd

/-- The index is consistent, has nothing but monsters and tells its
changes. -/
structure Spawned (cfg : FieldConfig K) (fw : FieldWorker K) : Prop where
  inv : fw.aoiSystem.aoi.Inv cfg.aoi
  only : ∀ i, aoiPlace fw.aoiSystem.aoi i ≠ none → i ∈ fw.monsterIds
  sendCb : fw.aoiSystem.aoi.sendCb = true
  sendFunc : fw.aoiSystem.sendFunc = true

theorem spawn_place (cfg : FieldConfig K) (fw : FieldWorker K) (sp : MonsterSpawn K) :
    aoiPlace (fw.spawn cfg sp).aoiSystem.aoi =
      Function.update (aoiPlace fw.aoiSystem.aoi) sp.id (some ⟨sp.x, sp.y⟩) := by
  show aoiPlace (aoiAdd cfg _ sp.id false ⟨sp.x, sp.y⟩).aoiSystem.aoi = _
  rw [aoiAdd_aoi, aoiPlace_addEntity]

theorem spawn_spawned (cfg : FieldConfig K) {fw : FieldWorker K} (h : fw.Spawned cfg)
    {sp : MonsterSpawn K} (hnew : sp.id ∉ fw.monsterIds) : (fw.spawn cfg sp).Spawned cfg := by
  have haoi : (fw.spawn cfg sp).aoiSystem.aoi =
      (fw.aoiSystem.aoi.addEntity cfg.aoi sp.id false ⟨sp.x, sp.y⟩).1 := aoiAdd_aoi cfg _ _ _ _
  refine ⟨?_, ?_, ?_, ?_⟩
  · rw [haoi]
    refine AoiWorld.addEntity_inv h.inv fun e he => absurd (h.only sp.id ?_) hnew
    simp [aoiPlace, he]
  · intro i hi
    rw [spawn_monsterIds]
    by_cases hie : i = sp.id
    · simp [hie]
    · rw [spawn_place, Function.update_of_ne hie] at hi
      exact List.mem_append_left _ (h.only i hi)
  · rw [haoi, AoiWorld.addEntity_sendCb]
    exact h.sendCb
  · exact (FieldAoiSystem.handle_flags _ _).2.trans h.sendFunc

theorem start_spawned (cfg : FieldConfig K) (player : EntityId → Player K)
    (redisRtWriter : Bool) (worldTime playerAcc monsterAcc : K) :
    ({ player, redisRtWriter, worldTime, playerAcc, monsterAcc
       aoiSystem := ({} : FieldAoiSystem (Vec2 K)).setSendFunc } : FieldWorker K).Spawned cfg :=
  ⟨AoiWorld.inv_empty cfg.aoi true, by simp [aoiPlace, FieldAoiSystem.setSendFunc,
    AoiWorld.setSendCallback], rfl, rfl⟩

/-- A constructed field worker tells the changes of a consistent index. -/
theorem construct_spawned (cfg : FieldConfig K) (player : EntityId → Player K)
    (redisRtWriter : Bool) {spawns : List (MonsterSpawn K)}
    (hnd : (spawns.map MonsterSpawn.id).Nodup) :
    (construct cfg player redisRtWriter spawns).Spawned cfg := by
  have h := foldl_spawn cfg (I := Spawned cfg)
    (fun fw sp _ hnew h => spawn_spawned cfg h hnew)
    (start_spawned cfg player redisRtWriter (lit 0) (lit 0) (lit 0)) hnd
  exact ⟨h.inv, h.only, h.sendCb, h.sendFunc⟩

/-! ## The environment -/

section

variable (cfg : FieldConfig K)

/-- The callbacks of the environment that leave the index alone keep what
is kept by telling anything but a `FieldCmd` or a mark of the player's
own, by changing a `Player` that stays where it is and moves as it does,
and by a mark from combat. -/
theorem env_quiet {I : FieldWorker K → Prop}
    (hsend : ∀ fw w packet, (∀ type et id pos name, packet ≠ .fieldCmd type et id pos name) →
      I fw → I (fw.emit [.send w packet]))
    (hplayer : ∀ fw pid p, p.pos = (fw.player pid).pos →
      p.moveState = (fw.player pid).moveState → I fw → I (fw.setPlayer pid p))
    (hmark : ∀ fw pid, I fw → I (fw.markDirty .combat pid)) : (env cfg).Quiet I := by
  have hsends : ∀ (L : List EntityId) fw packet,
      (∀ type et id pos name, packet ≠ .fieldCmd type et id pos name) → I fw →
      I (fw.emit (L.map fun w => .send w packet)) := by
    intro L
    induction L with
    | nil => intro fw packet _ h; simpa using h
    | cons w L ih =>
      intro fw packet hp h
      have := ih _ packet hp (hsend fw w packet hp h)
      simpa using this
  have hbroadcast : ∀ fw id packet,
      (∀ type et id pos name, packet ≠ .fieldCmd type et id pos name) → I fw →
      I (fw.broadcast id packet) := by
    intro fw id packet hp h
    rw [broadcast_eq]
    exact hsends _ fw packet hp h
  refine ⟨?_, ?_, ?_, ?_, ?_, ?_, ?_⟩
  · intro fw mid pid dmg _ h
    refine iteInduction (motive := I) (fun _ => ?_) fun _ => h
    rw [sendTo_eq]
    split
    · exact hsend _ _ _ (by simp) h
    · simpa using h
  · exact fun fw _ _ h => hbroadcast fw _ _ (by simp) h
  · exact fun fw _ _ h => hbroadcast fw _ _ (by simp) h
  · exact fun fw _ _ _ _ _ h => hbroadcast fw _ _ (by simp) h
  · exact fun fw _ _ _ _ _ h => hbroadcast fw _ _ (by simp) h
  · intro fw pid hp sp h
    exact iteInduction (motive := I) (fun _ => hplayer _ _ _ rfl rfl h) fun _ => h
  · intro fw pid h
    refine hmark _ _ ?_
    exact iteInduction (motive := I) (fun _ => hplayer _ _ _ rfl rfl h) fun _ => h

/-- **The environment of a field worker**: the index stays consistent, and
its three callbacks place, move and remove entities as they should. -/
theorem env_places : (env cfg).Places (fun fw => fw.aoiSystem.aoi.Inv cfg.aoi)
    (fun fw => aoiPlace fw.aoiSystem.aoi) where
  toQuiet := env_quiet cfg (fun _ _ _ _ h => h) (fun _ _ _ _ _ h => h) fun _ _ h => h
  moveInAoi fw mid x y _ h := by
    show (fw.aoiMove cfg mid ⟨x, y⟩).aoiSystem.aoi.Inv cfg.aoi
    rw [aoiMove_aoi]
    exact AoiWorld.moveEntity_inv h mid _
  spawnInAoi fw mid x y _ h := by
    show ((fw.aoiRemove cfg mid).aoiAdd cfg mid false ⟨x, y⟩).aoiSystem.aoi.Inv cfg.aoi
    rw [aoiAdd_aoi, aoiRemove_aoi]
    refine AoiWorld.addEntity_inv (AoiWorld.removeEntity_inv h mid) fun e he => ?_
    have hgone := congrFun (aoiPlace_removeEntity cfg fw.aoiSystem.aoi mid) mid
    simp [aoiPlace, he] at hgone
  removeFromAoi fw mid _ h := by
    show (fw.aoiRemove cfg mid).aoiSystem.aoi.Inv cfg.aoi
    rw [aoiRemove_aoi]
    exact AoiWorld.removeEntity_inv h mid
  quiet_place p := env_quiet cfg (fun _ _ _ _ h => h) (fun _ _ _ _ _ h => h) fun _ _ h => h
  moveInAoi_place fw mid x y h := by
    show aoiPlace (fw.aoiMove cfg mid ⟨x, y⟩).aoiSystem.aoi = _
    rw [aoiMove_aoi, aoiPlace_moveEntity cfg h]
  spawnInAoi_place fw mid x y _ := by
    show aoiPlace ((fw.aoiRemove cfg mid).aoiAdd cfg mid false ⟨x, y⟩).aoiSystem.aoi = _
    rw [aoiAdd_aoi, aoiRemove_aoi, aoiPlace_addEntity, aoiPlace_removeEntity, Function.update_idem]
  removeFromAoi_place fw mid _ := by
    show aoiPlace (fw.aoiRemove cfg mid).aoiSystem.aoi = _
    rw [aoiRemove_aoi, aoiPlace_removeEntity]

end

/-! ## Keeping an invariant -/

/-- What the worker does to a player it ticks or hears from keeps `I`. -/
structure Stable (cfg : FieldConfig K) (I : FieldWorker K → Prop) : Prop where
  setPlayer : ∀ fw pid p, I fw → I (fw.setPlayer pid p)
  setClocks : ∀ fw worldTime playerAcc monsterAcc, I fw →
    I { fw with worldTime, playerAcc, monsterAcc }
  broadcastPlayerState : ∀ fw pid st, I fw → I (fw.broadcastPlayerState pid st)
  mark : ∀ fw source pid, I fw →
    I (((fw.writePlayerRtEnqueue pid).markDirty source pid).setLastDirtyMarkTime pid)
  aoiMove : ∀ fw pid pos, I fw → I (fw.aoiMove cfg pid pos)

variable {cfg : FieldConfig K} {I : FieldWorker K → Prop} {fw : FieldWorker K}

theorem Stable.onClientMoveInput (hI : Stable cfg I) (session : Option EntityId)
    (entityId : EntityId) (dir : Option (Vec2 K)) (h : I fw) :
    I (fw.onClientMoveInput session entityId dir) := by
  have hset : ∀ p, I (fw.setPlayer entityId p) := fun p => hI.setPlayer fw entityId p h
  refine iteInduction (motive := I) (fun _ => h) fun _ => ?_
  refine iteInduction (motive := I) (fun _ => h) fun _ => ?_
  cases dir with
  | none => exact h
  | some d =>
    refine iteInduction (motive := I) (fun _ => ?_) fun _ => ?_
    · refine iteInduction (motive := I) (fun _ => hset _) fun _ => ?_
      exact hI.broadcastPlayerState _ _ _ (hset _)
    · refine iteInduction (motive := I) (fun _ => hset _) fun _ => ?_
      exact hI.broadcastPlayerState _ _ _ (hset _)

theorem Stable.tickPlayer (hI : Stable cfg I) (step : K) (pid : EntityId) (h : I fw) :
    I (fw.tickPlayer cfg step pid) := by
  refine iteInduction (motive := I) (fun _ => ?_) fun _ => ?_
  · refine hI.mark _ .state pid (hI.broadcastPlayerState _ pid .idle ?_)
    exact hI.setPlayer _ _ _ h
  · refine iteInduction (motive := I) (fun _ => h) fun _ => ?_
    have hmoved : ∀ p pos, I ((fw.setPlayer pid p).aoiMove cfg pid pos) := fun p pos =>
      hI.aoiMove _ pid pos (hI.setPlayer fw pid p h)
    -- the position is marked if it is far and the last mark is old enough
    refine iteInduction (motive := I) (fun _ => hmoved _ _) fun _ => ?_
    exact iteInduction (motive := I) (fun _ => hmoved _ _) fun _ => hI.mark _ .pos pid (hmoved _ _)

theorem Stable.tickPlayers (hI : Stable cfg I) (step : K) (h : I fw) :
    I (fw.tickPlayers cfg step) := by
  exact List.foldlRecOn _ _ h fun _ h pid _ => hI.tickPlayer step pid h

/-- What setting the clocks and ticking the players keep, the loop over the
ticks of the players keeps. -/
theorem playerLoop_keeps
    (hclocks : ∀ fw worldTime playerAcc monsterAcc, I fw →
      I { fw with worldTime, playerAcc, monsterAcc })
    (hplayers : ∀ fw, I fw → I (fw.tickPlayers cfg playerStep)) (n : Nat) (h : I fw) :
    I (playerLoop cfg n fw) := by
  induction n generalizing fw with
  | zero => exact h
  | succ n ih =>
    exact iteInduction (motive := I) (fun _ => ih (hclocks _ _ _ _ (hplayers fw h))) fun _ => h

/-- The states in which the monster loop of `update_world` calls
`tick_monsters`. -/
def monsterTicks (cfg : FieldConfig K) (policy : List K → Fin 5 → K) :
    Nat → FieldWorker K → List (FieldWorker K)
  | 0, _ => []
  | loops + 1, fw =>
    if monsterStep ≤ fw.monsterAcc then
      let fw' := fw.tickMonsters cfg policy monsterStep
      fw :: monsterTicks cfg policy loops { fw' with monsterAcc := fw'.monsterAcc - monsterStep }
    else []

/-- Where `update_world` comes to the monster loop. -/
def playersTicked (cfg : FieldConfig K) (dt : K) (fw : FieldWorker K) : FieldWorker K :=
  let fw := { fw with worldTime := fw.worldTime + dt, playerAcc := fw.playerAcc + dt }
  let fw := playerLoop cfg 5 fw
  { fw with monsterAcc := fw.monsterAcc + dt }

theorem updateWorld_eq (cfg : FieldConfig K) (policy : List K → Fin 5 → K) (dt : K)
    (fw : FieldWorker K) : fw.updateWorld cfg policy dt =
      if dt ≤ lit 0 then fw else monsterLoop cfg policy 3 (fw.playersTicked cfg dt) := rfl

/-- The states in which a step calls `tick_monsters`. -/
def ticksOf (cfg : FieldConfig K) (fw : FieldWorker K) : FieldAction K → List (FieldWorker K)
  | .updateWorld policy dt =>
    if dt ≤ lit 0 then [] else monsterTicks cfg policy 3 (fw.playersTicked cfg dt)
  | _ => []

/-- What setting the clocks and each tick of the monsters keep, the loop
over these ticks keeps. -/
theorem monsterLoop_keeps (policy : List K → Fin 5 → K)
    (hclocks : ∀ fw worldTime playerAcc monsterAcc, I fw →
      I { fw with worldTime, playerAcc, monsterAcc }) (n : Nat)
    (hmonsters : ∀ tick ∈ monsterTicks cfg policy n fw, I tick →
      I (tick.tickMonsters cfg policy monsterStep)) (h : I fw) :
    I (monsterLoop cfg policy n fw) := by
  induction n generalizing fw with
  | zero => exact h
  | succ n ih =>
    unfold monsterTicks at hmonsters
    unfold monsterLoop
    split
    · rename_i hdue
      rw [if_pos hdue, List.forall_mem_cons] at hmonsters
      exact ih hmonsters.2 (hclocks _ _ _ _ (hmonsters.1 h))
    · exact h

/-- **Rule for `update_world`**: what setting the clocks, ticking the
players and each of its ticks of the monsters keep, a call keeps. -/
theorem updateWorld_keeps_of_ticks (policy : List K → Fin 5 → K)
    (hclocks : ∀ fw worldTime playerAcc monsterAcc, I fw →
      I { fw with worldTime, playerAcc, monsterAcc })
    (hplayers : ∀ fw, I fw → I (fw.tickPlayers cfg playerStep)) (dt : K)
    (hmonsters : ∀ tick ∈ fw.ticksOf cfg (.updateWorld policy dt), I tick →
      I (tick.tickMonsters cfg policy monsterStep)) (h : I fw) :
    I (fw.updateWorld cfg policy dt) := by
  rw [updateWorld_eq]
  split
  · exact h
  · rename_i hdt
    rw [ticksOf, if_neg hdt] at hmonsters
    refine monsterLoop_keeps policy hclocks 3 hmonsters (hclocks _ _ _ _ ?_)
    exact playerLoop_keeps hclocks hplayers 5 (hclocks fw _ _ _ h)

/-- The same if every tick of the monsters keeps it. -/
theorem updateWorld_keeps (policy : List K → Fin 5 → K)
    (hclocks : ∀ fw worldTime playerAcc monsterAcc, I fw →
      I { fw with worldTime, playerAcc, monsterAcc })
    (hplayers : ∀ fw, I fw → I (fw.tickPlayers cfg playerStep))
    (hmonsters : ∀ fw, I fw → I (fw.tickMonsters cfg policy monsterStep)) (dt : K) (h : I fw) :
    I (fw.updateWorld cfg policy dt) :=
  updateWorld_keeps_of_ticks policy hclocks hplayers dt (fun tick _ => hmonsters tick) h

/-- What ticking a player and ticking the monsters keep, a call of
`update_world` keeps. -/
theorem Stable.updateWorld (hI : Stable cfg I) (policy : List K → Fin 5 → K)
    (hmonsters : ∀ fw, I fw → I (fw.tickMonsters cfg policy monsterStep)) (dt : K) (h : I fw) :
    I (fw.updateWorld cfg policy dt) :=
  updateWorld_keeps policy hI.setClocks (fun _ h => hI.tickPlayers playerStep h) hmonsters dt h

end FieldWorker

end MmorpgServer.Worker
