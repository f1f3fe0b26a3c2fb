/-
MmorpgServer.Worker.MotionTheorems — the players of a field worker move
as `Motions` says.

Telling, marking and the monsters change no motion; `tickPlayer` and
`onClientMoveInput` change that of one player. `step_motions` puts these
together, and `fieldSystem_motions` carries them over runs.
-/
import MmorpgServer.Worker.FieldWorkerTheorems
import MmorpgServer.Worker.Motion

namespace MmorpgServer.Worker

open MmorpgServer.Lib MmorpgServer.Field MmorpgServer.Storage Scalar

variable {K : Type}

@[simp] theorem Motions.setMotion_self (ms : Motions K) (pid : EntityId) :
    ms.setMotion pid (ms.motion pid) = ms := by
  rw [setMotion, Function.update_eq_self]

@[simp] theorem Motions.setMotion_motion (ms : Motions K) (pid : EntityId) (m : Motion K) :
    (ms.setMotion pid m).motion pid = m := by
  simp [setMotion]

/-- Nobody enters or leaves in a frame. -/
theorem Motions.frame_players [Scalar K] (dt : K) (ms : Motions K) :
    (ms.frame dt).players = ms.players := by
  have hloop : ∀ loops (ms : Motions K), (ms.playerLoop loops).players = ms.players := by
    intro loops
    induction loops with
    | zero => exact fun ms => rfl
    | succ loops ih =>
      intro ms
      unfold Motions.playerLoop
      split
      · exact ih ms.pass
      · rfl
  unfold frame
  split
  · rfl
  · exact hloop 5 _

namespace FieldWorker

/-! ## What changes no motion -/

section

variable (fw : FieldWorker K)

@[simp] theorem motions_motion (pid : EntityId) :
    fw.motions.motion pid = (fw.player pid).motion := rfl

@[simp] theorem motions_worldTime : fw.motions.worldTime = fw.worldTime := rfl

@[simp] theorem motions_playerAcc : fw.motions.playerAcc = fw.playerAcc := rfl

@[simp] theorem motions_players : fw.motions.players = fw.players := rfl

@[simp] theorem motions_emit (es : List (Effect K)) : (fw.emit es).motions = fw.motions := rfl

@[simp] theorem motions_aoiCall (r : FieldAoiSystem (Vec2 K) × List (Delivery (Vec2 K))) :
    (fw.aoiCall r).motions = fw.motions := rfl

@[simp] theorem motions_sendTo (playerId : EntityId) (packet : Packet K) :
    (fw.sendTo playerId packet).motions = fw.motions := by
  rw [sendTo_eq, motions_emit]

@[simp] theorem motions_broadcast (id : EntityId) (packet : Packet K) :
    (fw.broadcast id packet).motions = fw.motions := by
  rw [broadcast_eq, motions_emit]

@[simp] theorem motions_setPlayer (pid : EntityId) (p : Player K) :
    (fw.setPlayer pid p).motions = fw.motions.setMotion pid p.motion := by
  have hmotion : (fun i => (Function.update fw.player pid p i).motion) =
      Function.update (fun i => (fw.player i).motion) pid p.motion := by
    funext i
    by_cases hi : i = pid
    · subst hi
      simp
    · simp [hi]
  simp [motions, setPlayer, Motions.setMotion, hmotion]

/-- A player is changed, but not its motion. -/
theorem motions_setPlayer_of_eq {pid : EntityId} {p : Player K}
    (hpos : p.pos = (fw.player pid).pos) (hmove : p.moveState = (fw.player pid).moveState) :
    (fw.setPlayer pid p).motions = fw.motions := by
  have hmotion : p.motion = fw.motions.motion pid := by
    rw [Player.motion, hpos, hmove]
    rfl
  rw [motions_setPlayer, hmotion, Motions.setMotion_self]

@[simp] theorem motions_setLastDirtyMarkTime (pid : EntityId) :
    (fw.setLastDirtyMarkTime pid).motions = fw.motions :=
  motions_setPlayer_of_eq fw rfl rfl

/-- Writing and marking, as every mark of the worker's own does it. -/
@[simp] theorem motions_mark (source : DirtySource) (pid : EntityId) :
    (((fw.writePlayerRtEnqueue pid).markDirty source pid).setLastDirtyMarkTime pid).motions =
      fw.motions := by
  rw [motions_setLastDirtyMarkTime, markDirty, motions_emit, writePlayerRtEnqueue]
  split
  · exact motions_emit fw _
  · rfl

end

variable [Scalar K]

/-- The callbacks of the environment move no player. -/
theorem env_motions (cfg : FieldConfig K) (ms : Motions K) :
    (env cfg).Keeps (fun _ => True) fun fw => fw.motions = ms where
  toQuiet := env_quiet cfg (fun _ _ _ _ h => h)
    (fun fw _ _ hpos hmove h => (motions_setPlayer_of_eq fw hpos hmove).trans h)
    fun _ _ h => h
  moveInAoi _ _ _ _ _ h := h
  spawnInAoi _ _ _ _ _ h := h
  removeFromAoi _ _ _ h := h

theorem motions_tickMonsters (cfg : FieldConfig K) (policy : List K → Fin 5 → K) (step : K)
    (fw : FieldWorker K) : (fw.tickMonsters cfg policy step).motions = fw.motions :=
  (env_motions cfg fw.motions).update policy step (fun _ _ => trivial) rfl

theorem motions_handleSkill (cfg : FieldConfig K) (fw : FieldWorker K)
    (session : Option EntityId) (targetId : EntityId) :
    (fw.handleSkill cfg session targetId).motions = fw.motions := by
  cases session with
  | none => rfl
  | some pid =>
    have hcast : (fw.broadcastPlayerState pid .attack).motions = fw.motions :=
      motions_broadcast fw _ _
    have hattack := (env_motions cfg fw.motions).playerAttackMonster targetId
      (fw.broadcastPlayerState pid .attack).monsterWorld.monsters (fun _ _ => trivial) hcast
    unfold handleSkill
    simp only
    split
    · exact (motions_broadcast _ _ _).trans hattack
    · exact hattack

/-! ## Players enter and leave -/

theorem motions_onPlayerEnterField (cfg : FieldConfig K) (fw : FieldWorker K) (pid : EntityId) :
    (fw.onPlayerEnterField cfg pid).motions = fw.motions := by
  have hsend : ∀ (fw' : FieldWorker K) (w i : EntityId) (isMonster : Bool) (pos : Vec2 K),
      fw'.motions = fw.motions → (fw'.sendFieldEnter w i isMonster pos).motions = fw.motions :=
    fun fw' w i isMonster pos h => (motions_sendTo fw' w _).trans h
  unfold onPlayerEnterField
  refine List.foldlRecOn (motive := fun fw' => fw'.motions = fw.motions) _ _ ?_
    fun fw' h _ _ => hsend fw' _ _ _ _ h
  refine List.foldlRecOn (motive := fun fw' => fw'.motions = fw.motions) _ _ ?_
    fun fw' h _ _ => hsend fw' _ _ _ _ h
  refine List.foldlRecOn (motive := fun fw' => fw'.motions = fw.motions) _ _ ?_
    fun fw' h _ _ => hsend fw' _ _ _ _ h
  exact hsend _ _ _ _ _ rfl

theorem motions_addPlayer (cfg : FieldConfig K) (fw : FieldWorker K) (pid : EntityId)
    (p : Player K) : (fw.addPlayer cfg pid p).motions =
      { fw.motions.setMotion pid p.motion with players := insert pid fw.players } := by
  unfold addPlayer
  rw [motions_onPlayerEnterField, ← motions_setPlayer]
  rfl

theorem motions_removePlayer (cfg : FieldConfig K) (fw : FieldWorker K) (pid : EntityId) :
    (fw.removePlayer cfg pid).motions = { fw.motions with players := fw.players.erase pid } := rfl

/-! ## Input and ticks -/

theorem motions_onClientMoveInput (fw : FieldWorker K)
    (session : Option EntityId) (entityId : EntityId) (dir : Option (Vec2 K)) :
    (fw.onClientMoveInput session entityId dir).motions =
      fw.motions.step (.moveInput session entityId dir) := by
  unfold onClientMoveInput
  by_cases hsession : session = some entityId
  · by_cases hin : entityId ∈ fw.players
    · have haccepted : fw.motions.accepted session entityId dir = dir := if_pos ⟨hsession, hin⟩
      rw [if_neg (not_not.mpr hsession), if_neg (not_not.mpr hin), Motions.step, haccepted]
      cases dir with
      | none => rfl
      | some d =>
        simp only
        by_cases hlen : d.x * d.x + d.y * d.y < lit 0.0001
        · cases hmoving : (fw.player entityId).moveState.moving <;>
            simp [hlen, hmoving, broadcastPlayerState, broadcastAiState, Motion.input,
              Player.motion, Motion.halt]
        · cases hmoving : (fw.player entityId).moveState.moving <;>
            simp [hlen, broadcastPlayerState, broadcastAiState, Motion.input, Player.motion]
    · have haccepted : fw.motions.accepted session entityId dir = none := if_neg fun h => hin h.2
      rw [if_neg (not_not.mpr hsession), if_pos hin, Motions.step, haccepted]
  · have haccepted : fw.motions.accepted session entityId dir = none := if_neg fun h => hsession h.1
    rw [if_pos hsession, Motions.step, haccepted]

theorem motions_markDirtyPosIfNeeded (fw : FieldWorker K) (pid : EntityId)
    (oldPos newPos : Vec2 K) :
    (fw.markDirtyPosIfNeeded pid oldPos newPos).motions = fw.motions := by
  unfold markDirtyPosIfNeeded
  simp only
  split
  · rfl
  split
  · rfl
  · exact motions_mark fw .pos pid

/-- A pass of the loop of `tick_players` moves the player it is at. -/
theorem motions_tickPlayer (cfg : FieldConfig K) (step : K) (fw : FieldWorker K)
    (pid : EntityId) : (fw.tickPlayer cfg step pid).motions =
      fw.motions.setMotion pid ((fw.motions.motion pid).tick fw.worldTime step) := by
  unfold tickPlayer Motion.tick
  simp only [motions_motion, Player.motion_moveState]
  by_cases hlate : (fw.player pid).moveState.moving = true ∧
      lit 0.5 < fw.worldTime - (fw.player pid).moveState.lastInputTime
  · simp only [hlate, and_self, if_true]
    exact (motions_mark _ .state pid).trans
      ((motions_broadcast _ _ _).trans (motions_setPlayer fw pid _))
  · simp only [hlate, if_false]
    by_cases hmoving : (fw.player pid).moveState.moving = true
    · simp only [hmoving, Bool.not_true, Bool.false_eq_true, if_true, if_false]
      exact (motions_markDirtyPosIfNeeded _ _ _ _).trans (motions_setPlayer fw pid _)
    · simp only [hmoving, Bool.not_false, if_true, Bool.false_eq_true, if_false]
      exact (fw.motions.setMotion_self pid).symm

theorem foldl_tickPlayer (cfg : FieldConfig K) (step : K) {l : List EntityId} (hl : l.Nodup)
    (fw : FieldWorker K) : (l.foldl (tickPlayer cfg step) fw).motions =
      { fw.motions with motion := fun pid =>
          if pid ∈ l then (fw.motions.motion pid).tick fw.worldTime step
          else fw.motions.motion pid } := by
  induction l generalizing fw with
  | nil => simp [motions]
  | cons i l ih =>
    obtain ⟨hi, hl⟩ := List.nodup_cons.mp hl
    have hworldTime : (fw.tickPlayer cfg step i).worldTime = fw.worldTime :=
      congrArg Motions.worldTime (motions_tickPlayer cfg step fw i)
    rw [List.foldl_cons, ih hl, motions_tickPlayer, hworldTime]
    simp only [Motions.setMotion]
    congr 1
    funext pid
    by_cases hpid : pid = i
    · subst hpid
      simp [hi]
    · simp [hpid]

theorem motions_tickPlayers (cfg : FieldConfig K) (step : K) (fw : FieldWorker K) :
    (fw.tickPlayers cfg step).motions = fw.motions.tick step := by
  have hnodup : (fw.playerIds cfg).Nodup := (cfg.playerOrder fw.playersChanges).nodup fw.players
  have hmem : ∀ pid, pid ∈ fw.playerIds cfg ↔ pid ∈ fw.players :=
    (cfg.playerOrder fw.playersChanges).mem_iff fw.players
  unfold tickPlayers
  rw [foldl_tickPlayer cfg step hnodup]
  simp only [hmem]
  rfl

theorem motions_playerLoop (cfg : FieldConfig K) (loops : Nat) (fw : FieldWorker K) :
    (playerLoop cfg loops fw).motions = fw.motions.playerLoop loops := by
  induction loops generalizing fw with
  | zero => rfl
  | succ loops ih =>
    have hpass : ({ fw.tickPlayers cfg playerStep with
        playerAcc := (fw.tickPlayers cfg playerStep).playerAcc - playerStep } :
          FieldWorker K).motions = fw.motions.pass := by
      show ({ (fw.tickPlayers cfg playerStep).motions with
        playerAcc := (fw.tickPlayers cfg playerStep).motions.playerAcc - playerStep } :
          Motions K) = _
      rw [motions_tickPlayers]
      rfl
    unfold playerLoop Motions.playerLoop
    by_cases h : playerStep ≤ fw.playerAcc
    · simp only [motions_playerAcc, h, if_true]
      rw [ih, hpass]
    · simp only [motions_playerAcc, h, if_false]

theorem motions_monsterLoop (cfg : FieldConfig K) (policy : List K → Fin 5 → K) (loops : Nat)
    (fw : FieldWorker K) : (monsterLoop cfg policy loops fw).motions = fw.motions := by
  induction loops generalizing fw with
  | zero => rfl
  | succ loops ih =>
    unfold monsterLoop
    split
    · exact (ih _).trans (motions_tickMonsters cfg policy monsterStep fw)
    · rfl

theorem motions_updateWorld (cfg : FieldConfig K) (policy : List K → Fin 5 → K) (dt : K)
    (fw : FieldWorker K) : (fw.updateWorld cfg policy dt).motions = fw.motions.frame dt := by
  unfold updateWorld Motions.frame
  split
  · rfl
  · exact (motions_monsterLoop cfg policy 3 _).trans (motions_playerLoop cfg 5 _)

/-- **The players move as `Motions` says**, whatever else a field worker
does. -/
theorem step_motions (cfg : FieldConfig K) (fw : FieldWorker K) (a : FieldAction K) :
    (fw.step cfg a).motions = fw.motions.step a := by
  cases a with
  | addPlayer pid p => exact motions_addPlayer cfg fw pid p
  | removePlayer pid => exact motions_removePlayer cfg fw pid
  | moveInput session entityId dir => exact motions_onClientMoveInput fw session entityId dir
  | skill session targetId => exact motions_handleSkill cfg fw session targetId
  | updateWorld policy dt => exact motions_updateWorld cfg policy dt fw
  | setSession pid online => rfl
  | setRegistered pid registered => rfl

theorem motions_construct (cfg : FieldConfig K) (player : EntityId → Player K)
    (redisRtWriter : Bool) (spawns : List (MonsterSpawn K)) :
    (construct cfg player redisRtWriter spawns).motions =
      { players := ∅, motion := fun pid => (player pid).motion, worldTime := lit 0
        playerAcc := lit 0 } :=
  List.foldlRecOn (motive := fun fw : FieldWorker K => fw.motions = _) spawns (spawn cfg) rfl
    fun _ h _ _ => h

end FieldWorker

variable [Scalar K]

/-- A run of a field worker is one of its players alone. -/
theorem fieldSystem_motions {cfg : FieldConfig K} {redisRtWriter : Bool}
    {l : List (FieldWorker K × FieldAction K)} {fw : FieldWorker K}
    (r : Run (fieldSystem cfg redisRtWriter) l fw) :
    Run motionSystem (l.map fun e => (e.1.motions, e.2)) fw.motions := by
  refine r.map FieldWorker.motions ?_ ?_
  · rintro fw ⟨player, spawns, -, rfl⟩
    rw [FieldWorker.motions_construct]
    exact ⟨rfl, rfl, rfl⟩
  · rintro fw a fw' ⟨-, rfl⟩
    exact FieldWorker.step_motions cfg fw a

end MmorpgServer.Worker
