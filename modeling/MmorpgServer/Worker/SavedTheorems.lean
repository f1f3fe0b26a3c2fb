/-
MmorpgServer.Worker.SavedTheorems — when the position a player stops at is
saved.

Positions are written while a player moves, but not at every tick. What is
missed is made up for when the player stops: `tick_players` ends the
movement of a player that sends no more input and calls
`mark_dirty_state`, which writes and marks. `on_client_move_input` ends it
too, when the client sends no direction, and does not.

`Settled` is the invariant of a player that has moved: it moves, or its
position is saved. `final_position_saved_iff` says that an explicit stop
with the position unsaved is the only way to break it.
-/
import MmorpgServer.Worker.WatcherTheorems

namespace MmorpgServer.Worker

open MmorpgServer.Lib MmorpgServer.Field MmorpgServer.Storage Scalar

variable {K : Type}

/-! ## Logs -/

/-- What an entry of the log makes of the last snapshot written for a user,
and of whether the user has been marked dirty since. -/
def takeSave (uid : Uid) (last : Option (UserSnapshot K × Bool)) :
    Effect K → Option (UserSnapshot K × Bool)
  | .redisRtWrite s => if s.uid = uid then some (s, false) else last
  | .markDirty _ now => if now.uid = uid then last.map fun p => (p.1, true) else last
  | _ => last

def lastSave (uid : Uid) (log : List (Effect K)) : Option (UserSnapshot K × Bool) :=
  log.foldl (takeSave uid) none

/-- A write or a mark of the user. -/
def Effect.saves (uid : Uid) : Effect K → Bool
  | .redisRtWrite s => decide (s.uid = uid)
  | .markDirty _ now => decide (now.uid = uid)
  | _ => false

theorem lastSave_append (uid : Uid) (log es : List (Effect K)) :
    lastSave uid (log ++ es) = es.foldl (takeSave uid) (lastSave uid log) :=
  List.foldl_append

theorem lastSave_append_idle (uid : Uid) (log : List (Effect K)) {es : List (Effect K)}
    (hes : ∀ e ∈ es, e.saves uid = false) : lastSave uid (log ++ es) = lastSave uid log := by
  rw [lastSave_append]
  generalize lastSave uid log = last
  induction es with
  | nil => rfl
  | cons e es ih =>
    rw [List.forall_mem_cons] at hes
    have he : takeSave uid last e = last := by
      cases e with
      | redisRtWrite s => exact if_neg (of_decide_eq_false hes.1)
      | markDirty source now => exact if_neg (of_decide_eq_false hes.1)
      | send | playerAdded | sessionChanged => rfl
    rw [List.foldl_cons, he, ih hes.2]

namespace FieldWorker

/-- The last snapshot written for the player has its position, and the
player has been marked dirty since. -/
def Saved (fw : FieldWorker K) (pid : EntityId) : Prop :=
  ∃ snap, lastSave pid fw.log = some (snap, true) ∧ snap.x = (fw.player pid).pos.x ∧
    snap.z = (fw.player pid).pos.y

/-- The invariant. -/
structure Settled (pid : EntityId) (fw : FieldWorker K) : Prop where
  writer : fw.redisRtWriter = true
  saved : (fw.player pid).moveState.moving = true ∨ fw.Saved pid

variable {fw : FieldWorker K} {pid : EntityId}

/-- Entries that save nothing, and a player that stays where it is. -/
theorem saved_iff {fw' : FieldWorker K} (hpos : (fw'.player pid).pos = (fw.player pid).pos)
    (hlog : ∃ es, fw'.log = fw.log ++ es ∧ ∀ e ∈ es, e.saves pid = false) :
    fw'.Saved pid ↔ fw.Saved pid := by
  obtain ⟨es, hlog, hes⟩ := hlog
  rw [Saved, Saved, hlog, lastSave_append_idle pid fw.log hes, hpos]

/-- It also moves as it does. -/
theorem Settled.of_idle (h : fw.Settled pid) {fw' : FieldWorker K}
    (hwriter : fw'.redisRtWriter = fw.redisRtWriter)
    (hmotion : (fw'.player pid).motion = (fw.player pid).motion)
    (hlog : ∃ es, fw'.log = fw.log ++ es ∧ ∀ e ∈ es, e.saves pid = false) : fw'.Settled pid := by
  have hmove : (fw'.player pid).moveState = (fw.player pid).moveState :=
    congrArg Motion.moveState hmotion
  refine ⟨hwriter.trans h.writer, ?_⟩
  rw [hmove, saved_iff (congrArg Motion.pos hmotion) hlog]
  exact h.saved

theorem Settled.emit (h : fw.Settled pid) {es : List (Effect K)}
    (hes : ∀ e ∈ es, e.saves pid = false) : (fw.emit es).Settled pid :=
  h.of_idle rfl rfl ⟨es, rfl, hes⟩

theorem Settled.broadcast (h : fw.Settled pid) (id : EntityId) (packet : Packet K) :
    (fw.broadcast id packet).Settled pid := by
  rw [broadcast_eq]
  refine h.emit fun e he => ?_
  obtain ⟨w, -, rfl⟩ := List.mem_map.mp he
  rfl

theorem Settled.aoiCall (h : fw.Settled pid)
    (r : FieldAoiSystem (Vec2 K) × List (Delivery (Vec2 K))) : (fw.aoiCall r).Settled pid := by
  refine h.of_idle rfl rfl ⟨_, rfl, fun e he => ?_⟩
  obtain ⟨_, _, _, _, _, _, rfl⟩ := mem_aoiSend he
  rfl

/-- A mark on its own. -/
theorem Settled.markDirty (h : fw.Settled pid) (source : DirtySource) (pid' : EntityId) :
    (fw.markDirty source pid').Settled pid := by
  refine ⟨h.writer, h.saved.imp_right ?_⟩
  rintro ⟨snap, hlast, hpos⟩
  refine ⟨snap, ?_, hpos⟩
  show lastSave pid (fw.log ++ [_]) = _
  rw [lastSave_append, hlast]
  show (if pid' = pid then _ else _) = _
  split <;> rfl

/-- A write and a mark: whatever was missed is made up for. -/
theorem settled_mark (hwriter : fw.redisRtWriter = true) (source : DirtySource) (pid : EntityId) :
    (((fw.writePlayerRtEnqueue pid).markDirty source pid).setLastDirtyMarkTime pid).Settled pid := by
  have hwrite : fw.writePlayerRtEnqueue pid = fw.emit [.redisRtWrite (fw.snapshot pid)] :=
    if_pos hwriter
  rw [hwrite]
  refine ⟨hwriter, .inr ⟨fw.snapshot pid, ?_, ?_, ?_⟩⟩
  · show lastSave pid ((fw.log ++ [_]) ++ [_]) = _
    rw [lastSave_append, lastSave_append]
    simp [takeSave, snapshot, FieldWorker.emit]
  all_goals simp [setLastDirtyMarkTime, FieldWorker.setPlayer, FieldWorker.markDirty,
    FieldWorker.emit, snapshot]

theorem Settled.mark (h : fw.Settled pid) (source : DirtySource) (pid' : EntityId) :
    (((fw.writePlayerRtEnqueue pid').markDirty source pid').setLastDirtyMarkTime pid').Settled
      pid := by
  have hwrite : fw.writePlayerRtEnqueue pid' = fw.emit [.redisRtWrite (fw.snapshot pid')] :=
    if_pos h.writer
  by_cases hpid : pid' = pid
  · subst hpid
    exact settled_mark h.writer source pid'
  · refine h.of_idle ?_ ?_ ⟨[.redisRtWrite (fw.snapshot pid'), .markDirty source
      ((fw.emit [.redisRtWrite (fw.snapshot pid')]).snapshot pid')], ?_, ?_⟩
    · rw [hwrite]
      rfl
    · exact congrArg (fun ms => ms.motion pid) (motions_mark fw source pid')
    · rw [hwrite]
      exact List.append_assoc _ _ _
    · simp [Effect.saves, snapshot, hpid]

/-- A player that is not the one, or that stays and moves as it does. -/
theorem Settled.setPlayer (h : fw.Settled pid) (pid' : EntityId) (p : Player K)
    (hp : pid' = pid → p.motion = (fw.player pid).motion) : (fw.setPlayer pid' p).Settled pid := by
  refine h.of_idle rfl ?_ ⟨[], (List.append_nil _).symm, nofun⟩
  by_cases hpid : pid' = pid
  · subst hpid
    simpa [FieldWorker.setPlayer] using hp rfl
  · simp [FieldWorker.setPlayer, Ne.symm hpid]

/-- A player that moves. -/
theorem settled_setPlayer_moving (hwriter : fw.redisRtWriter = true) {p : Player K}
    (hp : p.moveState.moving = true) : (fw.setPlayer pid p).Settled pid :=
  ⟨hwriter, .inl (by simpa [FieldWorker.setPlayer] using hp)⟩

variable [Scalar K] {cfg : FieldConfig K}

/-- The monsters settle and unsettle nobody. -/
theorem env_settled (cfg : FieldConfig K) (pid : EntityId) :
    (env cfg).Keeps (fun _ => True) (Settled pid) where
  toQuiet := env_quiet cfg (fun fw w packet _ h => h.emit (by simp [Effect.saves]))
    (fun fw pid' p hpos hmove h => h.setPlayer pid' p fun hpid => by
      subst hpid
      rw [Player.motion, hpos, hmove]
      rfl)
    fun fw pid' h => h.markDirty .combat pid'
  moveInAoi fw mid x y _ h := h.aoiCall _
  spawnInAoi fw mid x y _ h := (h.aoiCall _).aoiCall _
  removeFromAoi fw mid _ h := h.aoiCall _

theorem Settled.handleSkill (h : fw.Settled pid) (session : Option EntityId)
    (targetId : EntityId) : (fw.handleSkill cfg session targetId).Settled pid := by
  cases session with
  | none => exact h
  | some pid' =>
    have hcast : (fw.broadcastPlayerState pid' .attack).Settled pid := h.broadcast pid' _
    have hattack := (env_settled cfg pid).playerAttackMonster targetId
      (fw.broadcastPlayerState pid' .attack).monsterWorld.monsters (fun _ _ => trivial) hcast
    have hset : ∀ fw' : FieldWorker K, fw'.Settled pid → ∀ world,
        ({ fw' with monsterWorld := world } : FieldWorker K).Settled pid :=
      fun fw' h world => ⟨h.writer, h.saved⟩
    unfold FieldWorker.handleSkill
    simp only
    split
    · exact (hset _ hattack _).broadcast _ _
    · exact hset _ hattack _

/-- **A tick settles** a player that stops, and a player that goes on
moves. -/
theorem Settled.tickPlayer (h : fw.Settled pid) (step : K) (pid' : EntityId) :
    (fw.tickPlayer cfg step pid').Settled pid := by
  unfold FieldWorker.tickPlayer
  simp only
  split
  · by_cases hpid : pid' = pid
    · subst hpid
      refine settled_mark ?_ .state pid'
      rw [broadcastPlayerState, broadcastAiState, broadcast_eq]
      exact h.writer
    · exact ((h.setPlayer pid' _ fun he => absurd he hpid).broadcast pid' _).mark .state pid'
  · split
    · exact h
    · rename_i hmoving
      have hmoved : ∀ p : Player K, p.moveState = (fw.player pid').moveState →
          (fw.setPlayer pid' p).Settled pid := by
        intro p hp
        by_cases hpid : pid' = pid
        · subst hpid
          exact settled_setPlayer_moving h.writer (by rw [hp]; simpa using hmoving)
        · exact h.setPlayer pid' p fun he => absurd he hpid
      have hcalled : ∀ pos, ((fw.setPlayer pid' { fw.player pid' with pos }).aoiMove cfg pid'
          pos).Settled pid := fun pos => (hmoved { fw.player pid' with pos } rfl).aoiCall _
      unfold markDirtyPosIfNeeded
      simp only
      split
      · exact hcalled _
      · split
        · exact hcalled _
        · exact (hcalled _).mark .pos pid'

theorem Settled.updateWorld (h : fw.Settled pid) (policy : List K → Fin 5 → K) (dt : K) :
    (fw.updateWorld cfg policy dt).Settled pid := by
  refine updateWorld_keeps policy (fun fw _ _ _ h => ⟨h.writer, h.saved⟩) (fun fw h => ?_)
    (fun fw h => ?_) dt h
  · exact List.foldlRecOn (motive := Settled pid) _ _ h fun fw h pid' _ =>
      h.tickPlayer playerStep pid'
  · have hticked : (fw.monsterWorld.update (env cfg) policy monsterStep fw).2.Settled pid :=
      (env_settled cfg pid).update policy monsterStep (fun _ _ => trivial) h
    exact ⟨hticked.writer, hticked.saved⟩

theorem Settled.addPlayer (h : fw.Settled pid) {pid' : EntityId} (hpid : pid' ≠ pid)
    (p : Player K) : (fw.addPlayer cfg pid' p).Settled pid := by
  obtain ⟨es, hadd, honly, -⟩ := addPlayer_sends cfg fw pid' p
  have hwith : (fw.withPlayer pid' p).Settled pid := by
    refine h.of_idle rfl ?_ ⟨[.playerAdded pid' (fw.sessions pid')], rfl, by simp [Effect.saves]⟩
    simp [withPlayer, Ne.symm hpid]
  rw [hadd]
  refine (hwith.aoiCall _).emit fun e he => ?_
  obtain ⟨_, _, _, _, _, rfl⟩ := honly e he
  rfl

end FieldWorker

/-- The client sends no direction while its player moves and the position
is unsaved. -/
def FieldAction.StopsUnsaved [Scalar K] (fw : FieldWorker K) (pid : EntityId)
    (a : FieldAction K) : Prop :=
  ∃ d, a = .moveInput (some pid) pid (some d) ∧ d.x * d.x + d.y * d.y < lit 0.0001 ∧
    pid ∈ fw.players ∧ (fw.player pid).moveState.moving = true ∧ ¬ fw.Saved pid

namespace FieldWorker

variable [Scalar K] {cfg : FieldConfig K} {fw : FieldWorker K} {pid : EntityId}

/-- An input writes nothing, and leaves the player where it is. -/
theorem onClientMoveInput_idle (fw : FieldWorker K) (session : Option EntityId)
    (entityId : EntityId) (dir : Option (Vec2 K)) :
    (fw.onClientMoveInput session entityId dir).redisRtWriter = fw.redisRtWriter ∧
      ∃ es, (fw.onClientMoveInput session entityId dir).log = fw.log ++ es ∧
        ∀ pid, ∀ e ∈ es, e.saves pid = false := by
  have hcast : ∀ (p : Player K) st, ((fw.setPlayer entityId p).broadcastPlayerState entityId
      st).redisRtWriter = fw.redisRtWriter ∧ ∃ es,
      ((fw.setPlayer entityId p).broadcastPlayerState entityId st).log = fw.log ++ es ∧
        ∀ pid, ∀ e ∈ es, e.saves pid = false := by
    intro p st
    rw [broadcastPlayerState, broadcastAiState, broadcast_eq]
    refine ⟨rfl, _, rfl, fun pid e he => ?_⟩
    obtain ⟨w, -, rfl⟩ := List.mem_map.mp he
    rfl
  have hsame : ∀ fw' : FieldWorker K, fw'.redisRtWriter = fw.redisRtWriter → fw'.log = fw.log →
      fw'.redisRtWriter = fw.redisRtWriter ∧ ∃ es, fw'.log = fw.log ++ es ∧
        ∀ pid, ∀ e ∈ es, e.saves pid = false := fun fw' hwriter hlog =>
    ⟨hwriter, [], by rw [hlog, List.append_nil], fun _ _ he => absurd he List.not_mem_nil⟩
  unfold onClientMoveInput
  split
  · exact hsame _ rfl rfl
  split
  · exact hsame _ rfl rfl
  cases dir with
  | none => exact hsame _ rfl rfl
  | some d =>
    simp only
    split
    · split
      · exact hsame _ rfl rfl
      · exact hcast _ _
    · split
      · exact hsame _ rfl rfl
      · exact hcast _ _

/-- What an input makes of a player: nothing, or what its own client
sends. -/
theorem motion_onClientMoveInput (fw : FieldWorker K) (session : Option EntityId)
    (entityId : EntityId) (dir : Option (Vec2 K)) (pid : EntityId) :
    ((fw.onClientMoveInput session entityId dir).player pid).motion = (fw.player pid).motion ∨
      ∃ d, session = some pid ∧ entityId = pid ∧ dir = some d ∧ pid ∈ fw.players ∧
        ((fw.onClientMoveInput session entityId dir).player pid).motion =
          (fw.player pid).motion.input fw.worldTime d := by
  have hmotion := congrArg (fun ms => ms.motion pid)
    (motions_onClientMoveInput fw session entityId dir)
  simp only [motions_motion] at hmotion
  rw [hmotion, Motions.step]
  cases haccepted : fw.motions.accepted session entityId dir with
  | none => exact .inl rfl
  | some d =>
    unfold Motions.accepted at haccepted
    split at haccepted
    · rename_i hown
      by_cases hpid : pid = entityId
      · subst hpid
        exact .inr ⟨d, hown.1, rfl, haccepted, hown.2, Motions.setMotion_motion _ _ _⟩
      · exact .inl (Function.update_of_ne hpid _ _)
    · cases haccepted

/-- An input leaves a player where it is, and moving if it is a direction. -/
theorem input_pos_moving (worldTime : K) (m : Motion K) (d : Vec2 K) :
    (m.input worldTime d).pos = m.pos ∧
      ((m.input worldTime d).moveState.moving = true ↔ ¬ d.x * d.x + d.y * d.y < lit 0.0001) := by
  unfold Motion.input
  simp only
  split
  · rename_i hzero
    cases hmoving : m.moveState.moving <;> simp [hzero, Motion.halt]
  · rename_i hdir
    simp [hdir]

theorem Settled.onClientMoveInput (h : fw.Settled pid) {session : Option EntityId}
    {entityId : EntityId} {dir : Option (Vec2 K)}
    (hstop : ¬ (FieldAction.moveInput session entityId dir).StopsUnsaved fw pid) :
    (fw.onClientMoveInput session entityId dir).Settled pid := by
  obtain ⟨hwriter, es, hlog, hes⟩ := onClientMoveInput_idle fw session entityId dir
  rcases motion_onClientMoveInput fw session entityId dir pid with
    hsame | ⟨d, rfl, rfl, rfl, hin, hinput⟩
  · exact h.of_idle hwriter hsame ⟨es, hlog, hes pid⟩
  · refine ⟨hwriter.trans h.writer, ?_⟩
    obtain ⟨hpos, hmoving⟩ := input_pos_moving fw.worldTime (fw.player entityId).motion d
    rw [← hinput] at hpos hmoving
    rw [saved_iff hpos ⟨es, hlog, hes entityId⟩]
    by_cases hzero : d.x * d.x + d.y * d.y < lit 0.0001
    · refine .inr ?_
      by_contra hsaved
      have hmoved := h.saved.resolve_right hsaved
      exact hstop ⟨d, rfl, hzero, hin, hmoved, hsaved⟩
    · exact .inl (hmoving.mpr hzero)

/-- A stop with the position unsaved leaves it so. -/
theorem stopsUnsaved_step (cfg : FieldConfig K) {a : FieldAction K}
    (h : a.StopsUnsaved fw pid) :
    ((fw.step cfg a).player pid).moveState.moving = false ∧ ¬ (fw.step cfg a).Saved pid := by
  obtain ⟨d, rfl, hzero, hin, -, hsaved⟩ := h
  obtain ⟨-, es, hlog, hes⟩ := onClientMoveInput_idle fw (some pid) pid (some d)
  have haccepted : fw.motions.accepted (some pid) pid (some d) = some d := if_pos ⟨rfl, hin⟩
  have hinput : ((fw.onClientMoveInput (some pid) pid (some d)).player pid).motion =
      (fw.player pid).motion.input fw.worldTime d := by
    have hmotion := congrArg (fun ms => ms.motion pid)
      (motions_onClientMoveInput fw (some pid) pid (some d))
    simp only [motions_motion, Motions.step, haccepted, Motions.setMotion_motion] at hmotion
    exact hmotion
  obtain ⟨hpos, hmoving⟩ := input_pos_moving fw.worldTime (fw.player pid).motion d
  rw [← hinput] at hpos hmoving
  refine ⟨?_, fun hafter => hsaved ((saved_iff hpos ⟨es, hlog, hes pid⟩).mp hafter)⟩
  exact Bool.eq_false_iff.mpr fun hstill => hmoving.mp hstill hzero

/-- **One step**: a player that moves or is saved does or is still, unless
it is replaced or stops unsaved. -/
theorem Settled.step (h : fw.Settled pid) {a : FieldAction K}
    (hadd : ¬ ∃ p, a = .addPlayer pid p) (hstop : ¬ a.StopsUnsaved fw pid) :
    (fw.step cfg a).Settled pid := by
  cases a with
  | addPlayer pid' p =>
    refine h.addPlayer (fun hpid => hadd ?_) p
    exact ⟨p, by rw [hpid]⟩
  | removePlayer pid' =>
    have hcalled := h.aoiCall (fw.aoiSystem.removeEntity cfg.aoi pid')
    exact ⟨hcalled.writer, hcalled.saved⟩
  | moveInput session entityId dir => exact h.onClientMoveInput hstop
  | skill session targetId => exact h.handleSkill session targetId
  | updateWorld policy dt => exact h.updateWorld policy dt
  | setSession pid' online =>
    exact h.of_idle rfl rfl ⟨[.sessionChanged pid'], rfl, by simp [Effect.saves]⟩
  | setRegistered pid' registered => exact ⟨h.writer, h.saved⟩

/-- A player that a step moves was moving. -/
theorem moving_of_moves {a : FieldAction K} (h : a.Moves fw pid) :
    (fw.player pid).moveState.moving = true := by
  cases a with
  | updateWorld policy dt => exact h.2.2.2.1
  | _ => exact h.elim

/-- A player that has moved since it was added moves, or its position is
saved. -/
def FinalSaved (pid : EntityId) (l : List (FieldWorker K × FieldAction K))
    (fw : FieldWorker K) : Prop :=
  HasMoved (fun a => ∃ p, a = .addPlayer pid p) pid l →
    (fw.player pid).moveState.moving = false → fw.Saved pid

end FieldWorker

variable [Scalar K]

/-- **When the final position is saved.** In a run of a field worker whose
writer is set: in every state, the last snapshot written for a player that
has moved since it was added and no longer moves has its position and was
followed by a mark, if and only if the player's client never stops it with
its position unsaved. -/
theorem final_position_saved_iff (cfg : FieldConfig K) (pid : EntityId)
    {l : List (FieldWorker K × FieldAction K)} {fw : FieldWorker K}
    (r : Run (fieldSystem cfg true) l fw) :
    ((∀ l₂ p l₁, l = l₂ ++ p :: l₁ → p.1.FinalSaved pid l₁) ∧ fw.FinalSaved pid l) ↔
      ∀ l₂ p l₁, l = l₂ ++ p :: l₁ → HasMoved (fun a => ∃ p, a = .addPlayer pid p) pid l₁ →
        ¬ p.2.StopsUnsaved p.1 pid := by
  refine r.good_iff_steps_along (G := fun l fw => fw.FinalSaved pid l)
    (I := fun l fw => fw.Own (· ≠ .combat) ∧
      (HasMoved (fun a => ∃ p, a = .addPlayer pid p) pid l → fw.Settled pid))
    (P := fun l fw a => HasMoved (fun a => ∃ p, a = .addPlayer pid p) pid l →
      ¬ a.StopsUnsaved fw pid) ?_ ?_ ?_ ?_
  · rintro fw ⟨player, spawns, -, rfl⟩
    obtain ⟨hlog, -, hwriter⟩ := FieldWorker.construct_start cfg player true spawns
    refine ⟨⟨hwriter, ?_⟩, False.elim⟩
    rw [hlog]
    exact announcedFrom_nil
  · rintro l fw a fw' ⟨hown, hsettled⟩ hstop ⟨-, rfl⟩
    refine ⟨FieldWorker.own_step cfg hown fun hcombat => absurd rfl hcombat, ?_⟩
    rintro ⟨hadd, hmoves | hmoved⟩
    · -- moved just now
      have hmoving := FieldWorker.moving_of_moves hmoves
      refine FieldWorker.Settled.step ⟨hown.1, .inl hmoving⟩ hadd ?_
      rintro ⟨d, rfl, -⟩
      exact hmoves
    · exact (hsettled hmoved).step hadd (hstop hmoved)
  · rintro l fw ⟨-, hsettled⟩ hmoved hstands
    refine (hsettled hmoved).saved.resolve_left ?_
    rw [hstands]
    decide
  · rintro l fw a fw' - hbad ⟨-, rfl⟩ hgood
    rw [not_forall, exists_prop, not_not] at hbad
    obtain ⟨hmoved, hstop⟩ := hbad
    obtain ⟨hstands, hunsaved⟩ := FieldWorker.stopsUnsaved_step cfg hstop
    refine hunsaved (hgood ⟨?_, .inr hmoved⟩ hstands)
    rintro ⟨p, rfl⟩
    obtain ⟨d, hd, -⟩ := hstop
    cases hd

/-- A player has entered beside the archer and walks. -/
def walking : FieldWorker ℚ :=
  [.addPlayer 1 (newPlayer 45 30), .moveInput (some 1) 1 (some ⟨0, 1⟩), frame].foldl
    (FieldWorker.step sortedConfig) besideArcher

/-- A tick neither adds the player nor stops it. -/
theorem frame_neither (fw : FieldWorker ℚ) (pid : EntityId) :
    (¬ ∃ p, frame = .addPlayer pid p) ∧ ¬ frame.StopsUnsaved fw pid := by
  constructor
  · rintro ⟨p, hp⟩
    cases hp
  · rintro ⟨d, hd, -⟩
    cases hd

theorem run_walking : ∃ l, Run (fieldSystem sortedConfig true) l walking ∧
    HasMoved (fun a => ∃ p, a = .addPlayer 1 p) 1 l ∧ ∀ p ∈ l, ¬ p.2.StopsUnsaved p.1 1 := by
  have r := ((run_besideArcher.next (.addPlayer 1 (newPlayer 45 30)) ⟨by decide, rfl⟩).next
    (.moveInput (some 1) 1 (some ⟨0, 1⟩)) ⟨trivial, rfl⟩).next frame ⟨trivial, rfl⟩
  refine ⟨_, r, ⟨(frame_neither besideArcher 1).1, .inl ?_⟩, ?_⟩
  · show ¬ (3 / 10 : ℚ) ≤ lit 0 ∧ _ ∧ FieldWorker.Goes _ _
    decide +kernel
  · simp only [List.forall_mem_cons, List.not_mem_nil, false_implies, implies_true, and_true]
    refine ⟨(frame_neither _ 1).2, ?_, ?_⟩
    · rintro ⟨d, hd, hzero, -⟩
      cases hd
      revert hzero
      decide +kernel
    · rintro ⟨d, hd, -⟩
      cases hd

/-- Its client sends nothing more: it stops, and where it stands is saved. -/
theorem final_position_saved_iff_quiet :
    ∃ l, Run (fieldSystem sortedConfig true) l (walking.step sortedConfig frame) ∧
      (walking.step sortedConfig frame).Saved 1 := by
  obtain ⟨l, r, hmoved, hstops⟩ := run_walking
  have r' := r.next frame ⟨trivial, rfl⟩
  have hsplits : ∀ l₂ p l₁, (walking, frame) :: l = l₂ ++ p :: l₁ →
      HasMoved (fun a => ∃ p, a = .addPlayer 1 p) 1 l₁ → ¬ p.2.StopsUnsaved p.1 1 := by
    intro l₂ p l₁ hl _
    have hp : p ∈ (walking, frame) :: l := by simp [hl]
    rcases List.mem_cons.mp hp with rfl | hp
    · exact (frame_neither walking 1).2
    · exact hstops p hp
  exact ⟨_, r', ((final_position_saved_iff sortedConfig 1 r').mpr hsplits).2
    ⟨(frame_neither walking 1).1, .inr hmoved⟩ (by decide +kernel)⟩

/-- Its client stops it: the last snapshot is from where it was. -/
theorem final_position_saved_fails :
    ∃ l fw, Run (fieldSystem sortedConfig true) l fw ∧
      HasMoved (fun a => ∃ p, a = .addPlayer 1 p) 1 l ∧
      (fw.player 1).moveState.moving = false ∧ ¬ fw.Saved 1 := by
  obtain ⟨l, r, hmoved, -⟩ := run_walking
  have hadd : ¬ ∃ p, FieldAction.moveInput (some 1) 1 (some (⟨0, 0⟩ : Vec2 ℚ)) =
      .addPlayer 1 p := by
    rintro ⟨p, hp⟩
    cases hp
  refine ⟨_, _, r.next (.moveInput (some 1) 1 (some ⟨0, 0⟩)) ⟨trivial, rfl⟩,
    ⟨hadd, .inr hmoved⟩, by decide +kernel, ?_⟩
  have hwritten : lastSave 1 (walking.step sortedConfig
      (.moveInput (some 1) 1 (some ⟨0, 0⟩))).log =
        some (⟨1, 45, 1209 / 40, 500, 100, 0⟩, true) := by decide +kernel
  rintro ⟨snap, hlast, -, hz⟩
  obtain ⟨rfl, -⟩ := Prod.mk.inj (Option.some.inj (hwritten.symm.trans hlast))
  revert hz
  decide +kernel

end MmorpgServer.Worker
