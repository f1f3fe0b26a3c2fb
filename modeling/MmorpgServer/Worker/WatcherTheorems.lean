/-
MmorpgServer.Worker.WatcherTheorems — who hears of a monster's death, and
whether a player hears of its own hp.

Both go to the ids in `watchers_`. The table is erased with the entity, so
the death that `handle_skill` broadcasts after `player_attack_monster`
reaches no one (`deaths_are_seen_iff`). A player comes onto its own list only
through the Move that `move_entity` echoes, and stays there until it is
removed (`fieldSystem_ownRows`); before that the stats that
`CombatSystem::attack_player` broadcasts do not reach it
(`own_hp_is_told_iff`).
-/
import MmorpgServer.Field.AoiEchoTheorems
import MmorpgServer.Field.MonsterCorpseTheorems
import MmorpgServer.Worker.ClientViewTheorems
import MmorpgServer.Worker.MotionTheorems

namespace MmorpgServer.Worker

open MmorpgServer.Lib MmorpgServer.Field MmorpgServer.Storage Scalar

variable {K : Type}

namespace FieldWorker

/-- What is new in the log of `fw'` sends the packet to the player. -/
def Tells (fw fw' : FieldWorker K) (w : EntityId) (packet : Packet K) : Prop :=
  ∃ es, fw'.log = fw.log ++ es ∧ Effect.send w packet ∈ es

theorem tells_iff {fw fw' : FieldWorker K} {es : List (Effect K)} (h : fw'.log = fw.log ++ es)
    (w : EntityId) (packet : Packet K) : fw.Tells fw' w packet ↔ Effect.send w packet ∈ es := by
  constructor
  · rintro ⟨es', hes', hmem⟩
    obtain rfl := List.append_cancel_left (h.symm.trans hes')
    exact hmem
  · exact fun hmem => ⟨es, h, hmem⟩

theorem mem_aoiSend {fw : FieldWorker K} {ds : List (Delivery (Vec2 K))} {e : Effect K}
    (h : e ∈ ds.flatMap fw.aoiSend) :
    ∃ w type et id pos name, e = .send w (.fieldCmd type et id pos name) := by
  obtain ⟨d, -, hd⟩ := List.mem_flatMap.mp h
  unfold aoiSend at hd
  split at hd
  · rw [List.mem_singleton.mp hd]
    exact ⟨_, _, _, _, _, _, rfl⟩
  · cases hd

/-! ## Deaths -/

variable [Scalar K]

/-- What leaves the index has no watchers. -/
theorem aoiRemove_watchers (cfg : FieldConfig K) (fw : FieldWorker K) (id : EntityId) :
    (fw.aoiRemove cfg id).aoiSystem.forEachWatcher id = [] := by
  have hnone : (fw.aoiRemove cfg id).aoiSystem.watchers id = none := Function.update_self _ _ _
  unfold FieldAoiSystem.forEachWatcher
  rw [hnone]

/-- **A deadly skill** tells of the attacker's state and of the monster
leaving, but not of its death. -/
theorem handleSkill_kill (cfg : FieldConfig K) (fw : FieldWorker K) (pid : EntityId)
    {mid : EntityId} {m : Monster K}
    (hm : fw.monsterWorld.monsters.find? (fun m => m.id = mid) = some m) (hkill : m.stats.hp ≤ 10) :
    ∃ es, (fw.handleSkill cfg (some pid) mid).log = fw.log ++ es ∧
      ∀ w state, Effect.send w (.aiStateEvent .monster mid state) ∉ es := by
  have hdead : (MonsterWorld.hit m).2 = true := by
    unfold MonsterWorld.hit
    simp only
    rw [if_pos (by omega)]
  obtain ⟨-, hattack⟩ := MonsterWorld.playerAttackMonster_found (env cfg)
    (fw.broadcastPlayerState pid .attack) hm
  rw [if_pos hdead, hdead] at hattack
  let fw₁ := fw.broadcastPlayerState pid .attack
  have hlog : (fw.handleSkill cfg (some pid) mid).log = (fw₁.aoiRemove cfg mid).log := by
    have hmonsters : fw₁.monsterWorld = fw.monsterWorld := by
      show (fw.broadcast pid _).monsterWorld = fw.monsterWorld
      rw [broadcast_eq]
      rfl
    unfold handleSkill
    simp only
    rw [show (fw.broadcastPlayerState pid .attack).monsterWorld = fw.monsterWorld from hmonsters,
      hattack]
    simp only [if_true]
    -- the table entry is gone
    show (broadcast _ mid _).log = _
    rw [broadcast_eq, emit_log]
    have hnone := aoiRemove_watchers cfg fw₁ mid
    show _ ++ ((((fw₁.aoiRemove cfg mid).aoiSystem.forEachWatcher mid).filter _).map _) = _
    rw [hnone, List.filter_nil, List.map_nil, List.append_nil]
    rfl
  have hfirst : fw₁.log = fw.log ++ ((fw.aoiSystem.forEachWatcher pid).filter fw.sessions).map
      fun w => Effect.send w (.aiStateEvent .player pid (toFbState .attack)) := by
    show (fw.broadcast pid _).log = _
    rw [broadcast_eq]
    rfl
  have hsecond : (fw₁.aoiRemove cfg mid).log =
      fw₁.log ++ (fw₁.aoiSystem.removeEntity cfg.aoi mid).2.flatMap fw₁.aoiSend := rfl
  rw [hfirst, List.append_assoc] at hsecond
  refine ⟨_, hlog.trans hsecond, ?_⟩
  · intro w state hmem
    rcases List.mem_append.mp hmem with hmem | hmem
    · obtain ⟨w', -, he⟩ := List.mem_map.mp hmem
      cases he
    · obtain ⟨_, _, _, _, _, _, he⟩ := mem_aoiSend hmem
      cases he

/-- **Deaths are not seen.** When a skill takes a living monster's last
hp, in whatever run, its watchers with a session are told of its death
only if there are none. -/
theorem deaths_are_seen_iff (cfg : FieldConfig K) (redisRtWriter : Bool)
    {l : List (FieldWorker K × FieldAction K)} {fw : FieldWorker K}
    (_ : Run (fieldSystem cfg redisRtWriter) l fw) (pid mid : EntityId) (m : Monster K)
    (hm : fw.monsterWorld.monsters.find? (fun m => m.id = mid) = some m) (_ : 0 < m.stats.hp)
    (hkill : m.stats.hp ≤ 10) :
    (∀ w ∈ fw.aoiSystem.forEachWatcher mid, fw.sessions w = true →
      fw.Tells (fw.step cfg (.skill (some pid) mid)) w (.aiStateEvent .monster mid .dead)) ↔
      ∀ w ∈ fw.aoiSystem.forEachWatcher mid, fw.sessions w = false := by
  obtain ⟨es, hlog, hes⟩ := handleSkill_kill cfg fw pid hm hkill
  refine forall₂_congr fun w _ => ⟨fun h => ?_, fun h hw => ?_⟩
  · by_contra hw
    exact hes w .dead ((tells_iff hlog _ _).mp (h (by simpa using hw)))
  · rw [h] at hw
    cases hw

end FieldWorker

/-- A player with a session beside an archer on its last ten hp. -/
def besideWeakArcher : FieldWorker ℚ :=
  ((((FieldWorker.construct sortedConfig (fun _ => newPlayer 0 0) true [weakArcher]).step
    sortedConfig (.setRegistered 1 true)).step sortedConfig (.setSession 1 true)).step
    sortedConfig (.addPlayer 1 (newPlayer 45 30)))

theorem run_besideWeakArcher : ∃ l, Run (fieldSystem sortedConfig true) l besideWeakArcher :=
  have r₀ : Run (fieldSystem sortedConfig true) []
      (FieldWorker.construct sortedConfig (fun _ => newPlayer 0 0) true [weakArcher]) :=
    .start ⟨_, [weakArcher], by decide, rfl⟩
  ⟨_, ((r₀.next (.setRegistered 1 true) ⟨trivial, rfl⟩).next (.setSession 1 true)
    ⟨trivial, rfl⟩).next (.addPlayer 1 (newPlayer 45 30)) ⟨by decide, rfl⟩⟩

theorem deaths_are_seen_iff_archer :
    (∀ w ∈ besideWeakArcher.aoiSystem.forEachWatcher 1000, besideWeakArcher.sessions w = true →
      besideWeakArcher.Tells (besideWeakArcher.step sortedConfig (.skill (some 1) 1000)) w
        (.aiStateEvent .monster 1000 .dead)) ↔
      ∀ w ∈ besideWeakArcher.aoiSystem.forEachWatcher 1000,
        besideWeakArcher.sessions w = false := by
  obtain ⟨l, r⟩ := run_besideWeakArcher
  obtain ⟨m, hm, halive, hkill⟩ : ∃ m ∈ besideWeakArcher.monsterWorld.monsters.find?
      (fun m => m.id = 1000), 0 < m.stats.hp ∧ m.stats.hp ≤ 10 := by decide +kernel
  exact FieldWorker.deaths_are_seen_iff sortedConfig true r 1 1000 m hm halive hkill

/-- **The player** kills the archer and is not told. -/
theorem deaths_are_seen_fails :
    (∃ l, Run (fieldSystem sortedConfig true) l besideWeakArcher) ∧
      1 ∈ besideWeakArcher.aoiSystem.forEachWatcher 1000 ∧ besideWeakArcher.sessions 1 = true ∧
      (∃ m ∈ besideWeakArcher.monsterWorld.monsters, m.id = 1000 ∧ 0 < m.stats.hp) ∧
      (∃ m ∈ (besideWeakArcher.step sortedConfig (.skill (some 1) 1000)).monsterWorld.monsters,
        m.id = 1000 ∧ m.stats.hp = 0) ∧
      ¬ besideWeakArcher.Tells (besideWeakArcher.step sortedConfig (.skill (some 1) 1000)) 1
        (.aiStateEvent .monster 1000 .dead) := by
  refine ⟨run_besideWeakArcher, by decide +kernel, by decide +kernel, by decide +kernel,
    by decide +kernel, ?_⟩
  obtain ⟨m, hm, hkill⟩ : ∃ m ∈ besideWeakArcher.monsterWorld.monsters.find?
      (fun m => m.id = 1000), m.stats.hp ≤ 10 := by decide +kernel
  obtain ⟨es, hlog, hes⟩ := FieldWorker.handleSkill_kill sortedConfig besideWeakArcher 1 hm hkill
  exact fun h => hes 1 .dead ((FieldWorker.tells_iff hlog _ _).mp h)

variable [Scalar K]

namespace FieldWorker

/-! ## The own row -/

variable {cfg : FieldConfig K} {fw : FieldWorker K} {ids : List EntityId}
  {players : Finset EntityId} {told : EntityId → Prop}

omit [Scalar K] in
theorem mark_aoiSystem (fw : FieldWorker K) (source : DirtySource) (pid : EntityId) :
    (((fw.writePlayerRtEnqueue pid).markDirty source pid).setLastDirtyMarkTime pid).aoiSystem =
      fw.aoiSystem := by
  show (fw.writePlayerRtEnqueue pid).aoiSystem = fw.aoiSystem
  unfold writePlayerRtEnqueue
  split <;> rfl

theorem lists_tickPlayer (h : fw.aoiSystem.Lists ids players told) (hplayers : fw.players = players)
    {pid : EntityId} (hpid : pid ∈ players) :
    (fw.tickPlayer cfg playerStep pid).aoiSystem.Lists ids players fun w =>
      told w ∨ (w = pid ∧ fw.Goes pid) := by
  unfold tickPlayer
  simp only
  split
  · rename_i hlate
    rw [show (markDirtyState _ pid).aoiSystem = _ from
      mark_aoiSystem _ .state pid, broadcastPlayerState,
      broadcastAiState, broadcast_eq, emit_aoiSystem]
    exact h.congr fun w _ => (or_iff_left fun hw => hw.2.2.2 hlate.2).symm
  · rename_i hlate
    split
    · rename_i hmoving
      refine h.congr fun w _ => (or_iff_left fun hw => ?_).symm
      rw [hw.2.2.1] at hmoving
      cases hmoving
    · rename_i hmoving
      have hmoving : (fw.player pid).moveState.moving = true := by simpa using hmoving
      have hgoes : fw.Goes pid := ⟨hplayers ▸ hpid, hmoving, fun ht => hlate ⟨hmoving, ht⟩⟩
      have hmoved : ∀ p pos, ((fw.setPlayer pid p).aoiMove cfg pid pos).aoiSystem.Lists ids players
          fun w => told w ∨ (w = pid ∧ fw.Goes pid) := fun p pos =>
        (show ((fw.setPlayer pid p).aoiMove cfg pid pos).aoiSystem.Lists ids players _ from
          h.move (.inl hpid) pos).congr fun w _ => by simp [hgoes]
      unfold markDirtyPosIfNeeded
      simp only
      split
      · exact hmoved _ _
      · split
        · exact hmoved _ _
        · rw [mark_aoiSystem]
          exact hmoved _ _

/-- A tick of another player does not matter. -/
theorem goes_tickPlayer (cfg : FieldConfig K) (fw : FieldWorker K) {pid w : EntityId}
    (hw : w ≠ pid) : (fw.tickPlayer cfg playerStep pid).Goes w ↔ fw.Goes w := by
  have hmotions := motions_tickPlayer cfg playerStep fw pid
  have hplayers : (fw.tickPlayer cfg playerStep pid).players = fw.players :=
    congrArg Motions.players hmotions
  have htime : (fw.tickPlayer cfg playerStep pid).worldTime = fw.worldTime :=
    congrArg Motions.worldTime hmotions
  have hmove : ((fw.tickPlayer cfg playerStep pid).player w).moveState =
      (fw.player w).moveState := by
    have := congrArg (fun ms => (ms.motion w).moveState) hmotions
    simpa [Motions.setMotion, hw] using this
  unfold Goes
  rw [hplayers, htime, hmove]

theorem lists_foldl (l : List EntityId) (hl : l.Nodup) (fw : FieldWorker K)
    (h : fw.aoiSystem.Lists ids players told) (hplayers : fw.players = players)
    (hmem : ∀ i ∈ l, i ∈ players) :
    (l.foldl (tickPlayer cfg playerStep) fw).aoiSystem.Lists ids players fun w =>
      told w ∨ (w ∈ l ∧ fw.Goes w) := by
  induction l generalizing fw told with
  | nil => exact h.congr fun w _ => by simp
  | cons i l ih =>
    obtain ⟨hi, hl⟩ := List.nodup_cons.mp hl
    rw [List.forall_mem_cons] at hmem
    have hplayers' : (fw.tickPlayer cfg playerStep i).players = players :=
      (congrArg Motions.players (motions_tickPlayer cfg playerStep fw i)).trans hplayers
    refine (ih hl _ (lists_tickPlayer h hplayers hmem.1) hplayers' hmem.2).congr fun w _ => ?_
    rw [or_assoc, List.mem_cons, or_and_right]
    refine or_congr Iff.rfl (or_congr ?_ (and_congr_right fun hw => ?_))
    · exact and_congr_right fun hw => by rw [hw]
    · exact goes_tickPlayer cfg fw fun hwi => hi (hwi ▸ hw)

/-- A tick of the players puts those that go on their own lists. -/
theorem lists_tickPlayers (h : fw.aoiSystem.Lists ids fw.players told) :
    (fw.tickPlayers cfg playerStep).aoiSystem.Lists ids fw.players fun w => told w ∨ fw.Goes w := by
  have hmem : ∀ w, w ∈ fw.playerIds cfg ↔ w ∈ fw.players :=
    (cfg.playerOrder fw.playersChanges).mem_iff fw.players
  refine (lists_foldl (fw.playerIds cfg) ((cfg.playerOrder _).nodup _) fw h rfl
    fun i hi => (hmem i).mp hi).congr fun w _ => or_congr Iff.rfl ?_
  exact ⟨fun hw => hw.2, fun hw => ⟨(hmem w).mpr hw.1, hw⟩⟩

/-- A player goes in a tick if it goes in the next one. -/
theorem Goes.of_tickPlayers {w : EntityId} {playerAcc : K}
    (h : ({ fw.tickPlayers cfg playerStep with playerAcc } : FieldWorker K).Goes w) :
    fw.Goes w := by
  obtain ⟨hin, hmoving, hlate⟩ := h
  have hmotions := motions_tickPlayers cfg playerStep fw
  have hplayers : (fw.tickPlayers cfg playerStep).players = fw.players :=
    congrArg Motions.players hmotions
  have htime : (fw.tickPlayers cfg playerStep).worldTime = fw.worldTime :=
    congrArg Motions.worldTime hmotions
  replace hin : w ∈ fw.players := hplayers ▸ hin
  have hmove : ((fw.tickPlayers cfg playerStep).player w).moveState =
      ((fw.player w).motion.tick fw.worldTime playerStep).moveState := by
    have := congrArg (fun ms => (ms.motion w).moveState) hmotions
    simpa [Motions.tick, hin] using this
  replace hmoving : ((fw.tickPlayers cfg playerStep).player w).moveState.moving = true := hmoving
  replace hlate : ¬ lit 0.5 < (fw.tickPlayers cfg playerStep).worldTime -
    ((fw.tickPlayers cfg playerStep).player w).moveState.lastInputTime := hlate
  rw [hmove] at hmoving hlate
  rw [htime] at hlate
  refine ⟨hin, ?_⟩
  unfold Motion.tick at hmoving hlate
  split at hmoving
  · cases hmoving
  · rename_i hstays
    rw [if_neg hstays] at hlate
    split at hmoving
    · rename_i hm
      exact ⟨hm, fun ht => hstays ⟨hm, ht⟩⟩
    · rename_i hm
      exact absurd hmoving hm

/-- So do the passes of the player loop, if there is one. -/
theorem lists_playerLoop (n : Nat) (fw : FieldWorker K)
    (h : fw.aoiSystem.Lists ids fw.players told) :
    (playerLoop cfg n fw).aoiSystem.Lists ids fw.players fun w =>
      told w ∨ (n ≠ 0 ∧ playerStep ≤ fw.playerAcc ∧ fw.Goes w) := by
  induction n generalizing fw told with
  | zero => exact h.congr fun w _ => by simp
  | succ n ih =>
    unfold playerLoop
    split
    · rename_i hacc
      have hplayers : (fw.tickPlayers cfg playerStep).players = fw.players :=
        congrArg Motions.players (motions_tickPlayers cfg playerStep fw)
      have hticked : (fw.tickPlayers cfg playerStep).aoiSystem.Lists ids fw.players _ :=
        lists_tickPlayers h
      rw [← hplayers] at hticked
      have hloop := ih { fw.tickPlayers cfg playerStep with
        playerAcc := (fw.tickPlayers cfg playerStep).playerAcc - playerStep } hticked
      rw [show ({ fw.tickPlayers cfg playerStep with
        playerAcc := (fw.tickPlayers cfg playerStep).playerAcc - playerStep } :
          FieldWorker K).players = fw.players from hplayers] at hloop
      refine hloop.congr fun w _ => ?_
      rw [or_assoc]
      refine or_congr Iff.rfl ⟨?_, fun hw => .inl hw.2.2⟩
      rintro (hw | ⟨-, -, hw⟩)
      · exact ⟨n.succ_ne_zero, hacc, hw⟩
      · exact ⟨n.succ_ne_zero, hacc, hw.of_tickPlayers⟩
    · rename_i hacc
      exact h.congr fun w _ => (or_iff_left fun hw => hacc hw.2.1).symm

/-- The own rows, and what stays the same while the monsters are at work. -/
structure OwnRows (ids : List EntityId) (ms : Motions K) (told : EntityId → Prop)
    (fw : FieldWorker K) : Prop where
  lists : fw.aoiSystem.Lists ids ms.players told
  motions : fw.motions = ms
  monsterIds : fw.monsterIds = ids

/-- The monsters put no player on its own list and take none off it. -/
theorem env_ownRows (cfg : FieldConfig K) (ids : List EntityId) (ms : Motions K)
    (told : EntityId → Prop) : (env cfg).Keeps (· ∈ ids) (OwnRows ids ms told) where
  toQuiet := env_quiet cfg (fun fw w packet _ h => ⟨h.lists, h.motions, h.monsterIds⟩)
    (fun fw _ _ hpos hmove h =>
      ⟨h.lists, (motions_setPlayer_of_eq fw hpos hmove).trans h.motions, h.monsterIds⟩)
    fun _ _ h => ⟨h.lists, h.motions, h.monsterIds⟩
  moveInAoi fw mid x y hmid h := by
    have hmoved : (fw.aoiMove cfg mid ⟨x, y⟩).aoiSystem.Lists ids ms.players _ :=
      h.lists.move (.inr hmid) ⟨x, y⟩
    refine ⟨hmoved.congr fun w hw => ?_, h.motions, h.monsterIds⟩
    exact or_iff_left fun hwm => hw (hwm ▸ hmid)
  spawnInAoi fw mid x y hmid h :=
    ⟨(h.lists.remove_other hmid).add_other hmid ⟨x, y⟩, h.motions, h.monsterIds⟩
  removeFromAoi fw mid hmid h := ⟨h.lists.remove_other hmid, h.motions, h.monsterIds⟩

/-! ## Ticks of the monsters -/

/-- In the step, `CombatSystem::update` calls `attack_player` for the
monster and the player, when the worker is in state `fw'`. -/
def Attacks (cfg : FieldConfig K) (fw : FieldWorker K) (a : FieldAction K) (fw' : FieldWorker K)
    (m : Monster K) (pid : EntityId) : Prop :=
  ∃ policy dt, a = .updateWorld policy dt ∧ ∃ tick ∈ fw.ticksOf cfg a,
    (fw', m) ∈ tick.monsterWorld.combatPasses (env cfg) policy monsterStep tick ∧
      CombatSystem.attackCall (env cfg) monsterStep fw' m = some pid

theorem OwnRows.tickMonsters {ms : Motions K} (h : fw.OwnRows ids ms told)
    (policy : List K → Fin 5 → K) :
    (fw.tickMonsters cfg policy monsterStep).OwnRows ids ms told := by
  have hmonsters : ∀ i ∈ fw.monsterWorld.monsters.map Monster.id, i ∈ ids :=
    fun i hi => h.monsterIds ▸ hi
  have hticked := (env_ownRows cfg ids ms told).update policy monsterStep hmonsters h
  refine ⟨hticked.lists, hticked.motions, ?_⟩
  exact (MonsterWorld.update_ids (env cfg) policy monsterStep fw.monsterWorld fw).trans h.monsterIds

theorem OwnRows.monsterLoop {ms : Motions K} (h : fw.OwnRows ids ms told)
    (policy : List K → Fin 5 → K) (n : Nat) :
    (monsterLoop cfg policy n fw).OwnRows ids ms told := by
  induction n generalizing fw with
  | zero => exact h
  | succ n ih =>
    unfold FieldWorker.monsterLoop
    split
    · have hticked : (fw.tickMonsters cfg policy monsterStep).OwnRows ids ms told :=
        h.tickMonsters policy
      exact ih ⟨hticked.lists, hticked.motions, hticked.monsterIds⟩
    · exact h

theorem OwnRows.monsterTicks {ms : Motions K} (h : fw.OwnRows ids ms told)
    (policy : List K → Fin 5 → K) (n : Nat) :
    ∀ tick ∈ monsterTicks cfg policy n fw, tick.OwnRows ids ms told := by
  induction n generalizing fw with
  | zero => exact fun _ htick => absurd htick List.not_mem_nil
  | succ n ih =>
    unfold FieldWorker.monsterTicks
    split
    · have hticked : (fw.tickMonsters cfg policy monsterStep).OwnRows ids ms told :=
        h.tickMonsters policy
      rw [List.forall_mem_cons]
      exact ⟨h, ih ⟨hticked.lists, hticked.motions, hticked.monsterIds⟩⟩
    · exact fun _ htick => absurd htick List.not_mem_nil

/-! ## Runs -/

theorem playerLoop_monsterIds (cfg : FieldConfig K) (n : Nat) (fw : FieldWorker K) :
    (playerLoop cfg n fw).monsterIds = fw.monsterIds := by
  have hids : Stable cfg fun fw' : FieldWorker K => fw'.monsterIds = fw.monsterIds := by
    refine ⟨fun _ _ _ h => h, fun _ _ _ _ h => h, fun fw' pid st h => ?_,
      fun fw' source pid h => ?_, fun _ _ _ h => h⟩
    · rw [broadcastPlayerState, broadcastAiState, broadcast_eq]
      exact h
    · unfold writePlayerRtEnqueue
      split <;> exact h
  exact playerLoop_keeps hids.setClocks (fun _ h => hids.tickPlayers playerStep h) n rfl

/-- The player loop of a step puts those it moves on their own lists. -/
theorem OwnRows.playersTicked (h : fw.OwnRows ids fw.motions told) (policy : List K → Fin 5 → K)
    {dt : K} (hdt : ¬ dt ≤ lit 0) :
    (fw.playersTicked cfg dt).OwnRows ids (fw.motions.frame dt) fun w =>
      told w ∨ (FieldAction.updateWorld policy dt).Moves fw w := by
  let fw₁ := { fw with worldTime := fw.worldTime + dt, playerAcc := fw.playerAcc + dt }
  have hmotions : (playerLoop cfg 5 fw₁).motions = fw.motions.frame dt := by
    rw [motions_playerLoop, Motions.frame, if_neg hdt]
    rfl
  have hplayers : (fw.motions.frame dt).players = fw₁.players :=
    Motions.frame_players dt fw.motions
  refine ⟨?_, hmotions, (playerLoop_monsterIds cfg 5 fw₁).trans h.monsterIds⟩
  rw [hplayers]
  refine FieldAoiSystem.Lists.congr (lists_playerLoop 5 fw₁ h.lists) fun w _ => or_congr Iff.rfl ?_
  exact ⟨fun hw => ⟨hdt, hw.2⟩, fun hw => ⟨by decide, hw.2⟩⟩

theorem mem_players_step (cfg : FieldConfig K) (fw : FieldWorker K) (a : FieldAction K)
    (w : EntityId) : w ∈ (fw.step cfg a).players ↔
      (w ∈ fw.players ∧ a ≠ .removePlayer w) ∨ ∃ p, a = .addPlayer w p := by
  rw [show (fw.step cfg a).players = (fw.motions.step a).players from
    congrArg Motions.players (step_motions cfg fw a)]
  cases a with
  | addPlayer pid p =>
    simp [Motions.step, or_comm, eq_comm]
  | removePlayer pid =>
    simp [Motions.step, and_comm, eq_comm]
  | moveInput session entityId dir =>
    have hplayers : (fw.motions.step (.moveInput session entityId dir)).players = fw.players := by
      simp only [Motions.step]
      split <;> rfl
    simp [hplayers]
  | updateWorld policy dt =>
    have hplayers : (fw.motions.step (.updateWorld policy dt)).players = fw.players :=
      Motions.frame_players dt fw.motions
    simp [hplayers]
  | skill session targetId => simp [Motions.step]
  | setSession pid online => simp [Motions.step]
  | setRegistered pid registered => simp [Motions.step]

theorem onClientMoveInput_aoiSystem (fw : FieldWorker K) (session : Option EntityId)
    (entityId : EntityId) (dir : Option (Vec2 K)) :
    (fw.onClientMoveInput session entityId dir).aoiSystem = fw.aoiSystem ∧
      (fw.onClientMoveInput session entityId dir).monsterIds = fw.monsterIds := by
  have hcast : ∀ (p : Player K) st,
      ((fw.setPlayer entityId p).broadcastPlayerState entityId st).aoiSystem = fw.aoiSystem ∧
        ((fw.setPlayer entityId p).broadcastPlayerState entityId st).monsterIds =
          fw.monsterIds := by
    intro p st
    rw [broadcastPlayerState, broadcastAiState, broadcast_eq]
    exact ⟨rfl, rfl⟩
  unfold onClientMoveInput
  split
  · exact ⟨rfl, rfl⟩
  split
  · exact ⟨rfl, rfl⟩
  cases dir with
  | none => exact ⟨rfl, rfl⟩
  | some d =>
    simp only
    split
    · split
      · exact ⟨rfl, rfl⟩
      · exact hcast _ _
    · split
      · exact ⟨rfl, rfl⟩
      · exact hcast _ _

theorem OwnRows.handleSkill {ms : Motions K} (h : fw.OwnRows ids ms told)
    (session : Option EntityId) (targetId : EntityId) :
    (fw.handleSkill cfg session targetId).OwnRows ids ms told := by
  have hcast : ∀ (fw : FieldWorker K) id packet, fw.OwnRows ids ms told →
      (fw.broadcast id packet).OwnRows ids ms told := by
    intro fw id packet h
    rw [broadcast_eq]
    exact ⟨h.lists, h.motions, h.monsterIds⟩
  cases session with
  | none => exact h
  | some pid =>
    have hfirst : (fw.broadcastPlayerState pid .attack).OwnRows ids ms told := hcast fw _ _ h
    have hattack := (env_ownRows cfg ids ms told).playerAttackMonster targetId
      (fw.broadcastPlayerState pid .attack).monsterWorld.monsters
      (fun i hi => hfirst.monsterIds ▸ hi) hfirst
    have hids := MonsterWorld.playerAttackMonster_ids (env cfg) targetId
      (fw.broadcastPlayerState pid .attack).monsterWorld.monsters
      (fw.broadcastPlayerState pid .attack)
    unfold FieldWorker.handleSkill
    simp only
    split
    · exact hcast _ _ _ ⟨hattack.lists, hattack.motions, hids.trans hfirst.monsterIds⟩
    · exact ⟨hattack.lists, hattack.motions, hids.trans hfirst.monsterIds⟩

/-- **One step**: a player comes onto its own list by moving, or by being
added under the id 0, and is taken off when it is removed. -/
theorem OwnRows.step (h : fw.OwnRows ids fw.motions told) {a : FieldAction K} (hsane : a.Sane fw) :
    (fw.step cfg a).OwnRows ids (fw.step cfg a).motions fun w =>
      (a ≠ .removePlayer w ∧ (told w ∨ a.Moves fw w)) ∨ (w = 0 ∧ ∃ p, a = .addPlayer w p) := by
  cases a with
  | addPlayer pid p =>
    obtain ⟨es, hadd, -⟩ := addPlayer_sends cfg fw pid p
    obtain ⟨hplayers, hids, -⟩ := addPlayer_frame cfg fw pid p
    have hlists : (fw.addPlayer cfg pid p).aoiSystem.Lists ids (insert pid fw.players)
        fun w => told w ∨ (w = pid ∧ w = 0) := by
      rw [hadd]
      exact h.lists.add (h.monsterIds ▸ hsane) p.pos
    refine ⟨?_, rfl, hids.trans h.monsterIds⟩
    rw [show (fw.step cfg (.addPlayer pid p)).motions.players = _ from hplayers]
    refine hlists.congr fun w _ => ?_
    simp [FieldAction.Moves, and_comm, eq_comm]
  | removePlayer pid =>
    have hlists : (fw.removePlayer cfg pid).aoiSystem.Lists ids (fw.players.erase pid)
        fun w => told w ∧ w ≠ pid := h.lists.remove pid
    refine ⟨hlists.congr fun w _ => ?_, rfl, h.monsterIds⟩
    simp [FieldAction.Moves, and_comm, eq_comm]
  | moveInput session entityId dir =>
    obtain ⟨haoi, hids⟩ := onClientMoveInput_aoiSystem fw session entityId dir
    have hplayers : (fw.onClientMoveInput session entityId dir).players = fw.players := by
      ext w
      have hmem := mem_players_step cfg fw (.moveInput session entityId dir) w
      simp only [ne_eq, reduceCtorEq, not_false_eq_true, and_true, exists_false, or_false] at hmem
      exact hmem
    refine ⟨?_, rfl, hids.trans h.monsterIds⟩
    show (fw.onClientMoveInput session entityId dir).aoiSystem.Lists ids
      (fw.onClientMoveInput session entityId dir).players _
    rw [haoi, hplayers]
    exact h.lists.congr fun w _ => by simp [FieldAction.Moves]
  | skill session targetId =>
    have hskill : (fw.handleSkill cfg session targetId).OwnRows ids fw.motions told :=
      h.handleSkill session targetId
    refine ⟨?_, rfl, hskill.monsterIds⟩
    rw [show (fw.step cfg (.skill session targetId)).motions = fw.motions from hskill.motions]
    exact hskill.lists.congr fun w _ => by simp [FieldAction.Moves]
  | updateWorld policy dt =>
    by_cases hdt : dt ≤ lit 0
    · have hstep : fw.step cfg (.updateWorld policy dt) = fw := if_pos hdt
      rw [hstep]
      exact ⟨h.lists.congr fun w _ => by simp [FieldAction.Moves, hdt], rfl, h.monsterIds⟩
    · have hloop : (fw.step cfg (.updateWorld policy dt)).OwnRows ids (fw.motions.frame dt)
          fun w => told w ∨ (FieldAction.updateWorld policy dt).Moves fw w := by
        rw [show fw.step cfg (.updateWorld policy dt) = _ from
          (updateWorld_eq cfg policy dt fw).trans (if_neg hdt)]
        exact (h.playersTicked policy hdt).monsterLoop policy 3
      refine ⟨?_, rfl, hloop.monsterIds⟩
      rw [hloop.motions]
      exact hloop.lists.congr fun w _ => by simp
  | setSession pid online =>
    exact ⟨h.lists.congr fun w _ => by simp [FieldAction.Moves], rfl, h.monsterIds⟩
  | setRegistered pid registered =>
    exact ⟨h.lists.congr fun w _ => by simp [FieldAction.Moves], rfl, h.monsterIds⟩

/-- The monsters of a constructed worker are the only ones with rows. -/
theorem construct_ownRows (cfg : FieldConfig K) (player : EntityId → Player K)
    (redisRtWriter : Bool) (spawns : List (MonsterSpawn K)) :
    (construct cfg player redisRtWriter spawns).OwnRows (spawns.map MonsterSpawn.id)
      (construct cfg player redisRtWriter spawns).motions fun _ => False := by
  have hids : ∀ (l : List (MonsterSpawn K)) (fw : FieldWorker K),
      (l.foldl (spawn cfg) fw).monsterIds = fw.monsterIds ++ l.map MonsterSpawn.id := by
    intro l
    induction l with
    | nil => exact fun fw => (List.append_nil _).symm
    | cons sp l ih =>
      intro fw
      rw [List.foldl_cons, ih, spawn_monsterIds, List.append_assoc, List.map_cons,
        List.singleton_append]
  refine ⟨?_, rfl, hids spawns _⟩
  rw [motions_construct]
  have hspawned : ∀ fw : FieldWorker K,
      fw.aoiSystem.Lists (spawns.map MonsterSpawn.id) ∅ (fun _ => False) →
      (spawns.foldl (spawn cfg) fw).aoiSystem.Lists (spawns.map MonsterSpawn.id) ∅
        fun _ => False :=
    fun fw h => List.foldlRecOn (motive := fun fw : FieldWorker K =>
      fw.aoiSystem.Lists (spawns.map MonsterSpawn.id) ∅ fun _ => False) spawns (spawn cfg) h
      fun fw h sp hsp => h.add_other (List.mem_map_of_mem hsp) _
  have hstart := hspawned {
      player, redisRtWriter, worldTime := lit 0, playerAcc := lit 0, monsterAcc := lit 0
      aoiSystem := ({} : FieldAoiSystem (Vec2 K)).setSendFunc }
    ⟨rfl, nofun, nofun, nofun, fun v _ => by
      simp [FieldAoiSystem.setSendFunc, FieldAoiSystem.forEachWatcher]⟩
  exact ⟨hstart.sendCb, hstart.keyed, hstart.registered, hstart.apart, hstart.own⟩

/-- **The own rows in every run**: the players on their own lists are those
that have moved since they were last removed, and the player 0. -/
theorem fieldSystem_ownRows {cfg : FieldConfig K} {redisRtWriter : Bool}
    {l : List (FieldWorker K × FieldAction K)} {fw : FieldWorker K}
    (r : Run (fieldSystem cfg redisRtWriter) l fw) :
    fw.OwnRows fw.monsterIds fw.motions fun w =>
      (w ∈ fw.players ∧ w = 0) ∨ HasMoved (· = .removePlayer w) w l := by
  induction r with
  | start h =>
    obtain ⟨player, spawns, -, rfl⟩ := h
    have hrows := construct_ownRows cfg player redisRtWriter spawns
    obtain ⟨-, hplayers, -⟩ := construct_start cfg player redisRtWriter spawns
    rw [hrows.monsterIds]
    exact ⟨hrows.lists.congr fun w _ => by simp [hplayers, HasMoved], rfl, hrows.monsterIds⟩
  | step r h ih =>
    obtain ⟨hsane, rfl⟩ := h
    have hrows : OwnRows _ _ _ (FieldWorker.step cfg _ _) := ih.step hsane
    rw [hrows.monsterIds]
    refine ⟨hrows.lists.congr fun w _ => ?_, rfl, hrows.monsterIds⟩
    rw [mem_players_step, HasMoved]
    tauto

/-- When a step comes to an attack, the attacked player is on its own list
if and only if it has moved, up to this step. -/
theorem attacks_ownRow {cfg : FieldConfig K} {redisRtWriter : Bool}
    {l : List (FieldWorker K × FieldAction K)} {fw : FieldWorker K}
    (r : Run (fieldSystem cfg redisRtWriter) l fw) {a : FieldAction K} {fw' : FieldWorker K}
    {m : Monster K} {pid : EntityId} (hattack : fw.Attacks cfg a fw' m pid)
    (hpid : pid ∈ fw'.players) : pid ∈ fw'.aoiSystem.forEachWatcher pid ↔
      pid = 0 ∨ HasMoved (· = .removePlayer pid) pid ((fw, a) :: l) := by
  obtain ⟨policy, dt, rfl, tick, htick, hpass, -⟩ := hattack
  have hdt : ¬ dt ≤ lit 0 := fun hdt => by
    rw [ticksOf, if_pos hdt] at htick
    cases htick
  rw [ticksOf, if_neg hdt] at htick
  have hrows : tick.OwnRows _ _ _ :=
    ((fieldSystem_ownRows r).playersTicked policy hdt).monsterTicks policy 3 tick htick
  have hat := (env_ownRows cfg _ _ _).combatPasses_of_ids policy monsterStep
    (fun i hi => hrows.monsterIds ▸ hi) hrows _ hpass
  have hplayers : fw'.players = fw.players :=
    (congrArg Motions.players hat.motions).trans (Motions.frame_players dt fw.motions)
  rw [hplayers] at hpid
  have hin : pid ∈ (fw.motions.frame dt).players := by
    rw [Motions.frame_players]
    exact hpid
  rw [hat.lists.own pid (hat.lists.apart pid hin), HasMoved]
  simp only [hpid, true_and, reduceCtorEq, not_false_eq_true]
  tauto

/-- A player's hp are set and marked: nothing is sent. -/
theorem setPlayerStats_mark (cfg : FieldConfig K) (fw : FieldWorker K) {pid : EntityId}
    (hreg : fw.registered pid = true) (hp sp : Int) :
    ∃ now, ((env cfg).markPlayerDirty ((env cfg).setPlayerStats fw pid hp sp) pid).log =
        fw.log ++ [.markDirty .combat now] ∧
      ((env cfg).markPlayerDirty ((env cfg).setPlayerStats fw pid hp sp) pid).aoiSystem =
        fw.aoiSystem ∧
      ((env cfg).markPlayerDirty ((env cfg).setPlayerStats fw pid hp sp) pid).sessions =
        fw.sessions ∧
      (((env cfg).markPlayerDirty ((env cfg).setPlayerStats fw pid hp sp) pid).player pid).stat =
        ((fw.player pid).stat.setHp hp).setSp sp := by
  have hset : (env cfg).setPlayerStats fw pid hp sp = fw.setPlayer pid
      { fw.player pid with stat := ((fw.player pid).stat.setHp hp).setSp sp } := if_pos hreg
  rw [hset]
  simp only [env]
  split
  · refine ⟨_, rfl, rfl, rfl, ?_⟩
    simp [markDirty, emit, setLastDirtyMarkTime, setPlayer]
  · refine ⟨_, rfl, rfl, rfl, ?_⟩
    simp [markDirty, emit, setPlayer]

/-- A hit is told to the player, by a packet that is not about its stats. -/
theorem broadcastCombat_sends (cfg : FieldConfig K) (fw : FieldWorker K) (mid pid : EntityId)
    (atk hp : Int) :
    ∃ es, (env cfg).broadcastCombat fw mid pid atk hp = fw.emit es ∧
      ∀ e ∈ es, ∃ w hp', e = .send w (.combatEvent .monster mid .player pid atk hp') := by
  simp only [env]
  split
  · rw [sendTo_eq]
    refine ⟨_, rfl, fun e he => ?_⟩
    split at he
    · exact ⟨_, _, List.mem_singleton.mp he⟩
    · cases he
  · exact ⟨[], (emit_nil fw).symm, fun e he => absurd he List.not_mem_nil⟩

/-- So is its death, to its list. -/
theorem deathOf_sends (cfg : FieldConfig K) (fw : FieldWorker K) (pid : EntityId) (hp : Int) :
    ∃ es, (if hp ≤ 0 then (env cfg).broadcastPlayerState fw pid .dead else fw) = fw.emit es ∧
      ∀ e ∈ es, ∃ w state, e = .send w (.aiStateEvent .player pid state) := by
  split
  · refine ⟨_, broadcast_eq fw pid _, fun e he => ?_⟩
    obtain ⟨w, -, rfl⟩ := List.mem_map.mp he
    exact ⟨w, _, rfl⟩
  · exact ⟨[], (emit_nil fw).symm, fun e he => absurd he List.not_mem_nil⟩

/-- **What an attack that changes a player's hp tells**: its stats to
everyone on the player's list with a session, with the hp before `set_hp`
has clamped them. -/
theorem attackPlayer_told (cfg : FieldConfig K) (fw : FieldWorker K) (mid : EntityId)
    {pid : EntityId} (atk : Int) (hreg : fw.registered pid = true) {st : PlayerStat}
    (hst : (fw.player pid).stat = st) (hnew : Max.max 0 (st.hp - atk) ≠ st.hp) :
    ∃ es, (CombatSystem.attackPlayer (env cfg) fw mid pid atk).log = fw.log ++ es ∧
      (∀ w hp maxHp sp maxSp, Effect.send w (.statEvent .player pid hp maxHp sp maxSp) ∈ es ↔
        (w ∈ fw.aoiSystem.forEachWatcher pid ∧ fw.sessions w = true) ∧
          (Max.max 0 (st.hp - atk), st.maxHp, st.sp, st.maxSp) = (hp, maxHp, sp, maxSp)) ∧
      ((CombatSystem.attackPlayer (env cfg) fw mid pid atk).player pid).stat =
        (st.setHp (Max.max 0 (st.hp - atk))).setSp st.sp := by
  have hstats : (env cfg).getPlayerStats fw pid = some (st.hp, st.maxHp, st.sp, st.maxSp) := by
    rw [← hst]
    exact if_pos hreg
  obtain ⟨now, hlog, haoi, hsessions, hstat⟩ :=
    setPlayerStats_mark cfg fw hreg (Max.max 0 (st.hp - atk)) st.sp
  rw [CombatSystem.attackPlayer_eq mid atk hstats, if_neg hnew]
  simp only
  generalize Max.max 0 (st.hp - atk) = newHp at *
  generalize (env cfg).markPlayerDirty ((env cfg).setPlayerStats fw pid newHp st.sp) pid = fw₁ at *
  -- the hit is told to the player, the stats to its list, its death to its list
  obtain ⟨es₁, hes₁, hcombat⟩ := broadcastCombat_sends cfg fw₁ mid pid atk newHp
  have hes₂ : (env cfg).broadcastPlayerStat (fw₁.emit es₁) pid newHp st.maxHp st.sp st.maxSp =
      fw₁.emit (es₁ ++ ((fw.aoiSystem.forEachWatcher pid).filter fw.sessions).map
        fun w => .send w (.statEvent .player pid newHp st.maxHp st.sp st.maxSp)) := by
    show (fw₁.emit es₁).broadcast pid _ = _
    rw [broadcast_eq, emit_emit, emit_aoiSystem, emit_sessions, haoi, hsessions]
  rw [hes₁, hes₂]
  obtain ⟨es₃, hes₃, hstate⟩ := deathOf_sends cfg (fw₁.emit (es₁ ++
    ((fw.aoiSystem.forEachWatcher pid).filter fw.sessions).map
      fun w => .send w (.statEvent .player pid newHp st.maxHp st.sp st.maxSp))) pid newHp
  rw [hes₃, emit_emit]
  refine ⟨.markDirty .combat now :: (es₁ ++ ((fw.aoiSystem.forEachWatcher pid).filter
    fw.sessions).map (fun w => .send w (.statEvent .player pid newHp st.maxHp st.sp st.maxSp)) ++
      es₃), ?_, ?_, ?_⟩
  · rw [emit_log, hlog, List.append_assoc, List.singleton_append]
  · intro w hp maxHp sp maxSp
    have h₁ : Effect.send w (.statEvent .player pid hp maxHp sp maxSp) ∉ es₁ := fun hmem => by
      obtain ⟨_, _, he⟩ := hcombat _ hmem
      cases he
    have h₃ : Effect.send w (.statEvent .player pid hp maxHp sp maxSp) ∉ es₃ := fun hmem => by
      obtain ⟨_, _, he⟩ := hstate _ hmem
      cases he
    simp only [List.mem_cons, reduceCtorEq, false_or, List.mem_append, h₁, h₃, or_false,
      List.mem_map, List.mem_filter, Prod.mk.injEq]
    constructor
    · rintro ⟨w', hw', he⟩
      cases he
      exact ⟨hw', rfl, rfl, rfl, rfl⟩
    · rintro ⟨hw, rfl, rfl, rfl, rfl⟩
      exact ⟨w, hw, rfl⟩
  · rw [← hst]
    exact hst ▸ hstat

/-- An attack that changes the hp in the end has changed them before
`set_hp` clamps. -/
theorem attackPlayer_changed (cfg : FieldConfig K) (fw : FieldWorker K) (mid : EntityId)
    {pid : EntityId} (atk : Int)
    (hchanged : ((CombatSystem.attackPlayer (env cfg) fw mid pid atk).player pid).stat.hp ≠
      (fw.player pid).stat.hp) : fw.registered pid = true ∧
      Max.max 0 ((fw.player pid).stat.hp - atk) ≠ (fw.player pid).stat.hp := by
  have hreg : fw.registered pid = true := by
    by_contra hreg
    have hnone : (env cfg).getPlayerStats fw pid = none := if_neg hreg
    exact hchanged (by simp [CombatSystem.attackPlayer, hnone])
  refine ⟨hreg, fun hsame => hchanged ?_⟩
  have hstats : (env cfg).getPlayerStats fw pid = some ((fw.player pid).stat.hp,
      (fw.player pid).stat.maxHp, (fw.player pid).stat.sp, (fw.player pid).stat.maxSp) :=
    if_pos hreg
  rw [CombatSystem.attackPlayer_eq mid atk hstats, if_pos hsame]
  simp only [env]
  split
  · rw [sendTo_eq]
    rfl
  · rfl

/-- What `set_hp` makes of the hp left by an attack. -/
theorem setHp_eq_iff (st : PlayerStat) (atk : Int) :
    ((st.setHp (Max.max 0 (st.hp - atk))).setSp st.sp).hp = Max.max 0 (st.hp - atk) ↔
      st.hp - atk ≤ Max.max 0 st.maxHp := by
  show (if (if st.maxHp < Max.max 0 (st.hp - atk) then st.maxHp else Max.max 0 (st.hp - atk)) < 0
    then 0 else if st.maxHp < Max.max 0 (st.hp - atk) then st.maxHp
      else Max.max 0 (st.hp - atk)) = _ ↔ _
  split <;> split <;> omega

/-- **When a player learns of its own hp.** In every run, at every call of
`attack_player` that changes the hp of a player of the field with a
session: a stat event with the new hp is sent to it if and only if it has
moved since it last entered, or has the id 0, and the hp it is left with
are within its maximum. -/
theorem own_hp_is_told_iff (cfg : FieldConfig K) (redisRtWriter : Bool)
    {l : List (FieldWorker K × FieldAction K)} {fw : FieldWorker K}
    (r : Run (fieldSystem cfg redisRtWriter) l fw) (a : FieldAction K) (fw' : FieldWorker K)
    (m : Monster K) (pid : EntityId) (hattack : fw.Attacks cfg a fw' m pid)
    (hpid : pid ∈ fw'.players) (hsession : fw'.sessions pid = true)
    (hchanged : ((CombatSystem.attackPlayer (env cfg) fw' m.id pid m.stats.atk).player
      pid).stat.hp ≠ (fw'.player pid).stat.hp) :
    (∃ maxHp sp maxSp, fw'.Tells (CombatSystem.attackPlayer (env cfg) fw' m.id pid m.stats.atk) pid
      (.statEvent .player pid ((CombatSystem.attackPlayer (env cfg) fw' m.id pid
        m.stats.atk).player pid).stat.hp maxHp sp maxSp)) ↔
      (pid = 0 ∨ HasMoved (· = .removePlayer pid) pid ((fw, a) :: l)) ∧
        (fw'.player pid).stat.hp - m.stats.atk ≤ Max.max 0 (fw'.player pid).stat.maxHp := by
  obtain ⟨hreg, hnew⟩ := attackPlayer_changed cfg fw' m.id m.stats.atk hchanged
  obtain ⟨es, hlog, htold, hstat⟩ := attackPlayer_told cfg fw' m.id m.stats.atk hreg rfl hnew
  rw [hstat, ← attacks_ownRow r hattack hpid, ← setHp_eq_iff]
  constructor
  · rintro ⟨maxHp, sp, maxSp, htells⟩
    obtain ⟨⟨hin, -⟩, heq⟩ := (htold _ _ _ _ _).mp ((tells_iff hlog _ _).mp htells)
    exact ⟨hin, (Prod.mk.inj heq).1.symm⟩
  · rintro ⟨hin, heq⟩
    refine ⟨(fw'.player pid).stat.maxHp, (fw'.player pid).stat.sp, (fw'.player pid).stat.maxSp, ?_⟩
    rw [tells_iff hlog, htold, heq]
    exact ⟨⟨hin, hsession⟩, rfl⟩

end FieldWorker

/-- A tick of 0.3 s. -/
def frame : FieldAction ℚ := .updateWorld (fun _ _ => 0) (3 / 10)

/-- A player with a session has entered beside the archer and waits until
the archer is about to shoot. -/
def watched : FieldWorker ℚ :=
  [.setRegistered 1 true, .setSession 1 true, .addPlayer 1 (newPlayer 45 30), frame, frame,
    frame].foldl (FieldWorker.step sortedConfig) besideArcher

theorem run_watched : ∃ l, Run (fieldSystem sortedConfig true) l watched :=
  ⟨_, (((((run_besideArcher.next (.setRegistered 1 true) ⟨trivial, rfl⟩).next (.setSession 1 true)
    ⟨trivial, rfl⟩).next (.addPlayer 1 (newPlayer 45 30)) ⟨by decide, rfl⟩).next frame
    ⟨trivial, rfl⟩).next frame ⟨trivial, rfl⟩).next frame ⟨trivial, rfl⟩⟩

/-- It starts to walk: it is shot and told. -/
theorem own_hp_is_told_iff_walking :
    ∃ l fw fw' m, Run (fieldSystem sortedConfig true) l fw ∧
      fw.Attacks sortedConfig frame fw' m 1 ∧ ∃ hp maxHp sp maxSp,
        fw'.Tells (CombatSystem.attackPlayer (FieldWorker.env sortedConfig) fw' m.id 1 m.stats.atk)
          1 (.statEvent .player 1 hp maxHp sp maxSp) := by
  obtain ⟨l, r⟩ := run_watched
  have r' := r.next (.moveInput (some 1) 1 (some ⟨0, 1⟩)) ⟨trivial, rfl⟩
  obtain ⟨tick, htick, v, hv, hcall, hpid, hsession, hchanged, hle⟩ :
      ∃ tick ∈ (watched.step sortedConfig (.moveInput (some 1) 1 (some ⟨0, 1⟩))).ticksOf
        sortedConfig frame,
      ∃ v ∈ tick.monsterWorld.combatPasses (FieldWorker.env sortedConfig) (fun _ _ => 0)
        monsterStep tick,
      CombatSystem.attackCall (FieldWorker.env sortedConfig) monsterStep v.1 v.2 = some 1 ∧
      1 ∈ v.1.players ∧ v.1.sessions 1 = true ∧
      ((CombatSystem.attackPlayer (FieldWorker.env sortedConfig) v.1 v.2.id 1
        v.2.stats.atk).player 1).stat.hp ≠ (v.1.player 1).stat.hp ∧
      (v.1.player 1).stat.hp - v.2.stats.atk ≤ Max.max 0 (v.1.player 1).stat.maxHp := by
    decide +kernel
  have hattack : FieldWorker.Attacks sortedConfig _ frame v.1 v.2 1 :=
    ⟨_, _, rfl, tick, htick, hv, hcall⟩
  refine ⟨_, _, v.1, v.2, r', hattack, _, (FieldWorker.own_hp_is_told_iff sortedConfig true r' frame
    v.1 v.2 1 hattack hpid hsession hchanged).mpr ⟨.inr ⟨nofun, .inl ?_⟩, hle⟩⟩
  show ¬ (3 / 10 : ℚ) ≤ lit 0 ∧ _ ∧ FieldWorker.Goes _ _
  decide +kernel

/-- It stands still: it is shot and not told. -/
theorem own_hp_is_told_fails :
    ∃ l fw' m, Run (fieldSystem sortedConfig true) l watched ∧
      watched.Attacks sortedConfig frame fw' m 1 ∧ 1 ∈ fw'.players ∧ fw'.sessions 1 = true ∧
      ((CombatSystem.attackPlayer (FieldWorker.env sortedConfig) fw' m.id 1
        m.stats.atk).player 1).stat.hp ≠ (fw'.player 1).stat.hp ∧
      ∀ hp maxHp sp maxSp, ¬ fw'.Tells (CombatSystem.attackPlayer (FieldWorker.env sortedConfig)
        fw' m.id 1 m.stats.atk) 1 (.statEvent .player 1 hp maxHp sp maxSp) := by
  obtain ⟨l, r⟩ := run_watched
  obtain ⟨tick, htick, v, hv, hcall, hpid, hsession, hchanged, hrow⟩ :
      ∃ tick ∈ watched.ticksOf sortedConfig frame,
      ∃ v ∈ tick.monsterWorld.combatPasses (FieldWorker.env sortedConfig) (fun _ _ => 0)
        monsterStep tick,
      CombatSystem.attackCall (FieldWorker.env sortedConfig) monsterStep v.1 v.2 = some 1 ∧
      1 ∈ v.1.players ∧ v.1.sessions 1 = true ∧
      ((CombatSystem.attackPlayer (FieldWorker.env sortedConfig) v.1 v.2.id 1
        v.2.stats.atk).player 1).stat.hp ≠ (v.1.player 1).stat.hp ∧
      1 ∉ v.1.aoiSystem.forEachWatcher 1 := by
    decide +kernel
  refine ⟨l, v.1, v.2, r, ⟨_, _, rfl, tick, htick, hv, hcall⟩, hpid, hsession, hchanged, ?_⟩
  obtain ⟨hreg, hnew⟩ := FieldWorker.attackPlayer_changed sortedConfig v.1 v.2.id _ hchanged
  obtain ⟨es, hlog, htold, -⟩ :=
    FieldWorker.attackPlayer_told sortedConfig v.1 v.2.id v.2.stats.atk hreg rfl hnew
  intro hp maxHp sp maxSp htells
  exact hrow ((htold _ _ _ _ _).mp ((FieldWorker.tells_iff hlog _ _).mp htells)).1.1

end MmorpgServer.Worker
