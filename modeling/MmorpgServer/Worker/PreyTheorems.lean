/-
MmorpgServer.Worker.PreyTheorems — an archer kills who stands still in a
field.

`archer_kills` is about any environment that knows its player well. The
environment of a field worker does, as long as the player is alone in the
field and does not move. So the theorem carries over from the world of the
monsters to the field worker, behavior for behavior: what the field worker
does at each step is a path of the world (`path_leads`), and the paths are
joined to one behavior (`exists_behavior`).

* `Alone`, `env_prey` — the player, and what the environment knows of it.
* `updateWorld_ticks` — with frames that do not get ever shorter, the
  monsters are ticked again and again.
* `exists_worldBehavior` — a behavior of a field worker, as one of its
  monsters' world.
* `archer_kills_in_field` — over every behavior of a field worker.
-/
import MmorpgServer.Field.MonsterKillTheorems
import MmorpgServer.Worker.ClockTheorems
import MmorpgServer.Worker.LedgerTheorems

namespace MmorpgServer.Worker

open MmorpgServer.Lib MmorpgServer.Field Scalar

variable {K : Type}

theorem PlayerStat.Valid.set {st : PlayerStat} (h : st.Valid) (hp sp : Int) :
    ((st.setHp hp).setSp sp).Valid := by
  obtain ⟨⟨hhp, hmaxHp⟩, hsp, hmaxSp⟩ := h
  unfold PlayerStat.setHp PlayerStat.setSp
  constructor
  · simp only
    split <;> split <;> omega
  · simp only
    split <;> split <;> omega

/-- The action does nothing to the player, to who else is in the field, or
to the monster. -/
def FieldAction.Spares (pid mid : EntityId) : FieldAction K → Prop
  | .addPlayer _ _ => False
  | .removePlayer pid' => pid' ≠ pid
  | .moveInput session entityId _ => ¬ (session = some pid ∧ entityId = pid)
  | .skill _ targetId => targetId ≠ mid
  | .setRegistered pid' registered => pid' = pid → registered = true
  | _ => True

theorem monsterStep_le [ExactScalar K] : (monsterStep : K) ≤ 1 / 2 := by
  show (lit 0.1 : K) ≤ 1 / 2
  simp only [ExactScalar.lit_eq]
  norm_num

theorem FieldAction.seconds_of_pos [ExactScalar K] (policy : List K → Fin 5 → K) {dt : K}
    (hdt : 0 < dt) : (FieldAction.updateWorld policy dt : FieldAction K).seconds = dt :=
  if_neg (by simpa using hdt)

theorem FieldAction.seconds_nonneg [ExactScalar K] (a : FieldAction K) : 0 ≤ a.seconds := by
  cases a with
  | updateWorld policy dt =>
    show (0 : K) ≤ if dt ≤ lit 0 then lit 0 else dt
    split
    · exact ExactScalar.lit_zero.ge
    · rename_i hdt
      rw [ExactScalar.lit_zero] at hdt
      exact (not_le.mp hdt).le
  | _ => exact ExactScalar.lit_zero.ge

/-- What is asked for by an action that spares the monster spares it. -/
theorem FieldAction.Asks.spares [Scalar K] {a : FieldAction K} {pid mid : EntityId}
    {b : WorldAction K (FieldWorker K)} (h : a.Asks b) (ha : a.Spares pid mid) :
    b.Spares mid monsterStep := by
  cases b with
  | update policy dt => exact h.2
  | skill targetId =>
    obtain ⟨session, rfl⟩ := h
    exact ha
  | outside => trivial
  | _ => exact h.elim

namespace FieldWorker

/-- The player is the only one in the field, known to `PlayerManager`,
stands still, and has its stats within their bounds. -/
structure Alone (pid : EntityId) (pos : Vec2 K) (fw : FieldWorker K) : Prop where
  players : fw.players = {pid}
  registered : fw.registered pid = true
  pos : (fw.player pid).pos = pos
  stands : (fw.player pid).moveState.moving = false
  stat : (fw.player pid).stat.Valid

/-- The same, with the hp of the player. -/
def AloneWith (pid : EntityId) (pos : Vec2 K) (hp : Int) (fw : FieldWorker K) : Prop :=
  fw.Alone pid pos ∧ (fw.player pid).stat.hp = hp

variable {pid : EntityId} {pos : Vec2 K} {hp : Int} {fw fw' : FieldWorker K}

/-- A mark, or anything that is not about the player, changes nothing. -/
theorem AloneWith.congr (h : fw.AloneWith pid pos hp) (hplayers : fw'.players = fw.players)
    (hregistered : fw'.registered = fw.registered) {t : K}
    (hplayer : fw'.player pid = { fw.player pid with lastDirtyMarkTime := t }) :
    fw'.AloneWith pid pos hp := by
  obtain ⟨halone, hhp⟩ := h
  refine ⟨⟨hplayers.trans halone.players, ?_, ?_, ?_, ?_⟩, ?_⟩
  · rw [hregistered]
    exact halone.registered
  · rw [hplayer]
    exact halone.pos
  · rw [hplayer]
    exact halone.stands
  · rw [hplayer]
    exact halone.stat
  · rw [hplayer]
    exact hhp

theorem AloneWith.emit (h : fw.AloneWith pid pos hp) (es : List (Effect K)) :
    (fw.emit es).AloneWith pid pos hp :=
  h.congr rfl rfl rfl

theorem AloneWith.broadcast (h : fw.AloneWith pid pos hp) (id : EntityId) (packet : Packet K) :
    (fw.broadcast id packet).AloneWith pid pos hp := by
  rw [broadcast_eq]
  exact h.emit _

theorem AloneWith.setLastDirtyMarkTime (h : fw.AloneWith pid pos hp) (pid' : EntityId) :
    (fw.setLastDirtyMarkTime pid').AloneWith pid pos hp := by
  by_cases hpid : pid = pid'
  · subst hpid
    exact h.congr rfl rfl (Function.update_self _ _ _)
  · exact h.congr rfl rfl (Function.update_of_ne hpid _ _)

theorem Alone.playerIds (h : fw.Alone pid pos) (cfg : FieldConfig K) :
    fw.playerIds cfg = [pid] := by
  have hnd := (cfg.playerOrder fw.playersChanges).nodup fw.players
  have hmem := (cfg.playerOrder fw.playersChanges).mem_iff fw.players
  rw [h.players] at hmem
  refine List.perm_singleton.mp ((List.perm_ext_iff_of_nodup ?_ (List.nodup_singleton pid)).mpr ?_)
  · exact hnd
  · intro i
    rw [FieldWorker.playerIds, h.players, hmem]
    simp

variable [ExactScalar K] {cfg : FieldConfig K}

/-- Of the environment, only `setPlayerStats` changes the hp. -/
theorem env_aloneWith (cfg : FieldConfig K) (pid : EntityId) (pos : Vec2 K) (hp : Int) :
    (env cfg).harmless.Keeps (fun _ => True) (AloneWith pid pos hp) where
  broadcastCombat fw mid target dmg _ h := by
    refine iteInduction (motive := AloneWith pid pos hp) (fun _ => ?_) fun _ => h
    rw [sendTo_eq]
    exact h.emit _
  broadcastAiState _ _ _ h := h.broadcast _ _
  broadcastPlayerState _ _ _ h := h.broadcast _ _
  broadcastMonsterStat _ _ _ _ _ _ h := h.broadcast _ _
  broadcastPlayerStat _ _ _ _ _ _ h := h.broadcast _ _
  setPlayerStats _ _ _ _ h := h
  markPlayerDirty fw target h := by
    have hmarked : AloneWith pid pos hp
        (if target ∈ fw.players then fw.setLastDirtyMarkTime target else fw) := by
      split
      · exact h.setLastDirtyMarkTime target
      · exact h
    exact hmarked.emit _
  moveInAoi _ _ _ _ _ h := h.congr rfl rfl rfl
  spawnInAoi _ _ _ _ _ h := h.congr rfl rfl rfl
  removeFromAoi _ _ _ h := h.congr rfl rfl rfl

/-- **The environment of a field worker** around a player that is alone. -/
theorem env_prey (cfg : FieldConfig K) (hpid : pid ≠ 0) (pos : Vec2 K) :
    (env cfg).Prey (Alone pid pos) (fun fw => (fw.player pid).stat.hp) pid pos.x pos.y where
  id := hpid
  position fw h := by
    show (if pid ∈ fw.players then _ else _) = _
    rw [if_pos (by simp [h.players]), h.pos]
  closest fw x y r h hnear := by
    show fw.findClosestPlayer cfg x y r = pid
    unfold findClosestPlayer
    simp only [h.playerIds cfg, List.foldl_cons, List.foldl_nil, h.pos]
    exact congrArg Prod.fst (if_pos hnear)
  stats fw h := ⟨(fw.player pid).stat.maxHp, (fw.player pid).stat.sp, (fw.player pid).stat.maxSp,
    if_pos h.registered⟩
  keeps hp := env_aloneWith cfg pid pos hp
  setPlayerStats fw target newHp newSp h := by
    show Alone pid pos (if fw.registered target then _ else fw) ∧ (_ →
      ((if fw.registered target then _ else fw : FieldWorker K).player pid).stat.hp = _)
    by_cases htarget : target = pid
    · subst htarget
      rw [if_pos h.registered]
      have hset : (fw.setPlayer target { fw.player target with
          stat := ((fw.player target).stat.setHp newHp).setSp newSp }).player target =
          { fw.player target with
            stat := ((fw.player target).stat.setHp newHp).setSp newSp } :=
        Function.update_self _ _ _
      refine ⟨⟨h.players, h.registered, ?_, ?_, ?_⟩, fun hle => ?_⟩
      · rw [hset]
        exact h.pos
      · rw [hset]
        exact h.stands
      · rw [hset]
        exact h.stat.set newHp newSp
      · obtain ⟨hlow, hhigh⟩ := hle rfl
        rw [if_pos rfl, hset]
        have hbound := h.stat.hp
        show ((fw.player target).stat.setHp newHp).hp = newHp
        rw [PlayerStat.setHp_of_mem _ hlow (by omega)]
    · have hsame : AloneWith pid pos (fw.player pid).stat.hp
          (if fw.registered target then fw.setPlayer target { fw.player target with
            stat := ((fw.player target).stat.setHp newHp).setSp newSp } else fw) := by
        split
        · exact AloneWith.congr ⟨h, rfl⟩ rfl rfl (Function.update_of_ne (Ne.symm htarget) _ _)
        · exact ⟨h, rfl⟩
      rw [if_neg htarget]
      exact ⟨hsame.1, fun _ => hsame.2⟩

/-! ## What is done aside -/

theorem AloneWith.tickPlayers (h : fw.AloneWith pid pos hp) (cfg : FieldConfig K) (step : K) :
    fw.tickPlayers cfg step = fw := by
  have hstands := h.1.stands
  unfold FieldWorker.tickPlayers FieldWorker.tickPlayer
  simp [h.1.playerIds cfg, hstands]

/-- **What is done aside** leaves the player where it is, and its hp as
they are. -/
theorem AloneWith.aside (h : fw.AloneWith pid pos hp) {mid : EntityId}
    (haside : Aside cfg (FieldAction.Spares pid mid) fw fw') : fw'.AloneWith pid pos hp := by
  cases haside with
  | monsters => exact h.congr rfl rfl rfl
  | spawned => exact h.congr rfl rfl rfl
  | initialized => exact h.congr rfl rfl rfl
  | clocks => exact h.congr rfl rfl rfl
  | players =>
    rw [h.tickPlayers]
    exact h
  | attacks => exact h.broadcast _ _
  | @message a hM ha =>
    cases a with
    | addPlayer => exact hM.elim
    | removePlayer pid' =>
      have hplayers : (fw.step cfg (.removePlayer pid')).players = fw.players := by
        show fw.players.erase pid' = _
        rw [h.1.players, Finset.erase_eq_of_notMem (Finset.mem_singleton.not.mpr hM)]
      exact h.congr hplayers rfl rfl
    | moveInput session entityId dir =>
      have hsame : fw.onClientMoveInput session entityId dir = fw := by
        unfold onClientMoveInput
        split
        · rfl
        · rename_i hsession
          rw [if_pos]
          rw [h.1.players, Finset.mem_singleton]
          rintro rfl
          exact hM ⟨not_not.mp hsession, rfl⟩
      show (fw.onClientMoveInput session entityId dir).AloneWith pid pos hp
      rw [hsame]
      exact h
    | skill => exact ha.elim
    | updateWorld => exact ha.elim
    | setSession => exact h.congr rfl rfl rfl
    | setRegistered pid' registered =>
      obtain ⟨halone, hhp⟩ := h
      refine ⟨⟨halone.players, ?_, halone.pos, halone.stands, halone.stat⟩, hhp⟩
      show Function.update fw.registered pid' registered pid = true
      by_cases hpid : pid' = pid
      · rw [hpid, Function.update_self]
        exact hM hpid
      · rw [Function.update_of_ne (Ne.symm hpid)]
        exact halone.registered

/-! ## Ticks, again and again -/

/-- A frame with enough time on the clock of the monsters ticks them. -/
theorem updateWorld_ticks (cfg : FieldConfig K) (policy : List K → Fin 5 → K) {dt : K}
    (hdt : 0 < dt) (fw : FieldWorker K) (hdue : monsterStep ≤ fw.monsterAcc + dt) :
    (fw.updateWorld cfg policy dt).monsterAcc + monsterStep ≤ fw.monsterAcc + dt := by
  have hrun : ¬ dt ≤ lit 0 := by simpa using hdt
  have hclock : (fw.updateWorld cfg policy dt).monsterAcc = _ :=
    step_monsterAcc cfg fw (.updateWorld policy dt)
  rw [hclock, FieldAction.clock, if_neg hrun, takeTicks, if_pos hdue]
  have hle := takeTicks_le monsterStep_pos.le 2 (fw.monsterAcc + dt - monsterStep)
  linarith

/-- What is asked for without ticks takes no time. -/
theorem simTime_eq_zero {a : FieldAction K}
    {l : List (WorldState K (FieldWorker K) × WorldAction K (FieldWorker K))}
    (hasks : ∀ p ∈ l, a.Asks p.2)
    (hno : ¬ ∃ p ∈ l, ∃ policy, p.2 = .update policy monsterStep) : simTime l = 0 := by
  refine List.sum_eq_zero fun t ht => ?_
  obtain ⟨⟨w, b⟩, hp, rfl⟩ := List.mem_map.mp ht
  have hasked := hasks _ hp
  cases b with
  | update policy dt =>
    obtain ⟨-, rfl⟩ := hasked
    exact absurd ⟨_, hp, policy, rfl⟩ hno
  | _ => exact ExactScalar.lit_zero

/-! ## Behaviors -/

section

variable [Archimedean K] {redisRtWriter : Bool} {M : FieldAction K → Prop}
  {R : FieldWorker K → FieldWorker K → Prop} {st : ℕ → FieldWorker K} {act : ℕ → FieldAction K}

/-- **The frames tick the monsters again and again**: time that is not
taken by ticks is on their clock. -/
theorem exists_ticks (b : Behavior (fieldSystem cfg redisRtWriter) st act) {δ : K} (hδ : 0 < δ)
    (hfair : ∀ n, ∃ k, n ≤ k ∧ ∃ policy dt, act k = .updateWorld policy dt ∧ δ ≤ dt)
    {l : ℕ → List (WorldState K (FieldWorker K) × WorldAction K (FieldWorker K))}
    (hasks : ∀ n, ∀ p ∈ l n, (act n).Asks p.2)
    (htime : ∀ n, simTime (l n) = (st n).monsterAcc + (act n).seconds - (st (n + 1)).monsterAcc)
    (n : ℕ) : ∃ k, n ≤ k ∧ ∃ p ∈ l k, ∃ policy, p.2 = .update policy monsterStep := by
  refine exists_of_gain hfair (f := fun n => (st n).monsterAcc) (B := monsterStep) hδ n ?_ ?_
  · rintro k - ⟨policy, dt, hact, hdt⟩ hno
    have hpos := hδ.trans_le hdt
    have hzero := htime k
    rw [simTime_eq_zero (hasks k) hno, hact, FieldAction.seconds_of_pos policy hpos] at hzero
    have hnext : (st (k + 1)).monsterAcc = ((st k).updateWorld cfg policy dt).monsterAcc := by
      rw [(b.step k).2, hact]
      rfl
    by_contra hdue
    have hticked := updateWorld_ticks cfg policy hpos (st k) (by linarith)
    have hstep : (0 : K) < monsterStep := monsterStep_pos
    linarith
  · rintro k - hno -
    have hzero := htime k
    rw [simTime_eq_zero (hasks k) hno] at hzero
    have hlater := (act k).seconds_nonneg
    refine ⟨by linarith, ?_⟩
    rintro ⟨policy, dt, hact, hdt⟩
    rw [hact, FieldAction.seconds_of_pos policy (hδ.trans_le hdt)] at hzero
    linarith

/-- **A behavior of a field worker is one of its monsters' world**, which
comes to all the states the steps of the field worker end in. -/
theorem exists_worldBehavior (hR : ∀ fw fw', Aside cfg M fw fw' → R fw fw')
    (b : Behavior (fieldSystem cfg redisRtWriter) st act) (hM : ∀ n, M (act n)) {δ : K} (hδ : 0 < δ)
    (hfair : ∀ n, ∃ k, n ≤ k ∧ ∃ policy dt, act k = .updateWorld policy dt ∧ δ ≤ dt) :
    ∃ st' act', Behavior (worldSystem (env cfg) R) st' act' ∧ st' 0 = (st 0).world ∧
      (∀ k, ∃ n, (act n).Asks (act' k)) ∧
      (∀ n, ∃ k, n ≤ k ∧ ∃ policy, act' k = .update policy monsterStep) ∧
      ∀ n, ∃ k, n ≤ k ∧ st' k = (st n).world := by
  have hleads := fun n => step_leads hR (hM n) (st n)
  choose l hpath hasks htime using hleads
  simp only [← (b.step _).2] at hpath htime
  -- paths of at least one step
  have hpath' : ∀ n, Path (worldSystem (env cfg) R) (st n).world
      (((st n).world, .outside (st n)) :: l n) (st (n + 1)).world := fun n =>
    .cons ⟨hR _ _ (.monsters (st n) (st n).monsterWorld), rfl⟩ (hpath n)
  obtain ⟨st', act', b', hstart, hwhere, hcomes, hcovers⟩ :=
    exists_behavior (fun n => List.cons_ne_nil _ _) hpath'
  refine ⟨st', act', b', hstart, fun k => ?_, fun n => ?_, hcomes⟩
  · obtain ⟨n, hn⟩ := hwhere k
    refine ⟨n, ?_⟩
    rcases List.mem_cons.mp hn with hfirst | hn
    · rw [(Prod.mk.inj hfirst).2]
      trivial
    · exact hasks n _ hn
  · obtain ⟨n', hn', p, hp, policy, htick⟩ := exists_ticks b hδ hfair hasks htime n
    obtain ⟨k, hk, hp'⟩ := hcovers n' p (List.mem_cons_of_mem _ hp)
    exact ⟨k, hn'.trans hk, policy, by rw [← htick, ← hp']⟩

end

/-- **An archer kills who stands still in its field.** A registered player,
alone in a field and standing, between 0.001 and 25.2 from a healthy
archer that thinks in its next tick and has it as its target, or has none
and the player in sight: if the player neither moves nor leaves, nobody
enters and nobody attacks the archer, its hp come down to 0 and stay
there, whatever else the clients send, as long as frames of some length
come again and again. -/
theorem archer_kills_in_field [ExactRoots K] [Archimedean K] (cfg : FieldConfig K)
    (redisRtWriter : Bool) {pid : EntityId} (hpid : pid ≠ 0) (pos : Vec2 K)
    {st : ℕ → FieldWorker K} {act : ℕ → FieldAction K}
    (b : Behavior (fieldSystem cfg redisRtWriter) st act) {δ : K} (hδ : 0 < δ)
    (hfair : ∀ n, ∃ k, n ≤ k ∧ ∃ policy dt, act k = .updateWorld policy dt ∧ δ ≤ dt)
    (halone : (st 0).Alone pid pos) (hids : (st 0).monsterIds.Nodup)
    (harmed : (st 0).monsterWorld.Armed) {m : Monster K} (hm : m ∈ (st 0).monsterWorld.monsters)
    (hspots : m.Spots pid pos.x pos.y monsterStep) (hatk : 0 < m.stats.atk)
    (hspares : ∀ n, (act n).Spares pid m.id) :
    ∃ N, ∀ n, N ≤ n → ((st n).player pid).stat.hp = 0 := by
  have hR : ∀ fw fw', Aside cfg (FieldAction.Spares pid m.id) fw fw' → fw.Alone pid pos →
      fw'.Alone pid pos ∧ (fw'.player pid).stat.hp ≤ (fw.player pid).stat.hp := by
    intro fw fw' haside halone
    obtain ⟨halone', hhp⟩ := AloneWith.aside ⟨halone, rfl⟩ haside
    exact ⟨halone', hhp.le⟩
  obtain ⟨st', act', b', hstart, hasked, hfair', hcomes⟩ :=
    exists_worldBehavior hR b hspares hδ hfair
  have hspares' : ∀ k, (act' k).Spares m.id monsterStep := by
    intro k
    obtain ⟨n, hn⟩ := hasked k
    exact FieldAction.Asks.spares hn (hspares n)
  obtain ⟨N, hN⟩ := archer_kills (env cfg) (Alone pid pos) (fun fw => (fw.player pid).stat.hp) pid
    pos.x pos.y monsterStep (env_prey cfg hpid pos) monsterStep_pos monsterStep_le b' hfair'
    (hstart ▸ halone) (hstart ▸ hids) (hstart ▸ harmed) (hstart ▸ hm) hspots hatk hspares'
  refine ⟨N, fun n hn => ?_⟩
  obtain ⟨k, hk, hsame⟩ := hcomes n
  obtain ⟨hI, hle⟩ := hN k (hn.trans hk)
  rw [hsame] at hI hle
  have hlow := hI.stat.hp.1
  exact le_antisymm hle hlow

/-! ## The walker in the field of the archer -/

/-- The walker is known to `PlayerManager`, and enters. -/
noncomputable def visited : FieldWorker ℝ :=
  (guarded.step realConfig (.setRegistered 1 true)).addPlayer realConfig 1 walker

/-- Frame after frame. -/
noncomputable def besieged (n : ℕ) : FieldWorker ℝ :=
  (fun fw => fw.updateWorld realConfig (fun _ _ => 0) monsterStep)^[n] visited

theorem behavior_besieged : Behavior (fieldSystem realConfig false) besieged
    fun _ => .updateWorld (fun _ _ => 0) monsterStep where
  step := (behavior_frames realConfig false (fun _ _ => 0) monsterStep visited).step

/-- The entry changes neither the monsters nor who is registered. -/
theorem visited_frame : visited.players = {1} ∧ visited.registered 1 = true ∧
    visited.player 1 = walker ∧ visited.monsterWorld = guarded.monsterWorld := by
  obtain ⟨es, hadd, -⟩ := addPlayer_sends realConfig
    (guarded.step realConfig (.setRegistered 1 true)) 1 walker
  unfold visited
  rw [hadd]
  refine ⟨rfl, ?_, ?_, rfl⟩
  · show Function.update guarded.registered 1 true 1 = true
    exact Function.update_self _ _ _
  · show Function.update guarded.player 1 walker 1 = walker
    exact Function.update_self _ _ _

/-- The archer of `guarded`, 15 from where the walker stands. -/
theorem exists_archer : ∃ m, guarded.monsterWorld.monsters = [m] ∧ m.id = 1000 ∧
    m.Spots 1 0 0 monsterStep ∧ 0 < m.stats.atk := by
  refine ⟨_, rfl, rfl, ⟨rfl, by decide, ?_, ?_, .inr ⟨rfl, ?_⟩, ?_, ?_⟩, by decide⟩
  · rintro ⟨-, hlow⟩
    have hfull : (ofInt 200 / ofInt 200 : ℝ) ≤ lit 0.25 := hlow
    norm_num [ofInt] at hfull
  · norm_num [monsterStep]
  · norm_num [AISystem.distSq, archer]
  · norm_num [AISystem.distSq, archer]
  · norm_num [AISystem.distSq, archer]

/-- The walker stands, and dies. -/
theorem archer_kills_in_field_walker :
    ∃ N, ∀ n, N ≤ n → ((besieged n).player 1).stat.hp = 0 := by
  obtain ⟨hplayers, hregistered, hplayer, hworld⟩ := visited_frame
  obtain ⟨m, hmonsters, hid, hspots, hatk⟩ := exists_archer
  rw [← hworld] at hmonsters
  have halone : visited.Alone 1 ⟨0, 0⟩ := by
    refine ⟨hplayers, hregistered, ?_, ?_, ?_⟩ <;> rw [hplayer]
    · rfl
    · rfl
    · exact ⟨by decide, by decide⟩
  have hids : visited.monsterIds.Nodup := by
    unfold monsterIds
    rw [hmonsters]
    exact List.nodup_singleton _
  have harmed : visited.monsterWorld.Armed := by
    unfold MonsterWorld.Armed
    rw [hmonsters, List.forall_mem_singleton]
    exact hatk.le
  exact archer_kills_in_field realConfig false one_ne_zero ⟨0, 0⟩ behavior_besieged monsterStep_pos
    (fun n => ⟨n, le_refl n, _, _, rfl, le_refl _⟩) halone hids harmed
    (hmonsters ▸ List.mem_singleton_self m) hspots hatk fun _ => trivial

end FieldWorker

end MmorpgServer.Worker
