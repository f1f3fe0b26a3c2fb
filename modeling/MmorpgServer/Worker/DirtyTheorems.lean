/-
MmorpgServer.Worker.DirtyTheorems — which dirty marks are announced.

The database flush that consumes a dirty mark reads Redis only, so a mark
should come after the state it stands for: `Announced` says so of a log.
`mark_dirty_state` and `mark_dirty_pos_if_needed` write the snapshot and
then mark. `env_.markPlayerDirty`, the third way to a mark, does not
write: `CombatSystem::attack_player` changes the hp of a player and marks
it, and Redis still has the old hp.

`own_step` is the step lemma, for the marks from any sources: those of the
worker's own are announced in every run, those from combat as long as no
attack strikes a player `PlayerManager` knows.
-/
import MmorpgServer.Field.MonsterCombatTheorems
import MmorpgServer.Worker.MonsterLifeTheorems

namespace MmorpgServer.Worker

open MmorpgServer.Lib MmorpgServer.Field MmorpgServer.Storage Scalar

variable {K : Type}

/-! ## Logs -/

/-- The last snapshot of a user passed to `redisRtWriter_`. -/
def lastRtWrite (uid : Uid) (log : List (Effect K)) : Option (UserSnapshot K) :=
  log.foldl (fun last e =>
    match e with
    | .redisRtWrite s => if s.uid = uid then some s else last
    | _ => last) none

/-- Every mark comes when the last snapshot of the player is the state the
player is in. -/
def Announced (log : List (Effect K)) : Prop :=
  ∀ before source now after, log = before ++ Effect.markDirty source now :: after →
    lastRtWrite now.uid before = some now

/-- So does every mark from a source in `P`. -/
def AnnouncedFrom (P : DirtySource → Prop) (log : List (Effect K)) : Prop :=
  ∀ before source now after, log = before ++ Effect.markDirty source now :: after →
    P source → lastRtWrite now.uid before = some now

theorem lastRtWrite_write (log : List (Effect K)) (s : UserSnapshot K) :
    lastRtWrite s.uid (log ++ [.redisRtWrite s]) = some s := by
  simp [lastRtWrite, List.foldl_append]

/-- A mark inside a longer log is one of the log or one of what follows. -/
theorem split_append {α : Type} {log es before after : List α} {e : α}
    (h : log ++ es = before ++ e :: after) :
    (∃ rest, log = before ++ e :: rest) ∨ ∃ mid, before = log ++ mid ∧ es = mid ++ e :: after := by
  rcases List.append_eq_append_iff.mp h with ⟨mid, rfl, hes⟩ | ⟨mid, rfl, hmid⟩
  · exact .inr ⟨mid, rfl, hes⟩
  · cases mid with
    | nil => exact .inr ⟨[], by simp, by simpa using hmid.symm⟩
    | cons e' mid =>
      obtain ⟨rfl, -⟩ := List.cons.inj hmid
      exact .inl ⟨mid, rfl⟩

variable {P : DirtySource → Prop}

theorem announcedFrom_nil : AnnouncedFrom P ([] : List (Effect K)) := by
  intro before source now after h
  simp at h

/-- Anything but a mark from one of the sources may follow. -/
theorem AnnouncedFrom.append {log es : List (Effect K)} (h : AnnouncedFrom P log)
    (hes : ∀ source now, Effect.markDirty source now ∈ es → ¬ P source) :
    AnnouncedFrom P (log ++ es) := by
  intro before source now after heq hsource
  rcases split_append heq with ⟨rest, hlog⟩ | ⟨mid, -, hes'⟩
  · exact h before source now rest hlog hsource
  · exact absurd hsource (hes source now (by simp [hes']))

/-- A mark of the state just written may follow. -/
theorem AnnouncedFrom.write_mark {log : List (Effect K)} (h : AnnouncedFrom P log)
    (source : DirtySource) (now : UserSnapshot K) :
    AnnouncedFrom P (log ++ [.redisRtWrite now, .markDirty source now]) := by
  have hw : AnnouncedFrom P (log ++ [.redisRtWrite now]) := h.append (by simp)
  rw [show log ++ [.redisRtWrite now, .markDirty source now] =
    (log ++ [.redisRtWrite now]) ++ [Effect.markDirty source now] by simp]
  intro before source' now' after heq hsource
  rcases split_append heq with ⟨rest, hlog⟩ | ⟨mid, rfl, hmid⟩
  · exact hw before source' now' rest hlog hsource
  · cases mid with
    | nil =>
      obtain ⟨hmark, -⟩ := List.cons.inj hmid
      obtain ⟨rfl, rfl⟩ := Effect.markDirty.inj hmark
      rw [List.append_nil]
      exact lastRtWrite_write log now
    | cons e mid => simp at hmid

/-! ## What the worker does -/

namespace FieldWorker

/-- The writer is set and the marks from the sources are announced. -/
def Own (P : DirtySource → Prop) (fw : FieldWorker K) : Prop :=
  fw.redisRtWriter = true ∧ AnnouncedFrom P fw.log

theorem own_emit {fw : FieldWorker K} (h : fw.Own P) {es : List (Effect K)}
    (hes : ∀ source now, Effect.markDirty source now ∈ es → ¬ P source) :
    (fw.emit es).Own P :=
  ⟨h.1, h.2.append hes⟩

theorem own_sendTo {fw : FieldWorker K} (h : fw.Own P) (w : EntityId) (packet : Packet K) :
    (fw.sendTo w packet).Own P := by
  rw [sendTo_eq]
  exact own_emit h (by split <;> simp)

theorem own_broadcast {fw : FieldWorker K} (h : fw.Own P) (id : EntityId) (packet : Packet K) :
    (fw.broadcast id packet).Own P := by
  rw [broadcast_eq]
  exact own_emit h (by simp)

theorem own_aoiCall {fw : FieldWorker K} (h : fw.Own P)
    (r : FieldAoiSystem (Vec2 K) × List (Delivery (Vec2 K))) : (fw.aoiCall r).Own P := by
  refine ⟨h.1, h.2.append ?_⟩
  intro source now hmem
  obtain ⟨d, -, hd⟩ := List.mem_flatMap.mp hmem
  unfold aoiSend at hd
  split at hd <;> simp at hd

/-- The worker's own way to a mark: write, then mark. -/
theorem own_write_mark {fw : FieldWorker K} (h : fw.Own P) (source : DirtySource) (pid : EntityId) :
    (((fw.writePlayerRtEnqueue pid).markDirty source pid).setLastDirtyMarkTime pid).Own P := by
  have hwrite : fw.writePlayerRtEnqueue pid = fw.emit [.redisRtWrite (fw.snapshot pid)] :=
    if_pos h.1
  rw [hwrite]
  refine ⟨h.1, ?_⟩
  show AnnouncedFrom P ((fw.log ++ [_]) ++ [_])
  rw [List.append_assoc]
  exact h.2.write_mark source (fw.snapshot pid)

variable [Scalar K]

theorem env_own (cfg : FieldConfig K) : (env cfg).unarmed.Keeps (fun _ => True) (Own P) where
  broadcastCombat _ _ _ _ _ h := h
  broadcastAiState _ _ _ h := own_broadcast h _ _
  broadcastPlayerState _ _ _ h := h
  broadcastMonsterStat _ _ _ _ _ _ h := own_broadcast h _ _
  broadcastPlayerStat _ _ _ _ _ _ h := h
  setPlayerStats _ _ _ _ h := h
  markPlayerDirty _ _ h := h
  moveInAoi _ _ _ _ _ h := own_aoiCall h _
  spawnInAoi _ _ _ _ _ h := own_aoiCall (own_aoiCall h _) _
  removeFromAoi _ _ _ h := own_aoiCall h _

omit [Scalar K] in
/-- An attack on the player strikes: `PlayerManager` knows the player, and
its hp change. -/
def Strikes (fw : FieldWorker K) (pid : EntityId) (atk : Int) : Prop :=
  fw.registered pid = true ∧
    Max.max 0 ((fw.player pid).stat.hp - atk) ≠ (fw.player pid).stat.hp

instance (fw : FieldWorker K) (pid : EntityId) (atk : Int) : Decidable (fw.Strikes pid atk) :=
  inferInstanceAs (Decidable (_ ∧ _))

/-- An attack announces what it marks unless it strikes. -/
theorem own_attackPlayer (cfg : FieldConfig K) {fw : FieldWorker K} (h : fw.Own P)
    (mid pid : EntityId) (atk : Int) (hattack : P .combat → ¬ fw.Strikes pid atk) :
    (CombatSystem.attackPlayer (env cfg) fw mid pid atk).Own P := by
  have hcombat : ∀ (fw : FieldWorker K) (hp : Int), fw.Own P →
      ((env cfg).broadcastCombat fw mid pid atk hp).Own P := fun fw hp h =>
    iteInduction (motive := Own P) (fun _ => own_sendTo h _ _) fun _ => h
  cases hreg : fw.registered pid with
  | false =>
    have hnone : (env cfg).getPlayerStats fw pid = none := if_neg (by simp [hreg])
    simpa [CombatSystem.attackPlayer, hnone] using h
  | true =>
    have hsome : (env cfg).getPlayerStats fw pid = some ((fw.player pid).stat.hp,
        (fw.player pid).stat.maxHp, (fw.player pid).stat.sp, (fw.player pid).stat.maxSp) :=
      if_pos hreg
    rw [CombatSystem.attackPlayer_eq mid atk hsome]
    split
    · exact hcombat fw _ h
    · rename_i hhp
      have hfree : ¬ P .combat := fun hP => hattack hP ⟨hreg, hhp⟩
      have hset : ∀ hp sp, ((env cfg).setPlayerStats fw pid hp sp).Own P := fun hp sp =>
        iteInduction (motive := Own P) (fun _ => h) fun _ => h
      have hmark : ∀ fw : FieldWorker K, fw.Own P → ((env cfg).markPlayerDirty fw pid).Own P := by
        intro fw h
        have hclock : (if pid ∈ fw.players then fw.setLastDirtyMarkTime pid else fw).Own P :=
          iteInduction (motive := Own P) (fun _ => h) fun _ => h
        refine own_emit hclock fun source now hmem => ?_
        rw [List.mem_singleton, Effect.markDirty.injEq] at hmem
        rw [hmem.1]
        exact hfree
      have hstat := own_broadcast (hcombat _ (Max.max 0 ((fw.player pid).stat.hp - atk))
        (hmark _ (hset (Max.max 0 ((fw.player pid).stat.hp - atk)) (fw.player pid).stat.sp))) pid
      simp only
      split
      · exact own_broadcast (hstat _) pid _
      · exact hstat _

theorem own_addPlayer (cfg : FieldConfig K) {fw : FieldWorker K} (h : fw.Own P) (pid : EntityId)
    (p : Player K) : (fw.addPlayer cfg pid p).Own P := by
  have h₀ : (fw.emit [.playerAdded pid (fw.sessions pid)]).Own P := own_emit h (by simp)
  have hsend : ∀ (fw : FieldWorker K) (w s : EntityId) (isMonster : Bool) (pos : Vec2 K), fw.Own P →
      (fw.sendFieldEnter w s isMonster pos).Own P := fun fw w s isMonster pos h => own_sendTo h _ _
  unfold addPlayer onPlayerEnterField
  refine List.foldlRecOn (motive := Own P) _ _ ?_ fun fw h _ _ => hsend fw _ _ _ _ h
  refine List.foldlRecOn (motive := Own P) _ _ ?_ fun fw h _ _ => hsend fw _ _ _ _ h
  refine List.foldlRecOn (motive := Own P) _ _ ?_ fun fw h _ _ => hsend fw _ _ _ _ h
  refine hsend _ _ _ _ _ (own_aoiCall ?_ _)
  exact h₀

theorem own_handleSkill (cfg : FieldConfig K) {fw : FieldWorker K} (h : fw.Own P)
    (session : Option EntityId) (targetId : EntityId) :
    (fw.handleSkill cfg session targetId).Own P := by
  cases session with
  | none => exact h
  | some pid =>
    have hb : (fw.broadcastPlayerState pid .attack).Own P := own_broadcast h _ _
    have hattack := (env_own cfg).playerAttackMonster targetId
      (fw.broadcastPlayerState pid .attack).monsterWorld.monsters (fun _ _ => trivial) hb
    rw [MonsterEnvironment.unarmed_playerAttackMonster] at hattack
    refine iteInduction (motive := Own P) (fun _ => own_broadcast ?_ _ _) fun _ => ?_ <;>
      exact hattack

theorem own_stable (cfg : FieldConfig K) : Stable cfg (Own P) where
  setPlayer _ _ _ h := h
  setClocks _ _ _ _ h := h
  broadcastPlayerState _ pid _ h := own_broadcast h pid _
  mark _ source pid h := own_write_mark h source pid
  aoiMove _ _ _ h := own_aoiCall h _

/-- No attack of the monsters in the step strikes. -/
def NoCombatMark (cfg : FieldConfig K) (fw : FieldWorker K) : FieldAction K → Prop
  | .updateWorld policy dt => ∀ tick ∈ fw.ticksOf cfg (.updateWorld policy dt),
      ∀ v ∈ tick.monsterWorld.combatPasses (env cfg) policy monsterStep tick,
        ∀ pid ∈ CombatSystem.attackCall (env cfg) monsterStep v.1 v.2,
          ¬ v.1.Strikes pid v.2.stats.atk
  | _ => True

instance (cfg : FieldConfig K) (fw : FieldWorker K) :
    (a : FieldAction K) → Decidable (NoCombatMark cfg fw a)
  | .updateWorld _ _ => inferInstanceAs (Decidable (∀ tick ∈ _, ∀ v ∈ _, ∀ pid ∈ _, ¬ _))
  | .addPlayer _ _ | .removePlayer _ | .moveInput _ _ _ | .skill _ _ | .setSession _ _
  | .setRegistered _ _ => isTrue trivial

/-- **A step announces what it marks**: the worker's own marks whatever it
is asked to do, those from combat if no attack strikes. -/
theorem own_step (cfg : FieldConfig K) {fw : FieldWorker K} (h : fw.Own P) {a : FieldAction K}
    (ha : P .combat → NoCombatMark cfg fw a) : (fw.step cfg a).Own P := by
  cases a with
  | addPlayer pid p => exact own_addPlayer cfg h pid p
  | removePlayer pid => exact own_aoiCall h _
  | moveInput session entityId dir =>
    exact (own_stable cfg).onClientMoveInput session entityId dir h
  | skill session targetId => exact own_handleSkill cfg h session targetId
  | updateWorld policy dt =>
    have hstable : Stable cfg (Own P) := own_stable cfg
    refine updateWorld_keeps_of_ticks policy hstable.setClocks
      (fun _ h => hstable.tickPlayers playerStep h) dt (fun tick htick h => ?_) h
    exact (env_own cfg).update_of_calls policy monsterStep (fun _ _ => trivial)
      (fun v hv pid hcall hI => own_attackPlayer cfg hI v.2.id pid v.2.stats.atk fun hP =>
        ha hP tick htick v hv pid hcall) h
  | setSession pid online => exact own_emit h (by simp)
  | setRegistered pid registered => exact h

end FieldWorker

/-! ## Marks from combat -/

/-- How often `env_.markPlayerDirty` has been called. -/
def combatMarks (log : List (Effect K)) : Nat :=
  log.countP fun e =>
    match e with
    | .markDirty .combat _ => true
    | _ => false

theorem combatMarks_append (log log' : List (Effect K)) :
    combatMarks (log ++ log') = combatMarks log + combatMarks log' :=
  List.countP_append

theorem combatMarks_sends (l : List EntityId) (packet : Packet K) :
    combatMarks (l.map fun w => Effect.send w packet) = 0 := by
  simp [combatMarks, List.countP_map, Function.comp_def]

theorem combatMarks_broadcast (fw : FieldWorker K) (id : EntityId) (packet : Packet K) :
    combatMarks (fw.broadcast id packet).log = combatMarks fw.log := by
  rw [FieldWorker.broadcast_eq, FieldWorker.emit_log, combatMarks_append, combatMarks_sends]
  rfl

variable [Scalar K]

/-- **What makes a mark from combat**: an attack on a player that
`PlayerManager` knows and whose hp it changes. -/
theorem attackPlayer_combatMarks (cfg : FieldConfig K) (fw : FieldWorker K) (mid pid : EntityId)
    (atk : Int) :
    combatMarks (CombatSystem.attackPlayer (FieldWorker.env cfg) fw mid pid atk).log =
      combatMarks fw.log + if fw.Strikes pid atk then 1 else 0 := by
  have hcombat : ∀ (fw : FieldWorker K) (hp : Int),
      combatMarks ((FieldWorker.env cfg).broadcastCombat fw mid pid atk hp).log =
        combatMarks fw.log := by
    intro fw hp
    refine iteInduction (motive := fun fw' : FieldWorker K =>
      combatMarks fw'.log = combatMarks fw.log) (fun _ => ?_) fun _ => rfl
    rw [FieldWorker.sendTo_eq, FieldWorker.emit_log, combatMarks_append]
    split <;> rfl
  have hstate : ∀ (fw : FieldWorker K) (st : PlayerState),
      combatMarks ((FieldWorker.env cfg).broadcastPlayerState fw pid st).log =
        combatMarks fw.log := fun fw st => combatMarks_broadcast fw _ _
  have hstat : ∀ (fw : FieldWorker K) (hp maxHp sp maxSp : Int),
      combatMarks ((FieldWorker.env cfg).broadcastPlayerStat fw pid hp maxHp sp maxSp).log =
        combatMarks fw.log := fun fw _ _ _ _ => combatMarks_broadcast fw _ _
  cases hreg : fw.registered pid with
  | false =>
    have hnone : (FieldWorker.env cfg).getPlayerStats fw pid = none := if_neg (by simp [hreg])
    simp [CombatSystem.attackPlayer, hnone, FieldWorker.Strikes, hreg]
  | true =>
    have hsome : (FieldWorker.env cfg).getPlayerStats fw pid = some ((fw.player pid).stat.hp,
        (fw.player pid).stat.maxHp, (fw.player pid).stat.sp, (fw.player pid).stat.maxSp) :=
      if_pos hreg
    -- a change of the stats is written to the player, then marked
    have hmark : ∀ newHp : Int, combatMarks ((FieldWorker.env cfg).markPlayerDirty
        ((FieldWorker.env cfg).setPlayerStats fw pid newHp (fw.player pid).stat.sp) pid).log =
        combatMarks fw.log + 1 := by
      intro newHp
      have hset : ((FieldWorker.env cfg).setPlayerStats fw pid newHp
          (fw.player pid).stat.sp).log = fw.log :=
        iteInduction (motive := fun fw' : FieldWorker K => fw'.log = fw.log)
          (fun _ => rfl) fun _ => rfl
      show combatMarks ((if _ then _ else _ : FieldWorker K).log ++ [_]) = _
      rw [combatMarks_append]
      refine congrArg (· + 1) ?_
      refine iteInduction (motive := fun fw' : FieldWorker K =>
        combatMarks fw'.log = combatMarks fw.log) (fun _ => ?_) fun _ => ?_ <;>
        exact congrArg combatMarks hset
    have hmax : (if 0 < (fw.player pid).stat.hp - atk then (fw.player pid).stat.hp - atk else 0) =
        max 0 ((fw.player pid).stat.hp - atk) := by
      split <;> omega
    simp only [CombatSystem.attackPlayer, hsome, hmax, FieldWorker.Strikes, hreg, ne_eq,
      not_true_eq_false, or_false, true_and]
    by_cases hp : max 0 ((fw.player pid).stat.hp - atk) = (fw.player pid).stat.hp
    · simp [hp, hcombat]
    · simp only [hp, not_false_eq_true, if_true, true_and]
      split
      · rw [hstate, hstat, hcombat, hmark]
      · rw [hstat, hcombat, hmark]

/-- **When every dirty mark is preceded by the state it announces.** In a
run of a field worker whose writer is set, as long as no attack of a
monster strikes a player `PlayerManager` knows, every mark ever made came
when the last snapshot written for the player was the state the player
was in. -/
theorem dirty_marks_announced (cfg : FieldConfig K) (l : List (FieldWorker K × FieldAction K))
    (fw : FieldWorker K) (r : Run (fieldSystem cfg true) l fw)
    (hl : ∀ p ∈ l, p.1.NoCombatMark cfg p.2) : Announced fw.log := by
  have h : fw.Own fun _ => True := by
    refine r.invariant_of_steps (I := FieldWorker.Own fun _ => True)
      (P := FieldWorker.NoCombatMark cfg) ?_ ?_ hl
    · rintro fw ⟨player, spawns, -, rfl⟩
      obtain ⟨hlog, -, hwriter⟩ := FieldWorker.construct_start cfg player true spawns
      rw [FieldWorker.Own, hlog]
      exact ⟨hwriter, announcedFrom_nil⟩
    · rintro fw a fw' hown hstep ⟨-, rfl⟩
      exact FieldWorker.own_step cfg hown fun _ => hstep
  exact fun before source now after hlog => h.2 before source now after hlog trivial

/-- An archer with all its hp, and a player it can shoot. -/
def archer : FieldWorker.MonsterSpawn ℚ := { weakArcher with hp := 200 }

def besideArcher : FieldWorker ℚ :=
  FieldWorker.construct sortedConfig (fun _ => newPlayer 0 0) true [archer]

theorem run_besideArcher : Run (fieldSystem sortedConfig true) [] besideArcher :=
  .start ⟨_, [archer], by decide, rfl⟩

/-- The player enters and walks; its position is written and marked. -/
theorem dirty_marks_announced_walk : ∃ l fw, Run (fieldSystem sortedConfig true) l fw ∧
    Announced fw.log ∧ Effect.markDirty .pos ⟨1, 45, 1209 / 40, 500, 100, 0⟩ ∈ fw.log := by
  have r := (((run_besideArcher.next (.setRegistered 1 true) ⟨trivial, rfl⟩).next
    (.addPlayer 1 (newPlayer 45 30)) ⟨by decide, rfl⟩).next
    (.moveInput (some 1) 1 (some ⟨0, 1⟩)) ⟨trivial, rfl⟩).next
    (.updateWorld (fun _ _ => 0) (3 / 10)) ⟨trivial, rfl⟩
  refine ⟨_, _, r, dirty_marks_announced sortedConfig _ _ r ?_, by decide +kernel⟩
  simp only [List.forall_mem_cons, List.not_mem_nil, false_implies, implies_true, and_true]
  decide +kernel

/-- It stops and stays in the archer's sight; the archer hits. The mark
comes with 493 hp, when the last snapshot has 500. -/
theorem dirty_marks_announced_struck :
    ∃ l fw, Run (fieldSystem sortedConfig true) l fw ∧ ¬ Announced fw.log := by
  have r₁ := ((run_besideArcher.next (.setRegistered 1 true) ⟨trivial, rfl⟩).next
    (.addPlayer 1 (newPlayer 45 30)) ⟨by decide, rfl⟩).next
    (.moveInput (some 1) 1 (some ⟨0, 1⟩)) ⟨trivial, rfl⟩
  have r₂ := ((((r₁.next (.updateWorld (fun _ _ => 0) (3 / 10)) ⟨trivial, rfl⟩).next
    (.updateWorld (fun _ _ => 0) (3 / 10)) ⟨trivial, rfl⟩).next
    (.updateWorld (fun _ _ => 0) (3 / 10)) ⟨trivial, rfl⟩).next
    (.updateWorld (fun _ _ => 0) (3 / 10)) ⟨trivial, rfl⟩).next
    (.updateWorld (fun _ _ => 0) (3 / 10)) ⟨trivial, rfl⟩
  refine ⟨_, _, r₂, fun h => ?_⟩
  have hlast := h [.playerAdded 1 false,
    .redisRtWrite ⟨1, 45, 1209 / 40, 500, 100, 0⟩, .markDirty .pos ⟨1, 45, 1209 / 40, 500, 100, 0⟩,
    .redisRtWrite ⟨1, 45, 249 / 8, 500, 100, 0⟩, .markDirty .state ⟨1, 45, 249 / 8, 500, 100, 0⟩]
    .combat ⟨1, 45, 249 / 8, 493, 100, 0⟩ [] (by decide +kernel)
  revert hlast
  decide +kernel

end MmorpgServer.Worker
