/-
MmorpgServer.Worker.LedgerTheorems — the combat events of a player and its
hp.

Stat events about its own player need not reach a client
(`own_hp_is_told_iff`). A combat event does: every hit on a player with a
session is sent to it, with the damage and the hp left. So the combat
events are a complete account of the hp, from any state of the field
worker on: a hit missing, told twice or out of order would show, unless it
changes nothing because no hp are left.

* `Settles` — an account of a player's stats by hits.
* `attackPlayer_booked` — what an attack adds to it.
* `combat_events_account_for_hp` — over every run.
-/
import MmorpgServer.Worker.WatcherTheorems

namespace MmorpgServer.Worker

open MmorpgServer.Lib MmorpgServer.Field Scalar

variable {K : Type}

/-! ## Accounts -/

/-- A player's stats after a hit. -/
def PlayerStat.hurt (st : PlayerStat) (damage : Int) : PlayerStat :=
  let newHp := Max.max 0 (st.hp - damage)
  if newHp = st.hp then st else (st.setHp newHp).setSp st.sp

/-- Hits that bring a player's stats from one value to another, each with
the hp it left. -/
inductive Settles : PlayerStat → List (Int × Int) → PlayerStat → Prop
  | nil (st : PlayerStat) : Settles st [] st
  | hit {st st' : PlayerStat} {hits : List (Int × Int)} (h : Settles st hits st')
      (damage : Int) : Settles st (hits ++ [(damage, (st'.hurt damage).hp)]) (st'.hurt damage)

/-- Stats within their bounds. -/
structure PlayerStat.Valid (st : PlayerStat) : Prop where
  hp : 0 ≤ st.hp ∧ st.hp ≤ st.maxHp
  sp : 0 ≤ st.sp ∧ st.sp ≤ st.maxSp

theorem PlayerStat.setHp_of_mem (st : PlayerStat) {hp : Int} (hlow : 0 ≤ hp)
    (hhigh : hp ≤ st.maxHp) : st.setHp hp = { st with hp } := by
  simp [PlayerStat.setHp, not_lt.mpr hhigh, not_lt.mpr hlow]

theorem PlayerStat.setSp_of_mem (st : PlayerStat) {sp : Int} (hlow : 0 ≤ sp)
    (hhigh : sp ≤ st.maxSp) : st.setSp sp = { st with sp } := by
  simp [PlayerStat.setSp, not_lt.mpr hhigh, not_lt.mpr hlow]

theorem PlayerStat.Valid.hurt {st : PlayerStat} (h : st.Valid) {damage : Int}
    (hdamage : 0 ≤ damage) : st.hurt damage = { st with hp := Max.max 0 (st.hp - damage) } ∧
      (st.hurt damage).Valid := by
  obtain ⟨⟨hp, hpmax⟩, sp, spmax⟩ := h
  have hnew : 0 ≤ Max.max 0 (st.hp - damage) ∧ Max.max 0 (st.hp - damage) ≤ st.maxHp := by omega
  have heq : st.hurt damage = { st with hp := Max.max 0 (st.hp - damage) } := by
    unfold PlayerStat.hurt
    simp only
    split
    · rename_i hsame
      rw [hsame]
    · rw [st.setHp_of_mem hnew.1 hnew.2]
      exact PlayerStat.setSp_of_mem _ sp spmax
  rw [heq]
  exact ⟨rfl, hnew, sp, spmax⟩

/-- Within the bounds, hits only take off hp, down to zero. -/
theorem Settles.hp {st st' : PlayerStat} {hits : List (Int × Int)} (h : Settles st hits st')
    (hst : st.Valid) (hdamage : ∀ x ∈ hits, 0 ≤ x.1) :
    st'.Valid ∧ st' = { st with
      hp := (hits.map Prod.fst).foldl (fun hp damage => Max.max 0 (hp - damage)) st.hp } := by
  induction h with
  | nil => exact ⟨hst, rfl⟩
  | hit h damage ih =>
    simp only [List.forall_mem_append, List.forall_mem_singleton] at hdamage
    obtain ⟨hvalid, heq⟩ := ih hdamage.1
    obtain ⟨hhurt, hvalid'⟩ := hvalid.hurt hdamage.2
    refine ⟨hvalid', ?_⟩
    rw [hhurt, heq]
    simp

/-! ## What a client is told -/

/-- A combat event to a player about itself: the damage and the hp left. -/
def Effect.hitOn (pid : EntityId) : Effect K → Option (Int × Int)
  | .send w (.combatEvent _ _ .player target damage remainHp) =>
    if w = pid ∧ target = pid then some (damage, remainHp) else none
  | _ => none

/-- The hits a client is told of. -/
def hits (pid : EntityId) (es : List (Effect K)) : List (Int × Int) :=
  es.filterMap (Effect.hitOn pid)

theorem hits_append (pid : EntityId) (es es' : List (Effect K)) :
    hits pid (es ++ es') = hits pid es ++ hits pid es' := List.filterMap_append

theorem hits_eq_nil {pid : EntityId} {es : List (Effect K)} (h : ∀ e ∈ es, e.hitOn pid = none) :
    hits pid es = [] := List.filterMap_eq_nil_iff.mpr h

namespace FieldWorker

/-- Since `fw₀`, the client of a player with a session has been told all
that has happened to its stats. -/
def Booked (pid : EntityId) (fw₀ fw : FieldWorker K) : Prop :=
  fw.sessions pid = true ∧ ∃ es, fw.log = fw₀.log ++ es ∧
    Settles (fw₀.player pid).stat (hits pid es) (fw.player pid).stat

variable {pid : EntityId} {fw₀ fw : FieldWorker K}

theorem booked_refl (h : fw.sessions pid = true) : fw.Booked pid fw :=
  ⟨h, [], (List.append_nil _).symm, .nil _⟩

/-- A step that hits nobody. -/
theorem Booked.of_quiet (h : Booked pid fw₀ fw) {fw' : FieldWorker K}
    (hsessions : fw'.sessions pid = true) (hstat : (fw'.player pid).stat = (fw.player pid).stat)
    (hlog : ∃ es, fw'.log = fw.log ++ es ∧ ∀ e ∈ es, e.hitOn pid = none) :
    Booked pid fw₀ fw' := by
  obtain ⟨-, es, hes, hsettles⟩ := h
  obtain ⟨es', hes', hnone⟩ := hlog
  refine ⟨hsessions, es ++ es', ?_, ?_⟩
  · rw [hes', hes, List.append_assoc]
  · rw [hits_append, hits_eq_nil hnone, List.append_nil, hstat]
    exact hsettles

theorem Booked.emit (h : Booked pid fw₀ fw) {es : List (Effect K)}
    (hes : ∀ e ∈ es, e.hitOn pid = none) : Booked pid fw₀ (fw.emit es) :=
  h.of_quiet h.1 rfl ⟨es, rfl, hes⟩

theorem Booked.setPlayer (h : Booked pid fw₀ fw) (pid' : EntityId) (p : Player K)
    (hp : pid' = pid → p.stat = (fw.player pid).stat) : Booked pid fw₀ (fw.setPlayer pid' p) := by
  refine h.of_quiet h.1 ?_ ⟨[], (List.append_nil _).symm, by simp⟩
  by_cases hpid : pid' = pid
  · subst hpid
    simpa [FieldWorker.setPlayer] using hp rfl
  · simp [FieldWorker.setPlayer, Ne.symm hpid]

theorem Booked.broadcast (h : Booked pid fw₀ fw) (id : EntityId) {packet : Packet K}
    (hpacket : ∀ w, (Effect.send w packet).hitOn pid = none) :
    Booked pid fw₀ (fw.broadcast id packet) := by
  rw [broadcast_eq]
  refine h.emit fun e he => ?_
  obtain ⟨w, -, rfl⟩ := List.mem_map.mp he
  exact hpacket w

theorem Booked.aoiCall (h : Booked pid fw₀ fw)
    (r : FieldAoiSystem (Vec2 K) × List (Delivery (Vec2 K))) : Booked pid fw₀ (fw.aoiCall r) := by
  refine h.of_quiet h.1 rfl ⟨_, rfl, fun e he => ?_⟩
  obtain ⟨_, _, _, _, _, _, rfl⟩ := mem_aoiSend he
  rfl

theorem Booked.markDirty (h : Booked pid fw₀ fw) (source : DirtySource) (pid' : EntityId) :
    Booked pid fw₀ (fw.markDirty source pid') :=
  h.emit (by simp [Effect.hitOn])

variable [Scalar K] {cfg : FieldConfig K}

/-- Nothing that the environment does but attacks hits anybody. -/
theorem env_booked (cfg : FieldConfig K) (pid : EntityId) (fw₀ : FieldWorker K) :
    (env cfg).unarmed.Keeps (fun _ => True) (Booked pid fw₀) where
  broadcastCombat _ _ _ _ _ h := h
  broadcastAiState _ _ _ h := h.broadcast _ fun _ => rfl
  broadcastPlayerState _ _ _ h := h
  broadcastMonsterStat _ _ _ _ _ _ h := h.broadcast _ fun _ => rfl
  broadcastPlayerStat _ _ _ _ _ _ h := h
  setPlayerStats _ _ _ _ h := h
  markPlayerDirty _ _ h := h
  moveInAoi _ _ _ _ _ h := h.aoiCall _
  spawnInAoi _ _ _ _ _ h := (h.aoiCall _).aoiCall _
  removeFromAoi _ _ _ h := h.aoiCall _

/-- A hit that has been dealt is told: by an event, if it is on the player
itself. -/
theorem Booked.broadcastCombat (h : Booked pid fw₀ fw) {fw' : FieldWorker K} {target : EntityId}
    (atk : Int) (hsessions : fw'.sessions = fw.sessions) (htarget : target ∈ fw'.players)
    (hlog : ∃ es, fw'.log = fw.log ++ es ∧ ∀ e ∈ es, e.hitOn pid = none)
    (hself : (fw'.player target).stat = (fw.player target).stat.hurt atk)
    (hother : ∀ i, i ≠ target → (fw'.player i).stat = (fw.player i).stat) (mid : EntityId)
    (newHp : Int) : Booked pid fw₀ ((env cfg).broadcastCombat fw' mid target atk newHp) := by
  have hsend : (env cfg).broadcastCombat fw' mid target atk newHp =
      fw'.sendTo target (.combatEvent .monster mid .player target atk
        (fw'.player target).stat.hp) := if_pos htarget
  rw [hsend]
  by_cases hpid : target = pid
  · subst hpid
    obtain ⟨hsession, es, hes, hsettles⟩ := h
    obtain ⟨es', hes', hnone⟩ := hlog
    have honline : fw'.sessions target = true := by rw [hsessions, hsession]
    rw [sendTo_eq, if_pos honline]
    refine ⟨honline, es ++ es' ++ [.send target (.combatEvent .monster mid .player target atk
      (fw'.player target).stat.hp)], ?_, ?_⟩
    · rw [emit_log, hes', hes, List.append_assoc, List.append_assoc, List.append_assoc]
    · show Settles _ _ (fw'.player target).stat
      rw [hits_append, hits_append, hits_eq_nil hnone, List.append_nil, hself]
      have hhit := hsettles.hit atk
      rw [← hself] at hhit ⊢
      simpa [hits, Effect.hitOn] using hhit
  · have hquiet : Booked pid fw₀ fw' := by
      refine h.of_quiet ?_ (hother pid fun he => hpid he.symm) hlog
      rw [hsessions]
      exact h.1
    rw [sendTo_eq]
    refine hquiet.emit fun e he => ?_
    split at he
    · rw [List.mem_singleton.mp he]
      simp [Effect.hitOn, hpid]
    · cases he

/-- **An attack is booked**, on whomever it is. -/
theorem Booked.attackPlayer (h : Booked pid fw₀ fw) (mid target : EntityId) (atk : Int)
    (hpos : (env cfg).getPlayerPosition fw target ≠ none) :
    Booked pid fw₀ (CombatSystem.attackPlayer (env cfg) fw mid target atk) := by
  have htarget : target ∈ fw.players := by
    by_contra hnot
    exact hpos (if_neg hnot)
  by_cases hreg : fw.registered target = true
  · have hstats : (env cfg).getPlayerStats fw target = some ((fw.player target).stat.hp,
        (fw.player target).stat.maxHp, (fw.player target).stat.sp,
        (fw.player target).stat.maxSp) := if_pos hreg
    have hhurt : (fw.player target).stat.hurt atk =
        if Max.max 0 ((fw.player target).stat.hp - atk) = (fw.player target).stat.hp then
          (fw.player target).stat
        else ((fw.player target).stat.setHp (Max.max 0 ((fw.player target).stat.hp - atk))).setSp
          (fw.player target).stat.sp := rfl
    rw [CombatSystem.attackPlayer_eq mid atk hstats]
    split
    · -- the hp stay what they are
      rename_i hsame
      rw [if_pos hsame] at hhurt
      exact h.broadcastCombat atk rfl htarget ⟨[], (List.append_nil _).symm, by simp⟩ hhurt.symm
        (fun _ _ => rfl) mid _
    · rename_i hnew
      rw [if_neg hnew] at hhurt
      simp only
      generalize Max.max 0 ((fw.player target).stat.hp - atk) = newHp at *
      have hset : (env cfg).setPlayerStats fw target newHp (fw.player target).stat.sp =
          fw.setPlayer target { fw.player target with
            stat := ((fw.player target).stat.setHp newHp).setSp (fw.player target).stat.sp } :=
        if_pos hreg
      have hmark : ∀ fw' : FieldWorker K, target ∈ fw'.players →
          (env cfg).markPlayerDirty fw' target =
            (fw'.setLastDirtyMarkTime target).markDirty .combat target := by
        intro fw' hmem
        show (if target ∈ fw'.players then fw'.setLastDirtyMarkTime target
          else fw').markDirty .combat target = _
        rw [if_pos hmem]
      have hdealt : ∀ hp, Booked pid fw₀ ((env cfg).broadcastCombat ((env cfg).markPlayerDirty
          ((env cfg).setPlayerStats fw target newHp (fw.player target).stat.sp) target) mid target
          atk hp) := by
        intro hp
        rw [hset, hmark (fw.setPlayer target _) htarget]
        refine h.broadcastCombat atk ?_ ?_ ?_ ?_ ?_ mid hp
        · rfl
        · exact htarget
        · exact ⟨_, rfl, by simp [Effect.hitOn]⟩
        · rw [hhurt]
          simp [FieldWorker.markDirty, FieldWorker.emit, setLastDirtyMarkTime,
            FieldWorker.setPlayer]
        · intro i hi
          simp [FieldWorker.markDirty, FieldWorker.emit, setLastDirtyMarkTime,
            FieldWorker.setPlayer, hi]
      have hstat : ∀ hp maxHp sp maxSp, Booked pid fw₀ ((env cfg).broadcastPlayerStat
          ((env cfg).broadcastCombat ((env cfg).markPlayerDirty ((env cfg).setPlayerStats fw target
            newHp (fw.player target).stat.sp) target) mid target atk newHp) target hp maxHp sp
          maxSp) := fun _ _ _ _ => (hdealt newHp).broadcast target fun _ => rfl
      split
      · exact (hstat _ _ _ _).broadcast target fun _ => rfl
      · exact hstat _ _ _ _
  · have hnone : (env cfg).getPlayerStats fw target = none := if_neg hreg
    simpa [CombatSystem.attackPlayer, hnone] using h

/-! ## The steps -/

theorem Booked.tickMonsters (h : Booked pid fw₀ fw) (policy : List K → Fin 5 → K) (step : K) :
    Booked pid fw₀ (fw.tickMonsters cfg policy step) := by
  have hticked := (env_booked cfg pid fw₀).update_of_attack
    (fun s mid target atk hpos hs => hs.attackPlayer mid target atk hpos) policy step
    (w := fw.monsterWorld) (fun _ _ => trivial) h
  exact ⟨hticked.1, hticked.2⟩

omit [Scalar K] in
theorem Booked.mark (h : Booked pid fw₀ fw) (source : DirtySource) (pid' : EntityId) :
    Booked pid fw₀ (((fw.writePlayerRtEnqueue pid').markDirty source pid').setLastDirtyMarkTime
      pid') := by
  have hwrite : Booked pid fw₀ (fw.writePlayerRtEnqueue pid') :=
    iteInduction (motive := Booked pid fw₀) (fun _ => h.emit (by simp [Effect.hitOn])) fun _ => h
  exact (hwrite.markDirty source pid').setPlayer pid' _ fun he => by rw [he]

theorem Booked.tickPlayer (h : Booked pid fw₀ fw) (step : K) (pid' : EntityId) :
    Booked pid fw₀ (fw.tickPlayer cfg step pid') := by
  have hset : ∀ (moveState : PlayerMoveState K) (pos : Vec2 K), Booked pid fw₀
      (fw.setPlayer pid' { fw.player pid' with moveState, pos }) :=
    fun _ _ => h.setPlayer pid' _ fun he => by rw [he]
  refine iteInduction (motive := Booked pid fw₀) (fun _ => ?_) fun _ => ?_
  · exact ((hset _ _).broadcast pid' fun _ => rfl).mark .state pid'
  · refine iteInduction (motive := Booked pid fw₀) (fun _ => h) fun _ => ?_
    have hmoved := fun pos => (hset (fw.player pid').moveState pos).aoiCall
      ((fw.setPlayer pid' { fw.player pid' with pos }).aoiSystem.moveEntity cfg.aoi pid' pos)
    refine iteInduction (motive := Booked pid fw₀) (fun _ => hmoved _) fun _ => ?_
    exact iteInduction (motive := Booked pid fw₀) (fun _ => hmoved _)
      fun _ => (hmoved _).mark .pos pid'

theorem Booked.onClientMoveInput (h : Booked pid fw₀ fw) (session : Option EntityId)
    (entityId : EntityId) (dir : Option (Vec2 K)) :
    Booked pid fw₀ (fw.onClientMoveInput session entityId dir) := by
  have hset : ∀ moveState : PlayerMoveState K, Booked pid fw₀
      (fw.setPlayer entityId { fw.player entityId with moveState }) :=
    fun _ => h.setPlayer entityId _ fun he => by rw [he]
  refine iteInduction (motive := Booked pid fw₀) (fun _ => h) fun _ => ?_
  refine iteInduction (motive := Booked pid fw₀) (fun _ => h) fun _ => ?_
  cases dir with
  | none => exact h
  | some d =>
    refine iteInduction (motive := Booked pid fw₀) (fun _ => ?_) fun _ => ?_
    · refine iteInduction (motive := Booked pid fw₀) (fun _ => hset _) fun _ => ?_
      exact (hset _).broadcast entityId fun _ => rfl
    · refine iteInduction (motive := Booked pid fw₀) (fun _ => hset _) fun _ => ?_
      exact (hset _).broadcast entityId fun _ => rfl

theorem Booked.handleSkill (h : Booked pid fw₀ fw) (session : Option EntityId)
    (targetId : EntityId) : Booked pid fw₀ (fw.handleSkill cfg session targetId) := by
  cases session with
  | none => exact h
  | some pid' =>
    have hcast : Booked pid fw₀ (fw.broadcastPlayerState pid' .attack) :=
      h.broadcast pid' fun _ => rfl
    have hattack := (env_booked cfg pid fw₀).playerAttackMonster targetId
      (fw.broadcastPlayerState pid' .attack).monsterWorld.monsters (fun _ _ => trivial) hcast
    rw [MonsterEnvironment.unarmed_playerAttackMonster] at hattack
    refine iteInduction (motive := Booked pid fw₀)
      (fun _ => Booked.broadcast ?_ targetId fun _ => rfl) fun _ => ?_ <;> exact hattack

theorem Booked.updateWorld (h : Booked pid fw₀ fw) (policy : List K → Fin 5 → K) (dt : K) :
    Booked pid fw₀ (fw.updateWorld cfg policy dt) := by
  refine updateWorld_keeps policy (fun fw _ _ _ h => ⟨h.1, h.2⟩) (fun fw h => ?_)
    (fun fw h => h.tickMonsters policy monsterStep) dt h
  exact List.foldlRecOn (motive := Booked pid fw₀) _ _ h fun fw h pid' _ =>
    h.tickPlayer playerStep pid'

theorem Booked.addPlayer (h : Booked pid fw₀ fw) {pid' : EntityId} (hpid : pid' ≠ pid)
    (p : Player K) : Booked pid fw₀ (fw.addPlayer cfg pid' p) := by
  obtain ⟨es, hadd, honly, -⟩ := addPlayer_sends cfg fw pid' p
  have hwith : Booked pid fw₀ (fw.withPlayer pid' p) := by
    refine h.of_quiet h.1 ?_ ⟨[.playerAdded pid' (fw.sessions pid')], rfl, by simp [Effect.hitOn]⟩
    simp [withPlayer, Ne.symm hpid]
  rw [hadd]
  refine (hwith.aoiCall _).emit fun e he => ?_
  obtain ⟨_, _, _, _, _, rfl⟩ := honly e he
  rfl

end FieldWorker

/-- The client's session ends, or its player is replaced. -/
def FieldAction.Ends (pid : EntityId) : FieldAction K → Prop
  | .addPlayer pid' _ => pid' = pid
  | .setSession pid' online => pid' = pid ∧ online = false
  | _ => False

namespace FieldWorker

variable {pid : EntityId} {fw₀ fw : FieldWorker K} [Scalar K] {cfg : FieldConfig K}

theorem Booked.step (h : Booked pid fw₀ fw) {a : FieldAction K} (ha : ¬ a.Ends pid) :
    Booked pid fw₀ (fw.step cfg a) := by
  cases a with
  | addPlayer pid' p => exact h.addPlayer ha p
  | removePlayer pid' =>
    have hremoved := h.aoiCall (fw.aoiSystem.removeEntity cfg.aoi pid')
    exact ⟨hremoved.1, hremoved.2⟩
  | moveInput session entityId dir => exact h.onClientMoveInput session entityId dir
  | skill session targetId => exact h.handleSkill session targetId
  | updateWorld policy dt => exact h.updateWorld policy dt
  | setSession pid' online =>
    refine h.of_quiet ?_ rfl ⟨[.sessionChanged pid'], rfl, by simp [Effect.hitOn]⟩
    by_cases hpid : pid' = pid
    · subst hpid
      have honline : online = true := by
        by_contra hoff
        exact ha ⟨rfl, by simpa using hoff⟩
      simp [FieldWorker.step, honline]
    · simpa [FieldWorker.step, Ne.symm hpid] using h.1
  | setRegistered pid' registered => exact ⟨h.1, h.2⟩

/-! ## Every run -/

/-- **Combat events account for the hp.** From any state of a field worker
on, while the client of a player has a session and the player is not added
anew: the combat events sent to it, each with the hp it leaves, bring the
player's stats from what they were to what they are. With stats in their
bounds and no negative damage, the hp are what is left when all the damage
told has been taken off, and nothing else has changed. -/
theorem combat_events_account_for_hp (cfg : FieldConfig K) (redisRtWriter : Bool)
    (pid : EntityId) {fw₀ fw : FieldWorker K} {l : List (FieldWorker K × FieldAction K)}
    (r : Run { fieldSystem cfg redisRtWriter with init := fun fw => fw = fw₀ } l fw)
    (hsession : fw₀.sessions pid = true) (hends : ∀ p ∈ l, ¬ p.2.Ends pid) :
    ∃ es, fw.log = fw₀.log ++ es ∧
      Settles (fw₀.player pid).stat (hits pid es) (fw.player pid).stat ∧
      ((fw₀.player pid).stat.Valid → (∀ x ∈ hits pid es, 0 ≤ x.1) →
        (fw.player pid).stat = { (fw₀.player pid).stat with
          hp := ((hits pid es).map Prod.fst).foldl (fun hp damage => Max.max 0 (hp - damage))
            (fw₀.player pid).stat.hp }) := by
  have hbooked : Booked pid fw₀ fw := by
    refine r.invariant_of_steps (I := Booked pid fw₀) (P := fun _ a => ¬ a.Ends pid) ?_ ?_ hends
    · intro fw' hstart
      rw [hstart]
      exact booked_refl hsession
    · intro fw' a fw'' h ha hstep
      rw [hstep.2]
      exact h.step ha
  obtain ⟨-, es, hes, hsettles⟩ := hbooked
  exact ⟨es, hes, hsettles, fun hvalid hdamage => (hsettles.hp hvalid hdamage).2⟩

end FieldWorker

/-- Shot twice, and told so. -/
theorem combat_events_account_for_two_hits :
    ∃ (fw : FieldWorker ℚ) (es : List (Effect ℚ)), fw.log = watched.log ++ es ∧
      hits 1 es = [(7, 493), (7, 486)] ∧
      Settles (watched.player 1).stat (hits 1 es) (fw.player 1).stat := by
  have r₀ : Run { fieldSystem sortedConfig true with init := fun fw => fw = watched } [] watched :=
    .start rfl
  have r := ((((r₀.next frame ⟨trivial, rfl⟩).next frame ⟨trivial, rfl⟩).next frame
    ⟨trivial, rfl⟩).next frame ⟨trivial, rfl⟩).next frame ⟨trivial, rfl⟩
  obtain ⟨es, hes, hsettles, -⟩ := FieldWorker.combat_events_account_for_hp sortedConfig true 1 r
    (by decide +kernel) (by simp [frame, FieldAction.Ends])
  refine ⟨_, es, hes, ?_, hsettles⟩
  have hdrop := congrArg (List.drop watched.log.length) hes
  rw [List.drop_left] at hdrop
  rw [← hdrop]
  decide +kernel

end MmorpgServer.Worker
