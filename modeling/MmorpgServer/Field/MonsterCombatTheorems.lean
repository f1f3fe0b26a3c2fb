/-
MmorpgServer.Field.MonsterCombatTheorems — whom a monster hits, and how
often.

The decision to attack and the attack are taken by two systems, in two
ticks. `Aimed` is what ties them: a monster in state `Attack` with a
target chose that target, within range, at its most recent think.
`hits_in_range` follows for every call of `attack_player`.

What a tick keeps apart from its attacks, and what each attack keeps, the
tick keeps (`Keeps.update_of_calls`).
-/
import MmorpgServer.Field.MonsterRunsTheorems
import MmorpgServer.Lib.ExactScalar

namespace MmorpgServer.Field

open MmorpgServer.Lib Scalar

variable {K σ : Type} [Scalar K]

/-! ## Deciding to attack -/

namespace AISystem

/-- The policy's choice is gated: an attack needs range and cooldown. -/
theorem gate_attack {stats : CStats} {dist attackCd : K} {a : AiState}
    (h : gate stats dist attackCd a = .attack) : dist ≤ lit 1.3 ∧ attackCd ≤ lit 0 := by
  by_contra hn
  have hchoice : ∀ b : AiState,
      (if b = .attack then
        if dist ≤ ({} : ObsParams K).attackRange ∧ attackCd ≤ lit 0 then b else .chase
      else b) ≠ .attack := by
    intro b
    by_cases hb : b = .attack
    · rw [if_pos hb, if_neg hn]
      decide
    · rw [if_neg hb]
      exact hb
  refine iteInduction (motive := fun b => b ≠ AiState.attack) (fun _ => ?_) (fun _ => ?_) h
  · decide
  · exact hchoice _

/-- A melee monster takes the gated state. -/
theorem melee_state_eq (policy : List K → Fin 5 → K) (tr : CTransform K) (stats : CStats)
    (pos : K × K) (oldState : AiState) (ai : CAI K) :
    (melee policy tr stats pos oldState ai).state =
      gate stats (distance tr pos) ai.attackCd (AiState.ofAction (argMax5 (policy (makeObs16 (some pos)
        tr.x tr.y (ofInt stats.hp) (ofInt stats.maxHp) ai.attackCd oldState {})))) := by
  unfold melee
  simp only
  split <;> simp [distance]

theorem melee_attack {policy : List K → Fin 5 → K} {tr : CTransform K} {stats : CStats}
    {pos : K × K} {oldState : AiState} {ai : CAI K}
    (h : (melee policy tr stats pos oldState ai).state = .attack) :
    distance tr pos ≤ lit 1.3 ∧ ai.attackCd ≤ lit 0 := by
  rw [melee_state_eq] at h
  exact gate_attack h

theorem melee_targetId (policy : List K → Fin 5 → K) (tr : CTransform K) (stats : CStats)
    (pos : K × K) (oldState : AiState) (ai : CAI K) :
    (melee policy tr stats pos oldState ai).targetId = ai.targetId := by
  unfold melee
  simp only
  split <;> simp

theorem archer_attack {tr : CTransform K} {pos : K × K} {ai : CAI K}
    (h : (archer tr pos ai).state = .attack) :
    ¬ distSq tr pos < lit 17 * lit 0.7 * (lit 17 * lit 0.7) ∧
      distSq tr pos ≤ lit 17 * lit 17 := by
  unfold archer at h
  simp only at h
  split at h
  · simp at h
  · rename_i hmin
    split at h
    · rename_i hmax
      exact ⟨hmin, hmax⟩
    · simp at h

theorem archer_targetId (tr : CTransform K) (pos : K × K) (ai : CAI K) :
    (archer tr pos ai).targetId = ai.targetId := by
  unfold archer
  simp only
  split
  · simp
  · split <;> simp

theorem wander_targetId (ai : CAI K) : (wander ai).targetId = ai.targetId := by
  unfold wander
  split
  · simp only
    split <;> simp
  · simp only
    split <;> simp

/-- **A think that attacks.** It has no target, or a target whose position
is known and within range. -/
theorem think_attack {env : MonsterEnvironment K σ} {policy : List K → Fin 5 → K} {s : σ}
    {m : Monster K} {oldState : AiState} {ai : CAI K} {sel : CAI K × Option (K × K)}
    (hsel : selectTarget env s m.transform (if isArcher m then lit 18 else lit 11) ai = sel)
    (h : (think env policy s m oldState ai).state = .attack) :
    (think env policy s m oldState ai).targetId = 0 ∨
      (think env policy s m oldState ai).targetId = sel.1.targetId ∧
      ThinkRecord.InRange ⟨isArcher m, m.transform, ai.attackCd, sel.1.targetId, sel.2⟩ := by
  have hcd : sel.1.attackCd = ai.attackCd := by
    rw [← hsel]
    exact (selectTarget_kept env s m.transform _ ai).attackCd
  revert h
  unfold think
  simp only
  rw [hsel]
  let P : CAI K → Prop := fun ai' => ai'.state = .attack → ai'.targetId = 0 ∨
    ai'.targetId = sel.1.targetId ∧
      ThinkRecord.InRange ⟨isArcher m, m.transform, ai.attackCd, sel.1.targetId, sel.2⟩
  refine iteInduction (motive := P) (fun _ h => ?_) fun _ => ?_
  · simp [disengage] at h
  refine iteInduction (motive := P) (fun _ h => ?_) fun _ => ?_
  · rcases flee_state (isArcher m) m.transform sel.2 sel.1 with hs | hs <;> simp [hs] at h
  refine iteInduction (motive := P) (fun hzero _ => ?_) fun _ => ?_
  · exact .inl ((wander_targetId sel.1).trans hzero)
  cases hpos : sel.2 with
  | none =>
    intro h
    simp at h
  | some pos =>
    refine iteInduction (motive := P) (fun harcher h => .inr ?_) fun hmelee h => .inr ?_
    · refine ⟨archer_targetId _ _ _, pos, hpos, ?_⟩
      rw [if_pos harcher]
      exact archer_attack h
    · refine ⟨melee_targetId _ _ _ _ _ _, pos, hpos, ?_⟩
      rw [if_neg hmelee]
      obtain ⟨hdist, hover⟩ := melee_attack h
      exact ⟨hdist, hcd ▸ hover⟩

omit [Scalar K] in
/-- The position selected is that of the target. -/
theorem selectTarget_pos {env : MonsterEnvironment K σ} {s : σ} {tr : CTransform K} {sightRange : K}
    {ai : CAI K} {pos : K × K} (h : (selectTarget env s tr sightRange ai).2 = some pos) :
    env.getPlayerPosition s (selectTarget env s tr sightRange ai).1.targetId = some pos := by
  unfold selectTarget at h ⊢
  split at h
  · rename_i hknown
    split at hknown
    · rw [← h]
      exact hknown
    · cases hknown
  · simp only at h ⊢
    split at h
    · cases h
    · rename_i hne
      rw [if_neg hne]
      split at h
      · rename_i hpos
        rw [hpos, ← h]
      · cases h

/-- The position of a think is the one its target has then. -/
theorem thinkRecord_targetPos {env : MonsterEnvironment K σ} {dt : K} {s : σ} {m : Monster K}
    {rec : ThinkRecord K} (h : thinkRecord env dt s m = some rec) {pos : K × K}
    (hpos : rec.targetPos = some pos) :
    env.getPlayerPosition (announced env dt s m).2 rec.target = some pos := by
  unfold thinkRecord at h
  simp only at h
  split at h
  · cases h
  split at h
  · cases h
  cases h
  exact selectTarget_pos hpos

end AISystem

/-- In exact arithmetic the range is one of distances. -/
theorem ThinkRecord.InRange.distance {K : Type} [ExactScalar K] [ExactRoots K] {r : ThinkRecord K}
    (h : r.InRange) :
    ∃ pos, r.targetPos = some pos ∧
      if r.archer then
        17 * 0.7 ≤ sqrt (AISystem.distSq r.place pos) ∧ sqrt (AISystem.distSq r.place pos) ≤ 17
      else sqrt (AISystem.distSq r.place pos) ≤ 1.3 ∧ r.attackCd ≤ 0 := by
  obtain ⟨pos, hpos, hrange⟩ := h
  refine ⟨pos, hpos, ?_⟩
  have hd : 0 ≤ AISystem.distSq r.place pos := add_nonneg (mul_self_nonneg _) (mul_self_nonneg _)
  have hroot : 0 ≤ sqrt (AISystem.distSq r.place pos) := ExactRoots.root_nonneg _
  have hsq : sqrt (AISystem.distSq r.place pos) * sqrt (AISystem.distSq r.place pos) =
      AISystem.distSq r.place pos := ExactRoots.root_mul_self _ hd
  cases harcher : r.archer with
  | true =>
    simp only [harcher, if_true, ExactScalar.lit_eq, not_lt] at hrange ⊢
    obtain ⟨hmin, hmax⟩ := hrange
    rw [← hsq] at hmin hmax
    constructor
    · exact nonneg_le_nonneg_of_sq_le_sq hroot (by norm_num at hmin ⊢; linarith)
    · exact nonneg_le_nonneg_of_sq_le_sq (by norm_num) (by norm_num at hmax ⊢; linarith)
  | false =>
    simp only [harcher, Bool.false_eq_true, if_false, ExactScalar.lit_eq] at hrange ⊢
    obtain ⟨hdist, hover⟩ := hrange
    refine ⟨?_, by simpa using hover⟩
    unfold AISystem.distance at hdist
    split at hdist
    · norm_num at hdist ⊢
      exact hdist
    · -- next to nothing is computed as nothing
      rename_i hsmall
      refine nonneg_le_nonneg_of_sq_le_sq (by norm_num) ?_
      rw [hsq]
      simp only [ExactScalar.lit_eq, not_lt] at hsmall
      norm_num at hsmall ⊢
      linarith

/-! ## Aiming -/

/-- A monster that attacks lives, and its target, if any, is the one of
its most recent think, at which it was within range. -/
def Aimed (think : Option (ThinkRecord K)) (m : Monster K) : Prop :=
  m.ai.state = .attack → 0 < m.stats.hp ∧
    (m.ai.targetId ≠ 0 → ∃ rec, think = some rec ∧ rec.target = m.ai.targetId ∧ rec.InRange)

section

variable {env : MonsterEnvironment K σ} {think : Option (ThinkRecord K)}

theorem Aimed.congr {m m' : Monster K} (h : Aimed think m) (hhp : m'.stats.hp = m.stats.hp)
    (hstate : m'.ai.state = m.ai.state) (htarget : m'.ai.targetId = m.ai.targetId) :
    Aimed think m' := by
  unfold Aimed at h ⊢
  rw [hhp, hstate, htarget]
  exact h

theorem Aimed.spawnUpdate {m : Monster K} (h : Aimed think m) (dt : K) (s : σ) :
    Aimed think (spawnUpdate env dt s m).1 := by
  obtain ⟨-, he⟩ | ⟨-, -, he⟩ | ⟨-, -, he⟩ := spawnUpdate_cases env dt s m <;> rw [he]
  · exact h
  · exact h.congr rfl rfl rfl
  · intro hattack
    cases hattack

/-- After the think of a pass, if there is one, a monster is aimed by it. -/
theorem Aimed.aiUpdate {m : Monster K} (h : Aimed think m) (policy : List K → Fin 5 → K) (dt : K)
    (s : σ) :
    Aimed ((AISystem.thinkRecord env dt s m).or think) (AISystem.update env policy dt s m).1 := by
  intro hattack
  let r := AISystem.announced env dt s m
  let m₁ : Monster K := { m with
    ai := { m.ai with attackCd := max (lit 0) (m.ai.attackCd - dt) }
    stats := { m.stats with dirty := false } }
  have hr : r.1.state = m.ai.state ∧ r.1.targetId = m.ai.targetId :=
    ⟨AISystem.sync_state _ _ _, AISystem.sync_targetId _ _ _⟩
  have hupdate : (AISystem.update env policy dt s m).1.ai =
      AISystem.decideAi env policy dt r.2 m₁ m.ai.state r.1 := rfl
  have hstats : (AISystem.update env policy dt s m).1.stats.hp = m.stats.hp := rfl
  rw [hstats]
  rw [hupdate] at hattack ⊢
  unfold AISystem.decideAi at hattack ⊢
  unfold AISystem.thinkRecord
  by_cases hhp : m.stats.hp ≤ 0
  · -- the dead do not attack
    rw [if_pos hhp] at hattack
    simp at hattack
  rw [if_neg hhp] at hattack ⊢
  refine ⟨by omega, fun htarget => ?_⟩
  simp only at hattack htarget ⊢
  rw [if_neg hhp]
  by_cases hcd : lit 0 < r.1.thinkCooldown - dt
  · -- no think in this tick
    rw [if_pos hcd] at hattack htarget ⊢
    rw [if_pos hcd]
    simp only at hattack htarget ⊢
    obtain ⟨-, haim⟩ := h (hr.1 ▸ hattack)
    rw [hr.2] at htarget ⊢
    exact haim htarget
  · rw [if_neg hcd] at hattack htarget ⊢
    rw [if_neg hcd]
    obtain hzero | ⟨hsel, hrange⟩ := AISystem.think_attack rfl hattack
    · exact absurd hzero htarget
    · exact ⟨_, rfl, hsel.symm, hrange⟩

theorem Aimed.movementUpdate {m : Monster K} (h : Aimed think m) (dt : K) (s : σ) :
    Aimed think (MovementSystem.update env dt s m).1 := by
  obtain ⟨-, he⟩ | ⟨-, he⟩ | ⟨-, _, _, _, -, he⟩ := MovementSystem.update_cases env dt s m <;>
    rw [he]
  · exact h
  · exact h.congr rfl (stopMove_state _) (stopMove_targetId _)
  · exact h.congr rfl (setMonsterMove_state _ _ _ _) (setMonsterMove_targetId _ _ _ _)

theorem Aimed.combatUpdate {m : Monster K} (h : Aimed think m) (dt : K) (s : σ) :
    Aimed think (CombatSystem.update env dt s m).1 := by
  obtain ⟨_, _, he⟩ := CombatSystem.update_fst env dt s m
  rw [he]
  exact h.congr rfl rfl rfl

theorem Aimed.hit {m : Monster K} (h : Aimed think m) : Aimed think (MonsterWorld.hit m).1 := by
  unfold MonsterWorld.hit
  simp only
  split
  · intro hattack
    cases hattack
  · rename_i hpos
    intro hattack
    exact ⟨by simpa using hpos, (h hattack).2⟩

/-- An aimed monster is still aimed when `CombatSystem` comes to it. -/
theorem Aimed.beforeCombat {st : WorldState K σ} {policy : List K → Fin 5 → K} {dt : K}
    {m m₁ m₃ : Monster K} {s₂ : σ} {l : List (WorldState K σ × WorldAction K σ)}
    (hnd : st.ids.Nodup) (h : Aimed (lastThink env m.id l) m)
    (hpasses : MonsterWorld.ThreePasses env policy dt st.world st.outside m m₁ m₃ s₂) :
    Aimed (lastThink env m₃.id ((st, .update policy dt) :: l)) m₃ := by
  have hthink : lastThink env m.id ((st, .update policy dt) :: l) =
      (AISystem.thinkRecord env dt s₂ m₁).or (lastThink env m.id l) := by
    rw [lastThink, hpasses.thinkOf hnd]
  rw [hpasses.id.2, hthink]
  obtain ⟨s₁, rfl⟩ := hpasses.respawn
  obtain ⟨s₃, rfl⟩ := hpasses.move
  exact ((h.spawnUpdate dt s₁).aiUpdate policy dt s₂).movementUpdate dt s₃

/-- What a step makes of an aimed monster is aimed by the longer history. -/
theorem Aimed.step {st : WorldState K σ} {a : WorldAction K σ} {m m' : Monster K}
    {l : List (WorldState K σ × WorldAction K σ)} (hnd : st.ids.Nodup)
    (h : Aimed (lastThink env m.id l) m) (hstep : MonsterStep env st a m m') :
    Aimed (lastThink env m'.id ((st, a) :: l)) m' := by
  cases hstep with
  | same hattack hskill hupdate =>
    cases a with
    | update policy dt => exact absurd rfl (hupdate policy dt)
    | _ => exact h
  | delayed delay => exact h.congr rfl rfl rfl
  | hit ha =>
    rcases ha with rfl | rfl
    · rw [MonsterWorld.hit_id]
      exact h.hit
    · rw [MonsterWorld.hit_id]
      exact h.hit
  | @tick policy dt m m₁ s₂ v hv hpasses =>
    rw [CombatSystem.update_id]
    exact (h.beforeCombat hnd hpasses).combatUpdate dt v.1

end

/-! ## Calls of `attack_player` -/

section

variable {env : MonsterEnvironment K σ}

/-- A pass does to the environment what its call of `attack_player`, if
any, does. -/
theorem CombatSystem.update_snd (dt : K) (s : σ) (m : Monster K) :
    (CombatSystem.update env dt s m).2 =
      ((CombatSystem.attackCall env dt s m).map fun p =>
        CombatSystem.attackPlayer env s m.id p m.stats.atk).getD s := by
  unfold CombatSystem.update CombatSystem.attackCall
  split
  · rfl
  · simp only
    split
    · rfl
    · cases env.getPlayerPosition s m.ai.targetId <;> rfl

omit [Scalar K] in
/-- `attack_player` with the stats it reads: it changes nothing but the hp. -/
theorem CombatSystem.attackPlayer_eq {s : σ} (mid : Nat) {pid : Nat} (atk : Int)
    {hp maxHp sp maxSp : Int} (hstats : env.getPlayerStats s pid = some (hp, maxHp, sp, maxSp)) :
    CombatSystem.attackPlayer env s mid pid atk =
      if Max.max 0 (hp - atk) = hp then env.broadcastCombat s mid pid atk hp
      else
        let newHp := Max.max 0 (hp - atk)
        let s := env.markPlayerDirty (env.setPlayerStats s pid newHp sp) pid
        let s := env.broadcastCombat s mid pid atk newHp
        let s := env.broadcastPlayerStat s pid newHp maxHp sp maxSp
        if newHp ≤ 0 then env.broadcastPlayerState s pid .dead else s := by
  have hmax : (if 0 < hp - atk then hp - atk else 0) = Max.max 0 (hp - atk) := by
    split <;> omega
  simp only [CombatSystem.attackPlayer, hstats, hmax, ne_eq, not_true_eq_false, or_false]
  by_cases hsame : Max.max 0 (hp - atk) = hp <;> simp [hsame]

theorem CombatSystem.attackCall_eq_some {dt : K} {s : σ} {m : Monster K} {p : Nat}
    (h : CombatSystem.attackCall env dt s m = some p) :
    m.ai.state = .attack ∧ ¬ m.ai.attackTimer + dt < m.ai.attackCooldown ∧ p = m.ai.targetId ∧
      env.getPlayerPosition s p ≠ none := by
  unfold CombatSystem.attackCall at h
  split at h
  · cases h
  rename_i hstate
  split at h
  · cases h
  rename_i htimer
  split at h
  · rename_i hpos
    cases h
    exact ⟨not_not.mp hstate, htimer, rfl, Option.isSome_iff_ne_none.mp hpos⟩
  · cases h

/-- What the callbacks keep, at the ids of the monsters, holds at every
pass of `CombatSystem`. -/
theorem MonsterEnvironment.Keeps.combatPasses_of_ids {ids : Nat → Prop} {I : σ → Prop}
    (h : env.Keeps ids I) (policy : List K → Fin 5 → K) (dt : K) {w : MonsterWorld K}
    (hw : ∀ i ∈ w.monsters.map Monster.id, ids i) {s : σ} (hs : I s) :
    ∀ v ∈ w.combatPasses env policy dt s, I v.1 := by
  have hmem : ∀ ms : List (Monster K), ms.map Monster.id = w.monsters.map Monster.id →
      ∀ m ∈ ms, ids m.id := fun ms hms m hm => hw _ (hms ▸ List.mem_map_of_mem hm)
  have hids₁ := updateLoop_map (spawnUpdate_id env dt) s w.monsters
  have hids₂ := fun s => (updateLoop_map (AISystem.update_id env policy dt) s _).trans hids₁
  refine visits_state (fun s m _ => h.combatUpdate dt s m) ?_
  refine updateLoop_state (fun s m hm => h.movementUpdate dt s m (hmem _ (hids₂ _) m hm)) ?_
  refine updateLoop_state (fun s m _ => h.aiUpdate policy dt s m) ?_
  exact updateLoop_state (fun s m hm => h.spawnUpdate dt s m (hmem _ rfl m hm)) hs

/-- What the callbacks keep holds at every pass of `CombatSystem`. -/
theorem MonsterEnvironment.Keeps.combatPasses {I : σ → Prop} (h : env.Keeps (fun _ => True) I)
    (policy : List K → Fin 5 → K) (dt : K) (w : MonsterWorld K) {s : σ} (hs : I s) :
    ∀ v ∈ w.combatPasses env policy dt s, I v.1 :=
  h.combatPasses_of_ids policy dt (fun _ _ => trivial) hs

/-- An environment in which attacks do nothing. -/
def MonsterEnvironment.unarmed (env : MonsterEnvironment K σ) : MonsterEnvironment K σ :=
  { env with
    broadcastCombat := fun s _ _ _ _ => s
    broadcastPlayerStat := fun s _ _ _ _ _ => s
    broadcastPlayerState := fun s _ _ => s
    setPlayerStats := fun s _ _ _ => s
    markPlayerDirty := fun s _ => s }

theorem MonsterEnvironment.unarmed_playerAttackMonster (env : MonsterEnvironment K σ) (mid : Nat)
    (ms : List (Monster K)) (s : σ) : MonsterWorld.playerAttackMonster env.unarmed mid ms s =
      MonsterWorld.playerAttackMonster env mid ms s := by
  induction ms with
  | nil => rfl
  | cons m ms ih =>
    unfold MonsterWorld.playerAttackMonster
    rw [ih]
    rfl

/-- What the callbacks keep that no attack makes, and each call of
`attack_player` in a tick of the monsters keeps as a whole, the tick
keeps. -/
theorem MonsterEnvironment.Keeps.update_of_calls {ids : Nat → Prop} {I : σ → Prop}
    (h : env.unarmed.Keeps ids I) (policy : List K → Fin 5 → K) (dt : K) {w : MonsterWorld K}
    (hw : ∀ i ∈ w.monsters.map Monster.id, ids i) {s : σ}
    (hattack : ∀ v ∈ w.combatPasses env policy dt s,
      ∀ pid ∈ CombatSystem.attackCall env dt v.1 v.2, I v.1 →
        I (CombatSystem.attackPlayer env v.1 v.2.id pid v.2.stats.atk)) (hs : I s) :
    I (w.update env policy dt s).2 := by
  have hmem : ∀ ms : List (Monster K), ms.map Monster.id = w.monsters.map Monster.id →
      ∀ m ∈ ms, ids m.id := fun ms hms m hm => hw _ (hms ▸ List.mem_map_of_mem hm)
  have hids₁ := updateLoop_map (spawnUpdate_id env dt) s w.monsters
  have hids₂ := fun s => (updateLoop_map (AISystem.update_id env policy dt) s _).trans hids₁
  refine updateLoop_of_visits (fun v hv hI => ?_) ?_
  · rw [CombatSystem.update_snd]
    cases hcall : CombatSystem.attackCall env dt v.1 v.2 with
    | none => exact hI
    | some pid => exact hattack v hv pid hcall hI
  -- the first three systems do not attack
  · refine updateLoop_state (fun s m hm => h.movementUpdate dt s m (hmem _ (hids₂ _) m hm)) ?_
    refine updateLoop_state (fun s m _ => h.aiUpdate policy dt s m) ?_
    exact updateLoop_state (fun s m hm => h.spawnUpdate dt s m (hmem _ rfl m hm)) hs

/-- The same if every attack on a player with a position keeps it. -/
theorem MonsterEnvironment.Keeps.update_of_attack {ids : Nat → Prop} {I : σ → Prop}
    (h : env.unarmed.Keeps ids I)
    (hattack : ∀ s mid pid atk, env.getPlayerPosition s pid ≠ none → I s →
      I (CombatSystem.attackPlayer env s mid pid atk))
    (policy : List K → Fin 5 → K) (dt : K) {w : MonsterWorld K}
    (hw : ∀ i ∈ w.monsters.map Monster.id, ids i) {s : σ} (hs : I s) :
    I (w.update env policy dt s).2 :=
  h.update_of_calls policy dt hw
    (fun v _ _ hcall => hattack v.1 _ _ _ (CombatSystem.attackCall_eq_some hcall).2.2.2) hs

/-- The calls of a step are those of the passes of its tick. -/
theorem WorldState.mem_attackCalls {st : WorldState K σ} {a : WorldAction K σ} {c : Monster K × Nat}
    (h : c ∈ st.attackCalls env a) :
    ∃ policy dt, a = .update policy dt ∧
      ∃ v ∈ st.world.combatPasses env policy dt st.outside, v.2 = c.1 ∧
        CombatSystem.attackCall env dt v.1 v.2 = some c.2 := by
  cases a with
  | update policy dt =>
    obtain ⟨v, hv, hcall⟩ := List.mem_filterMap.mp h
    obtain ⟨p, hp, rfl⟩ := Option.map_eq_some_iff.mp hcall
    exact ⟨policy, dt, rfl, v, hv, rfl, hp⟩
  | _ => cases h

/-- In every state reached, every monster is aimed. -/
theorem worldSystem_aimed {R : σ → σ → Prop} {l : List (WorldState K σ × WorldAction K σ)}
    {st : WorldState K σ} (r : Run (worldSystem env R) l st) :
    ∀ m ∈ st.world.monsters, Aimed (lastThink env m.id l) m := by
  refine worldSystem_forall (fun l m => Aimed (lastThink env m.id l) m) ?_ ?_ r
  · intro l st mid x y prefabName monsterType maxHp hp maxSp sp atk d _ _ m hm hattack
    -- created patrolling
    simp only [MonsterWorld.createMonster, List.nil_append, List.mem_singleton] at hm
    rw [hm] at hattack
    cases hattack
  · intro l st a m m' _ hnd _ hstep h
    exact h.step hnd hstep

/-- **Hits are only dealt to a target that was in range.** Whenever
`attack_player` is called, in whatever run: the monster lives and attacks,
and at its most recent think it chose this player, whose position was
known then and lay within its range. Of the players only this is needed,
that none has the id 0. -/
theorem hits_in_range
    (hzero : env.Keeps (fun _ => True) fun s => env.getPlayerPosition s 0 = none)
    (l : List (WorldState K σ × WorldAction K σ)) (st : WorldState K σ)
    (r : Run (worldSystem env fun _ _ => True) l st)
    (hplayers : ∀ p ∈ l, env.getPlayerPosition p.1.outside 0 = none) :
    ∀ l₂ p l₁, l = l₂ ++ p :: l₁ → ∀ c ∈ p.1.attackCalls env p.2,
      0 < c.1.stats.hp ∧ c.1.ai.state = .attack ∧
        ∃ rec, lastThink env c.1.id (p :: l₁) = some rec ∧ rec.target = c.2 ∧ rec.InRange := by
  rintro l₂ ⟨st, a⟩ l₁ rfl c hc
  obtain ⟨policy, dt, rfl, v, hv, hvc, hcall⟩ := WorldState.mem_attackCalls hc
  obtain ⟨hstate, -, htarget, hpos⟩ := CombatSystem.attackCall_eq_some hcall
  obtain ⟨m, m₁, s₂, hpasses⟩ := MonsterWorld.mem_combatPasses hv
  have hnd := worldSystem_ids r.before.1
  have haimed : Aimed (lastThink env v.2.id ((st, .update policy dt) :: l₁)) v.2 :=
    (worldSystem_aimed r.before.1 m hpasses.mem).beforeCombat hnd hpasses
  have htargetId : v.2.ai.targetId ≠ 0 := by
    intro h0
    refine hpos ?_
    rw [htarget, h0]
    exact hzero.combatPasses policy dt st.world (hplayers (st, .update policy dt) (by simp)) v hv
  obtain ⟨hhp, hrec⟩ := haimed hstate
  rw [← hvc, htarget]
  exact ⟨hhp, hstate, hrec htargetId⟩

end

/-- The environment of one player, with the id 1, who stands somewhere or
nowhere. -/
def onePlayer : MonsterEnvironment ℚ (Option (ℚ × ℚ)) where
  findClosestPlayer s x y maxDist :=
    match s with
    | none => 0
    | some pos => if AISystem.distSq ⟨x, y⟩ pos < maxDist * maxDist then 1 else 0
  getPlayerPosition s pid := if pid = 1 then s else none
  broadcastCombat s _ _ _ _ := s
  moveInAoi s _ _ _ := s
  broadcastAiState s _ _ := s
  broadcastPlayerState s _ _ := s
  spawnInAoi s _ _ _ := s
  removeFromAoi s _ := s
  broadcastMonsterStat s _ _ _ _ _ := s
  broadcastPlayerStat s _ _ _ _ _ := s
  getPlayerStats s pid := if pid = 1 ∧ s.isSome then some (500, 500, 100, 100) else none
  setPlayerStats s _ _ _ := s
  markPlayerDirty s _ := s

/-- The player stands in front of an archer, who shoots in its first
tick. -/
theorem hits_in_range_archer :
    let start : WorldState ℚ (Option (ℚ × ℚ)) := { outside := some (15, 0) }
    let created := start.step onePlayer (.create 1000 0 0 "BowAndArrow1" 1 200 200 100 100 7 3)
    ∃ c ∈ created.attackCalls onePlayer (.update (fun _ _ => 0) 1), 0 < c.1.stats.hp := by
  intro start created
  have r₀ : Run (worldSystem onePlayer fun _ _ => True) [] start := .start rfl
  have r₁ : Run (worldSystem onePlayer fun _ _ => True) _ created :=
    r₀.next (.create 1000 0 0 "BowAndArrow1" 1 200 200 100 100 7 3)
      ⟨show 1000 ∉ start.ids by decide, rfl⟩
  have r₂ := r₁.next (.update (fun _ _ => 0) 1) ⟨trivial, rfl⟩
  obtain ⟨c, hc⟩ : ∃ c, c ∈ created.attackCalls onePlayer (.update (fun _ _ => 0) 1) := by
    refine List.exists_mem_of_ne_nil _ ?_
    decide +kernel
  have hquiet : onePlayer.Keeps (fun _ => True) fun s => onePlayer.getPlayerPosition s 0 = none :=
    { broadcastCombat := fun _ _ _ _ _ h => h
      broadcastAiState := fun _ _ _ h => h
      broadcastPlayerState := fun _ _ _ h => h
      broadcastMonsterStat := fun _ _ _ _ _ _ h => h
      broadcastPlayerStat := fun _ _ _ _ _ _ h => h
      setPlayerStats := fun _ _ _ _ h => h
      markPlayerDirty := fun _ _ h => h
      moveInAoi := fun _ _ _ _ _ h => h
      spawnInAoi := fun _ _ _ _ _ h => h
      removeFromAoi := fun _ _ _ h => h }
  exact ⟨c, hc, (hits_in_range hquiet _ _ r₂ (fun _ _ => rfl) [] _ _ rfl c hc).1⟩

end MmorpgServer.Field
