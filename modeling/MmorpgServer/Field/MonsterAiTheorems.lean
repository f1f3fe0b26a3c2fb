/-
MmorpgServer.Field.MonsterAiTheorems — what a pass of `AISystem::update`
announces, and what it leaves a monster with.

* `AISystem.passByExits` is the loop body with its exits where the source
  has them, one without a comparison and the others with one of their own.
  `update_eq_passByExits` takes it to `AISystem.update`, which compares
  once at the end, and `state_changes_announced` says of a whole loop that
  each change of state is broadcast once.
* A monster in `Chase` or `Attack` has a target, unless a patrol timer
  that was still running kept it in that state after the target was lost
  (`combat_states_have_targets`).
-/
import MmorpgServer.Field.MonsterCombatTheorems

namespace MmorpgServer.Field

open MmorpgServer.Lib Scalar

variable {K σ : Type} [Scalar K]

/-! ## Exits -/

namespace AISystem

/-- `if (ai.state != oldState) env.broadcastAiState(e, ai.state);` and
`continue`. -/
def leave (env : MonsterEnvironment K σ) (s : σ) (mid : Nat) (oldState : AiState) (ai : CAI K) :
    CAI K × σ :=
  (ai, if ai.state ≠ oldState then env.broadcastAiState s mid ai.state else s)

/-- The loop body from the death check on, exit by exit; `s` and `ai` are
what the announcements before it leave. -/
def decideByExits (env : MonsterEnvironment K σ) (policy : List K → Fin 5 → K) (dt : K) (s : σ)
    (m : Monster K) (ai : CAI K) : CAI K × σ :=
  let leave := leave env s m.id m.ai.state
  if m.stats.hp ≤ 0 then leave (stopMove { ai with state := .dead, targetId := 0 })
  else
    let ai := { ai with thinkCooldown := ai.thinkCooldown - dt }
    -- the one exit that does not compare
    if lit 0 < ai.thinkCooldown then (ai, s)
    else
      let archerType := isArcher m
      let sightRange : K := if archerType then lit 18 else lit 11
      let sel := selectTarget env s m.transform sightRange { ai with thinkCooldown := lit 0.3 }
      let ai := sel.1
      let disengageRange := sightRange * lit 1.4
      let tooFar : Bool :=
        match sel.2 with
        | none => false
        | some pos => decide (disengageRange * disengageRange < distSq m.transform pos)
      if tooFar then leave (disengage ai)
      -- both exits of the flight compare
      else if 0 < m.stats.maxHp ∧
          (ofInt m.stats.hp / ofInt m.stats.maxHp : K) ≤ lit 0.25 then
        leave (flee archerType m.transform sel.2 ai)
      else if ai.targetId = 0 then leave (wander ai)
      else match sel.2 with
        | none => leave (stopMove { ai with targetId := 0, state := .idle })
        | some pos =>
          -- the end of the loop body
          leave (if archerType then archer m.transform pos ai
            else melee policy m.transform m.stats pos m.ai.state ai)

/-- The loop body of `AISystem::update`, exit by exit. -/
def passByExits (env : MonsterEnvironment K σ) (policy : List K → Fin 5 → K) (dt : K) (s : σ)
    (m : Monster K) : Monster K × σ :=
  let r := announced env dt s m
  let d := decideByExits env policy dt r.2 m r.1
  ({ m with stats := { m.stats with dirty := false }, ai := d.1 }, d.2)

theorem announced_state (env : MonsterEnvironment K σ) (dt : K) (s : σ) (m : Monster K) :
    (announced env dt s m).1.state = m.ai.state := sync_state _ _ _

/-- Comparing once at the end is comparing at every exit. -/
theorem decideByExits_eq (env : MonsterEnvironment K σ) (policy : List K → Fin 5 → K) (dt : K)
    (s : σ) (m : Monster K) {ai : CAI K} (hai : ai.state = m.ai.state) :
    decideByExits env policy dt s m ai =
      leave env s m.id m.ai.state (decideAi env policy dt s m m.ai.state ai) := by
  unfold decideByExits decideAi
  split
  · rfl
  simp only
  split
  · -- the state is still the old one here
    exact Prod.ext rfl (if_neg (not_not_intro hai)).symm
  unfold think
  simp only
  generalize selectTarget env s m.transform (if isArcher m then lit 18 else lit 11) _ = sel
  obtain ⟨ai, pos⟩ := sel
  cases pos with
  | none => simp only [apply_ite (leave env s m.id m.ai.state), Bool.false_eq_true, if_false]
  | some pos => simp only [apply_ite (leave env s m.id m.ai.state)]

/-- **One comparison or eight**: `AISystem.update` is the loop body with
the exits of the source. -/
theorem update_eq_passByExits (env : MonsterEnvironment K σ) (policy : List K → Fin 5 → K) (dt : K)
    (s : σ) (m : Monster K) : update env policy dt s m = passByExits env policy dt s m := by
  have hai := announced_state env dt s m
  rw [update_eq, passByExits]
  simp only
  rw [decideByExits_eq env policy dt _ m hai]
  rfl

end AISystem

/-! ## Changes of state -/

/-- The environment, with its calls of `broadcastAiState` logged, oldest
first. -/
def MonsterEnvironment.logged (env : MonsterEnvironment K σ) :
    MonsterEnvironment K (σ × List (Nat × AiState)) where
  findClosestPlayer s := env.findClosestPlayer s.1
  getPlayerPosition s := env.getPlayerPosition s.1
  broadcastCombat s mid pid dmg hp := (env.broadcastCombat s.1 mid pid dmg hp, s.2)
  moveInAoi s mid x y := (env.moveInAoi s.1 mid x y, s.2)
  broadcastAiState s mid state := (env.broadcastAiState s.1 mid state, s.2 ++ [(mid, state)])
  broadcastPlayerState s pid state := (env.broadcastPlayerState s.1 pid state, s.2)
  spawnInAoi s mid x y := (env.spawnInAoi s.1 mid x y, s.2)
  removeFromAoi s mid := (env.removeFromAoi s.1 mid, s.2)
  broadcastMonsterStat s mid hp maxHp sp maxSp :=
    (env.broadcastMonsterStat s.1 mid hp maxHp sp maxSp, s.2)
  broadcastPlayerStat s pid hp maxHp sp maxSp :=
    (env.broadcastPlayerStat s.1 pid hp maxHp sp maxSp, s.2)
  getPlayerStats s := env.getPlayerStats s.1
  setPlayerStats s pid hp sp := (env.setPlayerStats s.1 pid hp sp, s.2)
  markPlayerDirty s pid := (env.markPlayerDirty s.1 pid, s.2)

namespace AISystem

/-- The calls of `broadcastAiState` in a pass: the introduction of a
monster, and the change of its state. -/
def stateCalls (env : MonsterEnvironment K σ) (policy : List K → Fin 5 → K) (dt : K) (s : σ)
    (m : Monster K) : List (Nat × AiState) :=
  let ai := (passByExits env policy dt s m).1.ai
  (if m.ai.netSynced then [] else [(m.id, m.ai.state)]) ++
    if ai.state ≠ m.ai.state then [(m.id, ai.state)] else []

theorem announced_log (env : MonsterEnvironment K σ) (dt : K) (s : σ × List (Nat × AiState))
    (m : Monster K) : (announced env.logged dt s m).2.2 =
      s.2 ++ if m.ai.netSynced then [] else [(m.id, m.ai.state)] := by
  have hsync : ∀ ai : CAI K, (sync env.logged s { m with ai }).2.2 =
      s.2 ++ if ai.netSynced then [] else [(m.id, ai.state)] := by
    intro ai
    unfold sync
    simp only
    split
    · exact (List.append_nil s.2).symm
    · rfl
  unfold announced
  simp only
  split
  · exact hsync _
  · exact hsync _

theorem passByExits_log (env : MonsterEnvironment K σ) (policy : List K → Fin 5 → K) (dt : K)
    (s : σ × List (Nat × AiState)) (m : Monster K) :
    (passByExits env.logged policy dt s m).2.2 =
      s.2 ++ stateCalls env.logged policy dt s m := by
  have hai := announced_state env.logged dt s m
  have hlog := announced_log env dt s m
  unfold stateCalls passByExits
  simp only
  rw [decideByExits_eq env.logged policy dt _ m hai]
  unfold leave
  simp only
  split
  · show (announced env.logged dt s m).2.2 ++ [_] = _
    rw [hlog, List.append_assoc]
  · rw [hlog, List.append_nil]

/-- **Every change of state is announced, once.** In one `AISystem::update`
of a world without duplicates, under any answers, any policy and any `dt`,
a monster that clients were told of before is broadcast once, with its
final state, if its state changed, and not at all otherwise. -/
theorem state_changes_announced (env : MonsterEnvironment K σ) (policy : List K → Fin 5 → K)
    (dt : K) (w : MonsterWorld K) (s : σ) (hnd : (w.monsters.map Monster.id).Nodup)
    (m : Monster K) (hm : m ∈ w.monsters) (hsync : m.ai.netSynced = true) :
    ∃ m' ∈ (updateLoop (passByExits env.logged policy dt) (s, []) w.monsters).1, m'.id = m.id ∧
      (updateLoop (passByExits env.logged policy dt) (s, []) w.monsters).2.2.filter
          (fun call => call.1 = m.id) =
        if m'.ai.state ≠ m.ai.state then [(m.id, m'.ai.state)] else [] := by
  obtain ⟨v, hv, rfl⟩ := exists_visit (passByExits env.logged policy dt) (s, []) hm
  refine ⟨_, mem_updateLoop.mpr ⟨v, hv, rfl⟩, rfl, ?_⟩
  have htag : ∀ s m, ∀ call ∈ stateCalls env.logged policy dt s m, call.1 = m.id := by
    intro s m call hcall
    rcases List.mem_append.mp hcall with hcall | hcall
    · split at hcall
      · cases hcall
      · exact congrArg Prod.fst (List.mem_singleton.mp hcall)
    · split at hcall
      · exact congrArg Prod.fst (List.mem_singleton.mp hcall)
      · cases hcall
  have hcalls := updateLoop_log (fun s : σ × List (Nat × AiState) => s.2)
    (passByExits_log env policy dt) htag hnd hv
  simpa [stateCalls, hsync] using hcalls

end AISystem

/-- An archer that clients know, patrolling. -/
def knownArcher : Monster ℚ where
  id := 1000
  transform := ⟨0, 0⟩
  stats := { maxHp := 200, hp := 200, maxSp := 100, sp := 100, atk := 7, «def» := 3 }
  monsterType := 1
  spawnInfo := ⟨0, 0, 0, false, 0, 0⟩
  ai := ⟨.patrol, 0, 0, 1, 0, 0, 0, 0, 0, true, 0x12345678, 0⟩
  prefabName := "BowAndArrow1"

/-- A player comes in front of the archer, who announces its attack. -/
theorem state_changes_announced_archer :
    let after := updateLoop (AISystem.passByExits onePlayer.logged (fun _ _ => 0) (1 / 10))
      (some (15, 0), []) [knownArcher]
    ∃ m' ∈ after.1, m'.id = 1000 ∧ m'.ai.state = .attack ∧
      after.2.2.filter (fun call => call.1 = 1000) = [(1000, .attack)] := by
  intro after
  obtain ⟨m', hm', hid, hcalls⟩ := AISystem.state_changes_announced onePlayer (fun _ _ => 0)
    (1 / 10) ⟨[knownArcher]⟩ (some (15, 0)) (by decide) knownArcher List.mem_cons_self rfl
  have hattacks : ∀ m ∈ after.1, m.ai.state = .attack := by decide +kernel
  refine ⟨m', hm', hid, hattacks m' hm', hcalls.trans ?_⟩
  rw [hattacks m' hm']
  rfl

/-! ## Targets -/

namespace AISystem

/-- No player is found: the target, if any, has no position, nor has the
closest player in sight, if any. -/
def NoTarget (env : MonsterEnvironment K σ) (s : σ) (m : Monster K) : Prop :=
  (m.ai.targetId ≠ 0 → env.getPlayerPosition s m.ai.targetId = none) ∧
    let closest := env.findClosestPlayer s m.transform.x m.transform.y
      (if isArcher m then lit 18 else lit 11)
    closest ≠ 0 → env.getPlayerPosition s closest = none

def LowHp (m : Monster K) : Prop :=
  0 < m.stats.maxHp ∧ (ofInt m.stats.hp / ofInt m.stats.maxHp : K) ≤ lit 0.25

instance (env : MonsterEnvironment K σ) (s : σ) (m : Monster K) :
    Decidable (NoTarget env s m) :=
  inferInstanceAs (Decidable (_ ∧ (_ → _)))

instance (m : Monster K) : Decidable (LowHp m) := inferInstanceAs (Decidable (_ ∧ _))

/-- A monster in combat finds no player, is not so weak that it flees, and
still has time left of a patrol or rest from before the combat. -/
structure Strands (env : MonsterEnvironment K σ) (s : σ) (m : Monster K) : Prop where
  combat : m.ai.state = .chase ∨ m.ai.state = .attack
  noTarget : NoTarget env s m
  strong : ¬ LowHp m
  timer : ¬ m.ai.idlePatrolTimer ≤ lit 0

instance (env : MonsterEnvironment K σ) (s : σ) (m : Monster K) : Decidable (Strands env s m) :=
  decidable_of_iff ((m.ai.state = .chase ∨ m.ai.state = .attack) ∧ NoTarget env s m ∧
      ¬ LowHp m ∧ ¬ m.ai.idlePatrolTimer ≤ lit 0)
    ⟨fun ⟨hcombat, hnone, hstrong, htimer⟩ => ⟨hcombat, hnone, hstrong, htimer⟩,
      fun h => ⟨h.combat, h.noTarget, h.strong, h.timer⟩⟩

omit [Scalar K] in
/-- A target is selected with its position, or no player is found. -/
theorem selectTarget_cases (env : MonsterEnvironment K σ) (s : σ) (tr : CTransform K)
    (sightRange : K) (ai : CAI K) :
    (∃ target pos, target ≠ 0 ∧ env.getPlayerPosition s target = some pos ∧
      (target = ai.targetId ∨ target = env.findClosestPlayer s tr.x tr.y sightRange) ∧
      selectTarget env s tr sightRange ai = ({ ai with targetId := target }, some pos)) ∨
    (ai.targetId ≠ 0 → env.getPlayerPosition s ai.targetId = none) ∧
      (env.findClosestPlayer s tr.x tr.y sightRange ≠ 0 →
        env.getPlayerPosition s (env.findClosestPlayer s tr.x tr.y sightRange) = none) ∧
      selectTarget env s tr sightRange ai = ({ ai with targetId := 0 }, none) := by
  unfold selectTarget
  cases hknown : if ai.targetId ≠ 0 then env.getPlayerPosition s ai.targetId else none with
  | some pos =>
    have htarget : ai.targetId ≠ 0 := by
      intro h0
      rw [if_neg (not_not_intro h0)] at hknown
      cases hknown
    rw [if_pos htarget] at hknown
    exact .inl ⟨ai.targetId, pos, htarget, hknown, .inl rfl, rfl⟩
  | none =>
    have hlost : ai.targetId ≠ 0 → env.getPlayerPosition s ai.targetId = none := by
      intro htarget
      rw [if_pos htarget] at hknown
      exact hknown
    simp only
    by_cases hzero : env.findClosestPlayer s tr.x tr.y sightRange = 0
    · rw [if_pos hzero]
      exact .inr ⟨hlost, fun h => absurd hzero h, rfl⟩
    rw [if_neg hzero]
    cases hpos : env.getPlayerPosition s (env.findClosestPlayer s tr.x tr.y sightRange) with
    | none => exact .inr ⟨hlost, fun _ => rfl, rfl⟩
    | some pos => exact .inl ⟨_, pos, hzero, hpos, .inr rfl, rfl⟩

/-- Without a target a monster patrols or rests, but only once the timer
has run out. -/
theorem wander_state_eq (ai : CAI K) :
    (ai.idlePatrolTimer ≤ lit 0 → (wander ai).state = .patrol ∨ (wander ai).state = .idle) ∧
      (¬ ai.idlePatrolTimer ≤ lit 0 → (wander ai).state = ai.state) := by
  unfold wander
  constructor
  · intro htimer
    rw [if_pos htimer]
    simp only
    split
    · exact .inl (setMonsterMove_state _ _ _ _)
    · exact .inr (stopMove_state _)
  · intro htimer
    rw [if_neg htimer]
    simp only
    split
    · exact stopMove_state _
    · exact setMonsterMove_state _ _ _ _

theorem sync_idlePatrolTimer (env : MonsterEnvironment K σ) (s : σ) (m : Monster K) :
    (sync env s m).1.idlePatrolTimer = m.ai.idlePatrolTimer := by
  unfold sync
  simp only
  split
  · rfl
  · split <;> simp [stopMove]

/-- A think that has found a player keeps it as its target. -/
theorem think_found (env : MonsterEnvironment K σ) (policy : List K → Fin 5 → K) (s : σ)
    (m : Monster K) (oldState : AiState) {ai : CAI K} {target : Nat} {pos : K × K}
    (hzero : target ≠ 0) (hpos : env.getPlayerPosition s target = some pos)
    (hsel : selectTarget env s m.transform (if isArcher m then lit 18 else lit 11) ai =
      ({ ai with targetId := target }, some pos)) :
    let ai' := think env policy s m oldState ai
    (ai'.state = .chase ∨ ai'.state = .attack) →
      ai'.targetId ≠ 0 ∧ env.getPlayerPosition s ai'.targetId ≠ none := by
  have hkept : ∀ ai'' : CAI K, ai''.targetId = target →
      ai''.targetId ≠ 0 ∧ env.getPlayerPosition s ai''.targetId ≠ none := by
    rintro ai'' rfl
    exact ⟨hzero, by rw [hpos]; exact Option.some_ne_none pos⟩
  let P : CAI K → Prop := fun ai'' => (ai''.state = .chase ∨ ai''.state = .attack) →
    ai''.targetId ≠ 0 ∧ env.getPlayerPosition s ai''.targetId ≠ none
  show P (think env policy s m oldState ai)
  unfold think
  simp only
  rw [hsel]
  refine iteInduction (motive := P) (fun _ h => ?_) fun _ => ?_
  · simp [disengage] at h
  refine iteInduction (motive := P) (fun _ h => ?_) fun _ => ?_
  · rcases flee_state (isArcher m) m.transform (some pos) { ai with targetId := target } with
      hs | hs <;> simp [hs] at h
  refine iteInduction (motive := P) (fun h0 _ => absurd h0 hzero) fun _ => ?_
  refine iteInduction (motive := P) (fun _ _ => ?_) fun _ _ => ?_
  · exact hkept _ (archer_targetId _ _ _)
  · exact hkept _ (melee_targetId _ _ _ _ _ _)

/-- A think that has found none flees or wanders. -/
theorem think_alone (env : MonsterEnvironment K σ) (policy : List K → Fin 5 → K) (s : σ)
    (m : Monster K) (oldState : AiState) {ai : CAI K}
    (hsel : selectTarget env s m.transform (if isArcher m then lit 18 else lit 11) ai =
      ({ ai with targetId := 0 }, none)) :
    think env policy s m oldState ai =
      if LowHp m then flee (isArcher m) m.transform none { ai with targetId := 0 }
      else wander { ai with targetId := 0 } := by
  unfold think
  simp only
  rw [hsel]
  exact if_neg Bool.false_ne_true

/-- **A think that ends in combat** has a target whose position is known,
or it found no player and changed nothing. -/
theorem think_combat (env : MonsterEnvironment K σ) (policy : List K → Fin 5 → K) (s : σ)
    (m : Monster K) (oldState : AiState) {ai : CAI K} (htarget : ai.targetId = m.ai.targetId)
    (hstate : ai.state = m.ai.state) (htimer : ai.idlePatrolTimer = m.ai.idlePatrolTimer) :
    let ai' := think env policy s m oldState ai
    ((ai'.state = .chase ∨ ai'.state = .attack) →
      ai'.targetId ≠ 0 ∧ env.getPlayerPosition s ai'.targetId ≠ none) ↔ ¬ Strands env s m := by
  intro ai'
  rcases selectTarget_cases env s m.transform (if isArcher m then lit 18 else lit 11) ai with
    ⟨target, pos, hzero, hpos, hchoice, hsel⟩ | ⟨hlost, hclosest, hsel⟩
  · -- a target was found
    refine iff_of_true (think_found env policy s m oldState hzero hpos hsel) ?_
    rintro ⟨-, ⟨hlost, hclosest⟩, -, -⟩
    have hnone : env.getPlayerPosition s target = none := by
      rcases hchoice with rfl | rfl
      · exact htarget ▸ hlost (htarget ▸ hzero)
      · exact hclosest hzero
    rw [hpos] at hnone
    cases hnone
  · have hnone : NoTarget env s m := ⟨htarget ▸ hlost, hclosest⟩
    have hthink := think_alone env policy s m oldState hsel
    change ai' = _ at hthink
    by_cases hlow : LowHp m
    · -- fleeing
      rw [if_pos hlow] at hthink
      refine iff_of_true (fun h => ?_) fun hstrands => hstrands.strong hlow
      rw [hthink] at h
      rcases flee_state (isArcher m) m.transform none { ai with targetId := 0 } with hs | hs <;>
        simp [hs] at h
    rw [if_neg hlow] at hthink
    obtain ⟨hrested, hrunning⟩ := wander_state_eq { ai with targetId := 0 }
    have hzero : ai'.targetId = 0 := by rw [hthink, wander_targetId]
    by_cases htime : m.ai.idlePatrolTimer ≤ lit 0
    · -- the state is drawn anew
      refine iff_of_true (fun h => ?_) fun hstrands => hstrands.timer htime
      rw [hthink] at h
      rcases hrested (htimer ▸ htime) with hs | hs <;> simp [hs] at h
    · have hsame : ai'.state = m.ai.state := by
        rw [hthink, hrunning (htimer ▸ htime)]
        exact hstate
      rw [hsame]
      constructor
      · rintro h ⟨hcombat, -, -, -⟩
        exact (h hcombat).1 hzero
      · intro h hcombat
        exact absurd ⟨hcombat, hnone, hlow, htime⟩ h

/-- A recorded think, as the pass does it: what the pass decides is what
`think` does with the monster as it is then. -/
theorem update_of_thinkRecord {env : MonsterEnvironment K σ} {dt : K} {s : σ} {m : Monster K}
    {rec : ThinkRecord K} (h : thinkRecord env dt s m = some rec) (policy : List K → Fin 5 → K) :
    ∃ m₁ ai, m₁ = { m with
        ai := { m.ai with attackCd := max (lit 0) (m.ai.attackCd - dt) }
        stats := { m.stats with dirty := false } } ∧
      (ai.targetId = m.ai.targetId ∧ ai.state = m.ai.state ∧
        ai.idlePatrolTimer = m.ai.idlePatrolTimer) ∧
      (update env policy dt s m).1.ai =
        think env policy (announced env dt s m).2 m₁ m.ai.state ai ∧
      rec = {
        archer := isArcher m, place := m.transform, attackCd := ai.attackCd
        target := (selectTarget env (announced env dt s m).2 m.transform
          (if isArcher m then lit 18 else lit 11) ai).1.targetId
        targetPos := (selectTarget env (announced env dt s m).2 m.transform
          (if isArcher m then lit 18 else lit 11) ai).2 } := by
  unfold thinkRecord at h
  simp only at h
  split at h
  · cases h
  rename_i hhp
  split at h
  · cases h
  rename_i hcooldown
  refine ⟨_, { (announced env dt s m).1 with thinkCooldown := lit 0.3 }, rfl,
    ⟨sync_targetId _ _ _, sync_state _ _ _, sync_idlePatrolTimer _ _ _⟩, ?_,
    (Option.some_inj.mp h).symm⟩
  rw [update_eq]
  unfold decideAi
  simp only
  rw [if_neg hhp, if_neg hcooldown]

/-- A pass without a think leaves state and target alone, unless the
monster is dead. -/
theorem update_of_no_think {env : MonsterEnvironment K σ} {dt : K} {s : σ} {m : Monster K}
    (h : thinkRecord env dt s m = none) (policy : List K → Fin 5 → K) :
    (update env policy dt s m).1.ai.state = .dead ∨
      (update env policy dt s m).1.ai.state = m.ai.state ∧
        (update env policy dt s m).1.ai.targetId = m.ai.targetId := by
  unfold thinkRecord at h
  simp only at h
  rw [update_eq]
  unfold decideAi
  simp only
  split at h
  · rename_i hhp
    rw [if_pos hhp]
    exact .inl (stopMove_state _)
  rename_i hhp
  split at h
  · rename_i hcooldown
    rw [if_neg hhp, if_pos hcooldown]
    exact .inr ⟨sync_state _ _ _, sync_targetId _ _ _⟩
  · cases h

/-- The think of a pass ends in combat with a target whose position is
known, exactly if it strands no one. -/
theorem update_combat {env : MonsterEnvironment K σ} {dt : K} {s : σ} {m : Monster K}
    (h : thinkRecord env dt s m ≠ none) (policy : List K → Fin 5 → K) :
    let ai := (update env policy dt s m).1.ai
    ((ai.state = .chase ∨ ai.state = .attack) → ai.targetId ≠ 0 ∧
      env.getPlayerPosition (announced env dt s m).2 ai.targetId ≠ none) ↔
      ¬ Strands env (announced env dt s m).2 m := by
  obtain ⟨rec, hrec⟩ := Option.ne_none_iff_exists'.mp h
  obtain ⟨m₁, ai, rfl, ⟨htarget, hstate, htimer⟩, hupdate, -⟩ := update_of_thinkRecord hrec policy
  simp only
  rw [hupdate]
  have hthink := think_combat env policy (announced env dt s m).2 { m with
    ai := { m.ai with attackCd := max (lit 0) (m.ai.attackCd - dt) }
    stats := { m.stats with dirty := false } } m.ai.state htarget hstate htimer
  refine hthink.trans (not_congr ⟨fun h => ?_, fun h => ?_⟩)
  · exact ⟨h.combat, h.noTarget, h.strong, h.timer⟩
  · exact ⟨h.combat, h.noTarget, h.strong, h.timer⟩

end AISystem

namespace WorldState

/-- Every think of the step that ends in combat ends with a target whose
position is known. -/
def TargetsKnown (env : MonsterEnvironment K σ) (st : WorldState K σ) : WorldAction K σ → Prop
  | .update policy dt => ∀ v ∈ st.world.aiPasses env policy dt st.outside,
    AISystem.thinkRecord env dt v.1 v.2 ≠ none →
      let ai := (AISystem.update env policy dt v.1 v.2).1.ai
      (ai.state = .chase ∨ ai.state = .attack) → ai.targetId ≠ 0 ∧
        env.getPlayerPosition (AISystem.announced env dt v.1 v.2).2 ai.targetId ≠ none
  | _ => True

/-- No think of the step strands a monster. -/
def StrandsNone (env : MonsterEnvironment K σ) (st : WorldState K σ) : WorldAction K σ → Prop
  | .update policy dt => ∀ v ∈ st.world.aiPasses env policy dt st.outside,
    AISystem.thinkRecord env dt v.1 v.2 ≠ none →
      ¬ AISystem.Strands env (AISystem.announced env dt v.1 v.2).2 v.2
  | _ => True

instance (env : MonsterEnvironment K σ) (st : WorldState K σ) (a : WorldAction K σ) :
    Decidable (st.StrandsNone env a) := by
  unfold StrandsNone
  split <;> infer_instance

end WorldState

/-- A monster in combat has a target. -/
def Monster.Targets (m : Monster K) : Prop :=
  m.ai.state = .chase ∨ m.ai.state = .attack → m.ai.targetId ≠ 0

theorem Monster.Targets.tick {env : MonsterEnvironment K σ} {policy : List K → Fin 5 → K} {dt : K}
    {st : WorldState K σ} {m m₁ : Monster K} {s₂ : σ} {v : σ × Monster K} (h : m.Targets)
    (hthinks : st.StrandsNone env (.update policy dt))
    (hpasses : MonsterWorld.ThreePasses env policy dt st.world st.outside m m₁ v.2 s₂) :
    (CombatSystem.update env dt v.1 v.2).1.Targets := by
  obtain ⟨s₁, hspawn⟩ := hpasses.respawn
  obtain ⟨s₃, hmove⟩ := hpasses.move
  have hm₁ : m₁.Targets := by
    obtain ⟨-, he⟩ | ⟨-, -, he⟩ | ⟨-, -, he⟩ := spawnUpdate_cases env dt s₁ m <;> rw [hspawn, he]
    · exact h
    · exact h
    · rintro (hstate | hstate) <;> cases hstate
  have hm₂ : (AISystem.update env policy dt s₂ m₁).1.Targets := by
    by_cases hthink : AISystem.thinkRecord env dt s₂ m₁ = none
    · obtain hdead | ⟨hstate, htarget⟩ := AISystem.update_of_no_think hthink policy
      · rintro (hs | hs) <;> rw [hdead] at hs <;> cases hs
      · unfold Targets
        rw [hstate, htarget]
        exact hm₁
    · have hcombat := (AISystem.update_combat hthink policy).mpr
        (hthinks (s₂, m₁) hpasses.ai_mem hthink)
      exact fun hs => (hcombat hs).1
  have hm₃ : v.2.Targets := by
    rw [hmove]
    obtain ⟨-, he⟩ | ⟨-, he⟩ | ⟨-, _, _, _, -, he⟩ := MovementSystem.update_cases env dt s₃
      (AISystem.update env policy dt s₂ m₁).1 <;> rw [he]
    · exact hm₂
    · simpa [Targets] using hm₂
    · simpa [Targets, Monster.movedAlong] using hm₂
  obtain ⟨_, _, he⟩ := CombatSystem.update_fst env dt v.1 v.2
  rw [he]
  exact hm₃

theorem Monster.Targets.hit {m : Monster K} (h : m.Targets) : (MonsterWorld.hit m).1.Targets := by
  unfold MonsterWorld.hit
  simp only
  split
  · rintro (hs | hs) <;> cases hs
  · exact h

/-- **Combat states and targets.** In every run, the thinks of a step all
leave a monster in `Chase` or `Attack` with a target whose position is
known, exactly if none of them strands a monster; and as long as none
does, every monster in these states has a target at all times. -/
theorem combat_states_have_targets (env : MonsterEnvironment K σ) (R : σ → σ → Prop)
    {l : List (WorldState K σ × WorldAction K σ)} {st : WorldState K σ}
    (r : Run (worldSystem env R) l st) :
    (∀ p ∈ l, p.1.TargetsKnown env p.2 ↔ p.1.StrandsNone env p.2) ∧
      ((∀ p ∈ l, p.1.StrandsNone env p.2) → ∀ m ∈ st.world.monsters, m.Targets) := by
  constructor
  · rintro ⟨st, a⟩ -
    cases a with
    | update policy dt =>
      exact forall₃_congr fun v _ hthink => AISystem.update_combat hthink policy
    | _ => exact Iff.rfl
  · intro hall
    have hrule := worldSystem_forall
      (fun (l : List (WorldState K σ × WorldAction K σ)) m =>
        (∀ p ∈ l, p.1.StrandsNone env p.2) → m.Targets) ?_ ?_ r
    · exact fun m hm => hrule m hm hall
    · intro l st mid x y prefabName monsterType maxHp hp maxSp sp atk d _ _ m hm _
      -- created patrolling
      simp only [MonsterWorld.createMonster, List.nil_append, List.mem_singleton] at hm
      rw [hm]
      rintro (hs | hs) <;> cases hs
    · intro l st a m m' _ _ _ hstep ih hall
      rw [List.forall_mem_cons] at hall
      have h := ih hall.2
      cases hstep with
      | same _ _ _ => exact h
      | delayed delay => exact h
      | hit _ => exact h.hit
      | tick _ hpasses => exact h.tick hall.1 hpasses

/-- An archer patrols, a player comes into range and is shot at. -/
def shootingArcher : WorldState ℚ (Option (ℚ × ℚ)) :=
  let st : WorldState ℚ (Option (ℚ × ℚ)) := { outside := none }
  let st := st.step onePlayer (.create 1000 0 0 "BowAndArrow1" 1 200 200 100 100 7 3)
  let st := st.step onePlayer (.update (fun _ _ => 0) (1 / 10))
  let st := st.step onePlayer (.outside (some (15, 0)))
  st.step onePlayer (.update (fun _ _ => 0) (3 / 10))

theorem shootingArcher_run : ∃ l, Run (worldSystem onePlayer fun _ _ => True) l shootingArcher ∧
    ∀ p ∈ l, p.1.StrandsNone onePlayer p.2 := by
  have r : Run (worldSystem onePlayer fun _ _ => True) [] { outside := none } := .start rfl
  have r := r.next (.create 1000 0 0 "BowAndArrow1" 1 200 200 100 100 7 3)
    ⟨show 1000 ∉ [] by decide, rfl⟩
  have r := r.next (.update (fun _ _ => 0) (1 / 10)) ⟨trivial, rfl⟩
  have r := r.next (.outside (some (15, 0))) ⟨trivial, rfl⟩
  refine ⟨_, r.next (.update (fun _ _ => 0) (3 / 10)) ⟨trivial, rfl⟩, ?_⟩
  simp only [List.forall_mem_cons, List.not_mem_nil, false_implies, implies_true, and_true]
  decide +kernel

/-- The archer attacks, and has the player as its target. -/
theorem combat_states_have_targets_archer : ∃ l, Run (worldSystem onePlayer fun _ _ => True) l
    shootingArcher ∧ (∀ p ∈ l, p.1.TargetsKnown onePlayer p.2) ∧
      ∃ m ∈ shootingArcher.world.monsters, m.ai.state = .attack ∧ m.ai.targetId ≠ 0 := by
  obtain ⟨l, r, hstrands⟩ := shootingArcher_run
  obtain ⟨hknown, htargets⟩ := combat_states_have_targets onePlayer (fun _ _ => True) r
  have hattacks : ∃ m ∈ shootingArcher.world.monsters, m.ai.state = .attack := by decide +kernel
  obtain ⟨m, hm, hstate⟩ := hattacks
  exact ⟨l, r, fun p hp => (hknown p hp).mpr (hstrands p hp), m, hm, hstate,
    htargets hstrands m hm (.inr hstate)⟩

/-- **The player leaves**: at its next think the archer goes on attacking,
without a target. -/
theorem combat_states_have_targets_fails :
    ∃ l st, Run (worldSystem onePlayer fun _ _ => True) l st ∧
      ∃ p ∈ l, ¬ p.1.TargetsKnown onePlayer p.2 := by
  obtain ⟨l, r, -⟩ := shootingArcher_run
  have r := r.next (.outside none) ⟨trivial, rfl⟩
  refine ⟨_, _, r.next (.update (fun _ _ => 0) (3 / 10)) ⟨trivial, rfl⟩, _, List.mem_cons_self, ?_⟩
  intro h
  obtain ⟨v, hv, hthink, hattack, hzero⟩ : ∃ v ∈ MonsterWorld.aiPasses onePlayer (fun _ _ => 0)
      (3 / 10) (shootingArcher.step onePlayer (.outside none)).world none,
      AISystem.thinkRecord onePlayer (3 / 10) v.1 v.2 ≠ none ∧
        (AISystem.update onePlayer (fun _ _ => 0) (3 / 10) v.1 v.2).1.ai.state = .attack ∧
        (AISystem.update onePlayer (fun _ _ => 0) (3 / 10) v.1 v.2).1.ai.targetId = 0 := by
    decide +kernel
  exact (h v hv hthink (.inr hattack)).1 hzero

end MmorpgServer.Field
