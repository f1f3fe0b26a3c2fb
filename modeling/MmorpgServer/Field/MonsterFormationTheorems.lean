/-
MmorpgServer.Field.MonsterFormationTheorems — monsters nobody comes near
walk in formation.

Every monster is created with the same seed in `CAI::rng`, and where it
stands decides nothing but which players it sees. So the wanderings of
monsters that see none are the same walk, each from its own spawn point:
`wandering` is that walk, followed by one monster in a field without
players, and `worldSystem_walks` says that all others that are left alone
follow it. The network, the types and the stats of the monsters do not
matter.
-/
import MmorpgServer.Field.MonsterFleeTheorems
import MmorpgServer.Field.MonsterReplicaTheorems

namespace MmorpgServer.Field

open MmorpgServer.Lib Scalar

variable {K σ τ : Type}

/-! ## One tick of two monsters -/

section

variable [Scalar K]

/-- A monster that is up to nothing. -/
structure Monster.Wandering (m : Monster K) : Prop where
  alive : 0 < m.stats.hp
  strong : ¬ AISystem.LowHp m
  noTarget : m.ai.targetId = 0
  state : m.ai.state = .idle ∨ m.ai.state = .patrol

/-- In this pass the monster sees no one if it thinks. -/
def Monster.ThinksUnseen (env : MonsterEnvironment K σ) (dt : K) (s : σ) (m : Monster K) : Prop :=
  AISystem.thinkRecord env dt s m ≠ none → m.Unseen env (AISystem.announced env dt s m).2

instance [DecidableEq K] (env : MonsterEnvironment K σ) (dt : K) (s : σ) (m : Monster K) :
    Decidable (m.ThinksUnseen env dt s) :=
  inferInstanceAs (Decidable (_ → _ = 0))

/-- A tick of a monster that sees no one if it thinks. -/
def Monster.QuietTick (env : MonsterEnvironment K σ) (policy : List K → Fin 5 → K) (dt : K)
    (m m' : Monster K) : Prop :=
  ∃ s₁ s₂ s₃ s₄, let m₁ := (spawnUpdate env dt s₁ m).1
    m₁.ThinksUnseen env dt s₂ ∧
    m' = (CombatSystem.update env dt s₄
      (MovementSystem.update env dt s₃ (AISystem.update env policy dt s₂ m₁).1).1).1

namespace AISystem

/-- Where a monster stands says nothing about its introduction. -/
theorem sync_congr (env : MonsterEnvironment K σ) (env' : MonsterEnvironment K τ) (s : σ) (s' : τ)
    {m n : Monster K} (h : m.ai = n.ai) : (sync env s m).1 = (sync env' s' n).1 := by
  unfold sync
  simp only [h]
  split <;> rfl

/-- Seeing no one, a monster that is not weak wanders. -/
theorem think_wander {env : MonsterEnvironment K σ} {s : σ} {m : Monster K} (hstrong : ¬ LowHp m)
    (hunseen : m.Unseen env s) {ai : CAI K} (htarget : ai.targetId = 0)
    (policy : List K → Fin 5 → K) (oldState : AiState) :
    think env policy s m oldState ai = wander { ai with targetId := 0 } := by
  rcases selectTarget_cases env s m.transform (if isArcher m then lit 18 else lit 11) ai with
    ⟨target, pos, hne, -, hchoice, -⟩ | ⟨-, -, hsel⟩
  · rcases hchoice with rfl | rfl
    · exact absurd htarget hne
    · exact absurd hunseen hne
  · rw [think_alone env policy s m oldState hsel, if_neg hstrong]

variable {env : MonsterEnvironment K σ} {env' : MonsterEnvironment K τ} {dt : K} {s : σ} {s' : τ}
  {m n : Monster K}

/-- A monster that is alive thinks when its cooldown is over. -/
theorem thinkRecord_ne_none (halive : ¬ m.stats.hp ≤ 0)
    (hwait : ¬ lit 0 < (announced env dt s m).1.thinkCooldown - dt) :
    thinkRecord env dt s m ≠ none := by
  unfold thinkRecord
  simp only
  rw [if_neg halive, if_neg hwait]
  exact Option.some_ne_none _

/-- A pass of a monster that is up to nothing and sees no one: it waits for
its next think, or it wanders. -/
theorem update_wandering (h : m.Wandering) (hunseen : m.ThinksUnseen env dt s)
    (policy : List K → Fin 5 → K) :
    let r := (announced env dt s m).1
    (update env policy dt s m).1.ai =
      if lit 0 < r.thinkCooldown - dt then { r with thinkCooldown := r.thinkCooldown - dt }
      else wander { r with thinkCooldown := lit 0.3, targetId := 0 } := by
  intro r
  have halive : ¬ m.stats.hp ≤ 0 := by
    have := h.alive
    omega
  rw [update_eq]
  unfold decideAi
  simp only
  rw [if_neg halive]
  by_cases hwait : lit 0 < r.thinkCooldown - dt
  · rw [if_pos hwait, if_pos hwait]
  · rw [if_neg hwait, if_neg hwait]
    have htarget : ({ r with thinkCooldown := lit 0.3 } : CAI K).targetId = 0 :=
      (sync_targetId _ _ _).trans h.noTarget
    exact think_wander (m := { m with
      ai := { m.ai with attackCd := max (lit 0) (m.ai.attackCd - dt) }
      stats := { m.stats with dirty := false } }) h.strong
      (hunseen (thinkRecord_ne_none halive hwait)) htarget policy m.ai.state

/-- **One mind.** Two monsters with the same components decide the same. -/
theorem update_alike (h : m.Wandering) (h' : n.Wandering) (hai : m.ai = n.ai)
    (hunseen : m.ThinksUnseen env dt s) (hunseen' : n.ThinksUnseen env' dt s')
    (policy policy' : List K → Fin 5 → K) :
    (update env policy dt s m).1.ai = (update env' policy' dt s' n).1.ai := by
  have hannounced : (announced env dt s m).1 = (announced env' dt s' n).1 :=
    sync_congr env env' s s' (m := { m with
      ai := { m.ai with attackCd := max (lit 0) (m.ai.attackCd - dt) } }) (n := { n with
      ai := { n.ai with attackCd := max (lit 0) (n.ai.attackCd - dt) } }) (by rw [hai])
  rw [update_wandering h hunseen, update_wandering h' hunseen', hannounced]

theorem update_keepsWandering (h : m.Wandering)
    (hunseen : m.ThinksUnseen env dt s) (policy : List K → Fin 5 → K) :
    (update env policy dt s m).1.Wandering := by
  have hstate : (announced env dt s m).1.state = m.ai.state := sync_state _ _ _
  have htarget : (announced env dt s m).1.targetId = 0 := (sync_targetId _ _ _).trans h.noTarget
  have hai := update_wandering h hunseen policy
  simp only at hai
  refine ⟨h.alive, h.strong, ?_, ?_⟩
  · rw [hai]
    split
    · exact htarget
    · exact wander_targetId _
  · rw [hai]
    split
    · simp only
      rw [hstate]
      exact h.state
    · rcases wander_state { (announced env dt s m).1 with
        thinkCooldown := lit 0.3, targetId := 0 } with hs | hs | hs
      · exact .inr hs
      · exact .inl hs
      · rw [hs]
        simp only
        rw [hstate]
        exact h.state

end AISystem

theorem spawnUpdate_of_alive (env : MonsterEnvironment K σ) (dt : K) (s : σ) {m : Monster K}
    (h : 0 < m.stats.hp) : (spawnUpdate env dt s m).1 = m := by
  unfold spawnUpdate
  rw [if_pos h]

namespace CombatSystem

/-- Who wanders has nothing to do with combat. -/
theorem update_wandering (env : MonsterEnvironment K σ) (dt : K) (s : σ) {m : Monster K}
    (h : m.Wandering) :
    (update env dt s m).1 = { m with ai := { m.ai with attackTimer := lit 0 } } := by
  unfold update
  rw [if_pos (by rcases h.state with hs | hs <;> simp [hs])]

end CombatSystem

end

section

variable [ExactScalar K]

namespace MovementSystem

/-- On the move together: two monsters with the same components and no
target go the same way. -/
theorem update_alike (env : MonsterEnvironment K σ) (env' : MonsterEnvironment K τ) (dt : K)
    (s : σ) (s' : τ) {m n : Monster K} (h : m.Wandering) (hai : m.ai = n.ai) :
    (update env dt s m).1.ai = (update env' dt s' n).1.ai ∧
      (update env dt s m).1.transform.x - m.transform.x =
        (update env' dt s' n).1.transform.x - n.transform.x ∧
      (update env dt s m).1.transform.y - m.transform.y =
        (update env' dt s' n).1.transform.y - n.transform.y := by
  have hcourse : course env s m = course env' s' n := by
    unfold course
    rcases h.state with hs | hs <;> simp only [← hai, hs]
  unfold update
  rw [← hcourse, ← hai]
  split
  · split
    · simp [hai]
    · simp [hai]
  · split
    · simp [hai]
    · simp [hai, add_sub_cancel_left]

theorem update_keepsWandering (env : MonsterEnvironment K σ) (dt : K) (s : σ) {m : Monster K}
    (h : m.Wandering) : (update env dt s m).1.Wandering := by
  obtain ⟨-, he⟩ | ⟨-, he⟩ | ⟨-, dirX, dirY, speed, -, he⟩ := update_cases env dt s m <;> rw [he]
  · exact h
  · exact ⟨h.alive, h.strong, (stopMove_targetId _).trans h.noTarget, by
      rw [stopMove_state]
      exact h.state⟩
  · exact ⟨h.alive, h.strong, (setMonsterMove_targetId _ _ _ _).trans h.noTarget, by
      rw [Monster.movedAlong, setMonsterMove_state]
      exact h.state⟩

end MovementSystem

/-! ## The walk -/

/-- A field without players. -/
def deserted : MonsterEnvironment K Unit where
  findClosestPlayer _ _ _ _ := 0
  getPlayerPosition _ _ := none
  broadcastCombat s _ _ _ _ := s
  moveInAoi s _ _ _ := s
  broadcastAiState s _ _ := s
  broadcastPlayerState s _ _ := s
  spawnInAoi s _ _ _ := s
  removeFromAoi s _ := s
  broadcastMonsterStat s _ _ _ _ _ := s
  broadcastPlayerStat s _ _ _ _ _ := s
  getPlayerStats _ _ := none
  setPlayerStats s _ _ _ := s
  markPlayerDirty s _ := s

/-- A monster created in a field without players at the origin, after
ticks of the given durations, the last one first. -/
def wandering : List K → Monster K
  | [] => {
      id := 0
      transform := ⟨lit 0, lit 0⟩
      stats := { maxHp := 1, hp := 1, maxSp := 0, sp := 0, atk := 0, «def» := 0 }
      monsterType := 0
      spawnInfo := {
        spawnX := lit 0, spawnY := lit 0, respawnDelay := lit 0, pendingRespawn := false,
        respawnTimer := lit 0, deadTimer := lit 0 }
      ai := {
        state := .patrol, targetId := 0, thinkCooldown := lit 0, attackCooldown := lit 1,
        attackTimer := lit 0, idlePatrolTimer := lit 0, moveDirX := lit 0, moveDirY := lit 0,
        moveSpeed := lit 0, netSynced := false, rng := 0x12345678, attackCd := lit 0 }
      prefabName := "" }
  | dt :: dts =>
    let m := (spawnUpdate deserted dt () (wandering dts)).1
    let m := (AISystem.update deserted (fun _ _ => lit 0) dt () m).1
    let m := (MovementSystem.update deserted dt () m).1
    (CombatSystem.update deserted dt () m).1

/-- **A tick of two monsters**: what they have in common stays in common,
and they come the same way. -/
theorem Monster.QuietTick.alike {env : MonsterEnvironment K σ} {env' : MonsterEnvironment K τ}
    {policy policy' : List K → Fin 5 → K} {dt : K} {m m' n n' : Monster K}
    (hm : m.QuietTick env policy dt m') (hn : n.QuietTick env' policy' dt n') (h : m.Wandering)
    (h' : n.Wandering) (hai : m.ai = n.ai) :
    m'.Wandering ∧ m'.ai = n'.ai ∧ m'.transform.x - m.transform.x = n'.transform.x - n.transform.x ∧
      m'.transform.y - m.transform.y = n'.transform.y - n.transform.y := by
  obtain ⟨s₁, s₂, s₃, s₄, hunseen, rfl⟩ := hm
  obtain ⟨s₁', s₂', s₃', s₄', hunseen', rfl⟩ := hn
  rw [spawnUpdate_of_alive env dt s₁ h.alive] at hunseen ⊢
  rw [spawnUpdate_of_alive env' dt s₁' h'.alive] at hunseen' ⊢
  have hdecided := AISystem.update_alike h h' hai hunseen hunseen' policy policy'
  have hm₂ := AISystem.update_keepsWandering h hunseen policy
  have hn₂ := AISystem.update_keepsWandering h' hunseen' policy'
  obtain ⟨hmoved, hx, hy⟩ := MovementSystem.update_alike env env' dt s₃ s₃' hm₂ hdecided
  have hm₃ := MovementSystem.update_keepsWandering env dt s₃ hm₂
  have hn₃ := MovementSystem.update_keepsWandering env' dt s₃' hn₂
  rw [CombatSystem.update_wandering env dt s₄ hm₃, CombatSystem.update_wandering env' dt s₄' hn₃]
  refine ⟨⟨hm₃.alive, hm₃.strong, hm₃.noTarget, hm₃.state⟩, ?_, hx, hy⟩
  simp only [hmoved]

theorem wandering_tick (dt : K) (dts : List K) :
    (wandering dts).QuietTick deserted (fun _ _ => lit 0) dt (wandering (dt :: dts)) :=
  ⟨(), (), (), (), fun _ => rfl, rfl⟩

theorem wandering_wanders (dts : List K) : (wandering dts).Wandering := by
  induction dts with
  | nil =>
    refine ⟨Int.one_pos, ?_, rfl, .inr rfl⟩
    rintro ⟨-, hlow⟩
    simp only [wandering, Scalar.ofInt, ExactScalar.lit_eq] at hlow
    norm_num at hlow
  | cons dt dts ih => exact ((wandering_tick dt dts).alike (wandering_tick dt dts) ih ih rfl).1

/-! ## Runs -/

/-- The durations of the ticks since the monster was created, the last one
first. -/
def ticksSince (mid : Nat) : List (WorldState K σ × WorldAction K σ) → Option (List K)
  | [] => none
  | (_, .create mid' _ _ _ _ _ _ _ _ _ _) :: l => if mid' = mid then some [] else ticksSince mid l
  | (_, .update _ dt) :: l => (ticksSince mid l).map (dt :: ·)
  | _ :: l => ticksSince mid l

/-- In a step the monster is left alone: it is created with more than a
quarter of its hp, nobody hits it, and it sees no one when it thinks. -/
def WorldState.LeavesAlone (env : MonsterEnvironment K σ) (mid : Nat) (st : WorldState K σ) :
    WorldAction K σ → Prop
  | .create mid' _ _ _ _ maxHp hp _ _ _ _ => mid' = mid → 0 < hp ∧ maxHp < 4 * hp
  | .attack mid' | .skill mid' => mid' ≠ mid
  | .update policy dt => ∀ v ∈ st.world.aiPasses env policy dt st.outside, v.2.id = mid →
      v.2.ThinksUnseen env dt v.1
  | _ => True

instance [DecidableEq K] (env : MonsterEnvironment K σ) (mid : Nat) (st : WorldState K σ) :
    (a : WorldAction K σ) → Decidable (st.LeavesAlone env mid a)
  | .create _ _ _ _ _ _ _ _ _ _ _ => inferInstanceAs (Decidable (_ → _ ∧ _))
  | .attack _ | .skill _ => inferInstanceAs (Decidable (_ ≠ _))
  | .update _ _ => inferInstanceAs (Decidable (∀ v ∈ _, _ → _))
  | .setRespawnDelay _ _ | .outside _ => inferInstanceAs (Decidable True)

/-- A monster is where its walk has led it. -/
structure Monster.Walks (dts : List K) (m : Monster K) : Prop where
  wanders : m.Wandering
  ai : m.ai = (wandering dts).ai
  x : m.transform.x - m.spawnInfo.spawnX = (wandering dts).transform.x
  y : m.transform.y - m.spawnInfo.spawnY = (wandering dts).transform.y

variable {env : MonsterEnvironment K σ} {R : σ → σ → Prop} {st : WorldState K σ}

theorem Monster.Walks.tick {policy : List K → Fin 5 → K} {dt : K} {dts : List K} {m m' : Monster K}
    (h : m.Walks dts) (ht : m.QuietTick env policy dt m') (hspawn : m'.spawnInfo = m.spawnInfo) :
    m'.Walks (dt :: dts) := by
  obtain ⟨hwanders, hai, hx, hy⟩ :=
    ht.alike (wandering_tick dt dts) h.wanders (wandering_wanders dts) h.ai
  refine ⟨hwanders, hai, ?_, ?_⟩
  · rw [hspawn]
    linear_combination hx + h.x
  · rw [hspawn]
    linear_combination hy + h.y

/-- A created monster stands where its walk begins. -/
theorem Monster.walks_create {mid : Nat} {x y : K} {prefabName : String}
    {monsterType maxHp hp maxSp sp atk d : Int} (hhp : 0 < hp) (hmax : maxHp < 4 * hp)
    {m : Monster K}
    (hm : m ∈ (({} : MonsterWorld K).createMonster mid x y prefabName monsterType maxHp hp maxSp sp
      atk d).monsters) : m.id = mid ∧ m.Walks [] := by
  obtain rfl := List.mem_singleton.mp hm
  refine ⟨rfl, ⟨hhp, ?_, rfl, .inr rfl⟩, rfl, ?_, ?_⟩
  · rintro ⟨hpos, hlow⟩
    have hpos' : (0 : K) < (maxHp : K) := by exact_mod_cast hpos
    have hmax' : (maxHp : K) < 4 * hp := by exact_mod_cast hmax
    simp only [Scalar.ofInt, ExactScalar.lit_eq, Rat.cast_intCast] at hlow
    rw [div_le_iff₀ hpos'] at hlow
    norm_num at hlow
    linarith
  · simp [wandering]
  · simp [wandering]

/-- **Left alone, a monster follows its walk**, from its creation on. -/
theorem Monster.Walks.step {l : List (WorldState K σ × WorldAction K σ)} {a : WorldAction K σ}
    {m m' : Monster K} {dts : List K} (hallowed : st.Allowed R a) (hm : m ∈ st.world.monsters)
    (hstep : MonsterStep env st a m m') (halone : st.LeavesAlone env m.id a)
    (hticks : ticksSince m.id l = some dts) (h : m.Walks dts) :
    ∃ dts', ticksSince m'.id ((st, a) :: l) = some dts' ∧ m'.Walks dts' := by
  cases hstep with
  | same hattack hskill hupdate =>
    refine ⟨dts, ?_, h⟩
    cases a with
    | create mid =>
      have hne : mid ≠ m.id := by
        rintro rfl
        exact hallowed (List.mem_map_of_mem hm)
      simpa [ticksSince, hne] using hticks
    | update policy dt => exact absurd rfl (hupdate policy dt)
    | _ => exact hticks
  | delayed delay =>
    have hwanders := h.wanders
    exact ⟨dts, hticks, ⟨hwanders.alive, hwanders.strong, hwanders.noTarget, hwanders.state⟩, h.ai,
      h.x, h.y⟩
  | hit ha =>
    rcases ha with rfl | rfl
    · exact absurd rfl halone
    · exact absurd rfl halone
  | @tick policy dt _ m₁ s₂ v hv hpasses =>
    have hid := hpasses.id
    have hspawned := hpasses.respawn
    obtain ⟨s₁, hs₁⟩ := hspawned
    obtain ⟨s₃, hs₃⟩ := hpasses.move
    rw [spawnUpdate_of_alive env dt s₁ h.wanders.alive] at hs₁
    subst hs₁
    have hunseen := halone (s₂, m₁) hpasses.ai_mem rfl
    have htick : m₁.QuietTick env policy dt (CombatSystem.update env dt v.1 v.2).1 := by
      refine ⟨s₁, s₂, s₃, v.1, ?_, ?_⟩
      · rw [spawnUpdate_of_alive env dt s₁ h.wanders.alive]
        exact hunseen
      · rw [spawnUpdate_of_alive env dt s₁ h.wanders.alive, ← hs₃]
    have hspawn : (CombatSystem.update env dt v.1 v.2).1.spawnInfo = m₁.spawnInfo := by
      obtain ⟨-, hcombat, -⟩ := CombatSystem.update_stats env dt v.1 v.2
      obtain ⟨-, hmove, -⟩ := MovementSystem.update_stats env dt s₃
        (AISystem.update env policy dt s₂ m₁).1
      rw [hcombat, hs₃, hmove]
      rfl
    refine ⟨dt :: dts, ?_, h.tick htick hspawn⟩
    rw [CombatSystem.update_id, hid.2]
    simp [ticksSince, hticks]

omit [ExactScalar K] in
theorem MonsterStep.id [Scalar K] {a : WorldAction K σ} {st : WorldState K σ} {m m' : Monster K}
    (h : MonsterStep env st a m m') : m'.id = m.id := by
  cases h with
  | same => rfl
  | delayed => rfl
  | hit => exact MonsterWorld.hit_id m
  | tick hv hpasses => rw [CombatSystem.update_id, hpasses.id.2]

theorem worldSystem_walks {l : List (WorldState K σ × WorldAction K σ)}
    (r : Run (worldSystem env R) l st) :
    ∀ m ∈ st.world.monsters, (∀ p ∈ l, p.1.LeavesAlone env m.id p.2) →
      ∃ dts, ticksSince m.id l = some dts ∧ m.Walks dts := by
  induction r with
  | start h =>
    rw [h]
    intro m hm
    cases hm
  | @step l st st' a r h ih =>
    obtain ⟨hallowed, rfl⟩ := h
    intro m' hm' halone
    obtain ⟨hnow, hbefore⟩ := List.forall_mem_cons.mp halone
    obtain ⟨m, hm, hbecomes⟩ |
      ⟨mid, x, y, prefabName, monsterType, maxHp, hp, maxSp, sp, atk, d, rfl, hnew⟩ :=
      WorldState.mem_step (worldSystem_ids r) hm'
    · have hid : m'.id = m.id := hbecomes.id
      rw [hid] at hnow hbefore
      obtain ⟨dts, hticks, hwalks⟩ := ih m hm hbefore
      exact hwalks.step hallowed hm hbecomes hnow hticks
    · obtain rfl : m'.id = mid := by
        obtain rfl := List.mem_singleton.mp hnew
        rfl
      obtain ⟨hhp, hmax⟩ := hnow rfl
      exact ⟨[], if_pos rfl, (Monster.walks_create hhp hmax hnew).2⟩

/-- **Monsters left alone walk in formation.** In every run, two monsters
that were created between the same ticks, with more than a quarter of
their hp, and since then were never hit and saw no player when they
thought, have the same AI component, random state and timers included, and
stand in the same place with respect to their spawn points. -/
theorem left_alone_in_formation (env : MonsterEnvironment K σ) (R : σ → σ → Prop)
    {l : List (WorldState K σ × WorldAction K σ)} {st : WorldState K σ}
    (r : Run (worldSystem env R) l st) {m n : Monster K} (hm : m ∈ st.world.monsters)
    (hn : n ∈ st.world.monsters) (hsince : ticksSince m.id l = ticksSince n.id l)
    (hm' : ∀ p ∈ l, p.1.LeavesAlone env m.id p.2) (hn' : ∀ p ∈ l, p.1.LeavesAlone env n.id p.2) :
    m.ai = n.ai ∧
      m.transform.x - m.spawnInfo.spawnX = n.transform.x - n.spawnInfo.spawnX ∧
      m.transform.y - m.spawnInfo.spawnY = n.transform.y - n.spawnInfo.spawnY := by
  obtain ⟨dts, hticks, hwalks⟩ := worldSystem_walks r m hm hm'
  obtain ⟨dts', hticks', hwalks'⟩ := worldSystem_walks r n hn hn'
  have hdts : dts = dts' := by
    rw [hticks, hticks'] at hsince
    exact Option.some.inj hsince
  subst hdts
  exact ⟨hwalks.ai.trans hwalks'.ai.symm, hwalks.x.trans hwalks'.x.symm,
    hwalks.y.trans hwalks'.y.symm⟩

/-- A player that is there, at `(25, 25)`, or not. -/
def passerBy : MonsterEnvironment ℚ Bool where
  findClosestPlayer there _ _ _ := if there then 1 else 0
  getPlayerPosition there _ := if there then some (25, 25) else none
  broadcastCombat s _ _ _ _ := s
  moveInAoi s _ _ _ := s
  broadcastAiState s _ _ := s
  broadcastPlayerState s _ _ := s
  spawnInAoi s _ _ _ := s
  removeFromAoi s _ := s
  broadcastMonsterStat s _ _ _ _ _ := s
  broadcastPlayerStat s _ _ _ _ _ := s
  getPlayerStats _ _ := none
  setPlayerStats s _ _ _ := s
  markPlayerDirty s _ := s

/-- An archer and a swordsman, 50 apart on one axis, for two ticks. They
think in the first; in the second, while they wait, a player stands beside
the archer. -/
theorem left_alone_in_formation_two :
    ∃ (l : List (WorldState ℚ Bool × WorldAction ℚ Bool)) (st : WorldState ℚ Bool),
      Run (worldSystem passerBy fun _ _ => True) l st ∧ st.ids = [1000, 1001] ∧
      st.outside = true ∧
      ∀ m ∈ st.world.monsters, ∀ n ∈ st.world.monsters, m.id = 1000 → n.id = 1001 →
        m.ai = n.ai ∧ m.transform.x - m.spawnInfo.spawnX = n.transform.x - n.spawnInfo.spawnX ∧
        m.transform.y - m.spawnInfo.spawnY = n.transform.y - n.spawnInfo.spawnY := by
  have r : Run (worldSystem passerBy fun _ _ => True) [] (⟨{}, false⟩ : WorldState ℚ Bool) :=
    .start rfl
  have r := r.next (.create 1000 25 25 "BowAndArrow1" 1 200 200 100 100 7 3)
    ⟨show 1000 ∉ ([] : List Nat) by decide, rfl⟩
  have r := r.next (.create 1001 75 25 "DoubleSword1" 2 250 250 100 100 9 5)
    ⟨show 1001 ∉ [1000] by decide, rfl⟩
  have r := ((r.next (.update (fun _ _ => 0) (1 / 4)) ⟨trivial, rfl⟩).next (.outside true)
    ⟨trivial, rfl⟩).next (.update (fun _ _ => 0) (1 / 4)) ⟨trivial, rfl⟩
  refine ⟨_, _, r, by decide +kernel, by decide +kernel, fun m hm n hn hm' hn' => ?_⟩
  refine left_alone_in_formation passerBy _ r hm hn ?_ ?_ ?_
  · rw [hm', hn']
    rfl
  · rw [hm']
    decide +kernel
  · rw [hn']
    decide +kernel

end

end MmorpgServer.Field
