/-
MmorpgServer.Field.MonsterPolicyTheorems — the observation a policy is
given, and the gate its answer has to pass.

Both ask whether the target is in range, whether the cooldown is over and
whether the hp are low, each with its own formula: the observation takes
the root of the squared distance and clamps the ratio of the hp, the gate
takes a squared distance of at most `10^-12` for zero and clamps nothing.
In exact arithmetic they agree.

* `gate_eq` — the gate of a monster that is not low on hp.
* `distance_le_iff`, `makeObs16_ready`, `makeObs16_strong` — the flags of
  the observation, in the terms of the gate.
* `policy_gate_agrees_with_observation` — the state a think ends in.
-/
import MmorpgServer.Field.MonsterFleeTheorems

namespace MmorpgServer.Field

open MmorpgServer.Lib Scalar

namespace AISystem

/-! ## The think of a monster with a target -/

section

variable {K σ : Type} [Scalar K] {env : MonsterEnvironment K σ}

/-- What the policy is asked: the observation of a think. -/
def observation (m : Monster K) (rec : ThinkRecord K) (pos : K × K) : List K :=
  makeObs16 (some pos) rec.place.x rec.place.y (ofInt m.stats.hp) (ofInt m.stats.maxHp)
    rec.attackCd m.ai.state {}

/-- A melee monster that is neither too far from its target nor low on hp
asks the policy. -/
theorem think_melee (policy : List K → Fin 5 → K) (s : σ) (m : Monster K) (oldState : AiState)
    {ai sel : CAI K} {pos : K × K} (hmelee : isArcher m = false)
    (hsel : selectTarget env s m.transform (lit 11) ai = (sel, some pos))
    (hnear : ¬ lit 11 * lit 1.4 * (lit 11 * lit 1.4) < distSq m.transform pos)
    (hstrong : ¬ LowHp m) :
    think env policy s m oldState ai = melee policy m.transform m.stats pos oldState sel := by
  have htarget : sel.targetId ≠ 0 := by
    rcases selectTarget_cases env s m.transform (lit 11) ai with
      ⟨target, pos', hzero, -, -, hfound⟩ | ⟨-, -, hnone⟩
    · rw [hsel, Prod.mk.injEq] at hfound
      rw [hfound.1]
      exact hzero
    · rw [hsel, Prod.mk.injEq] at hnone
      exact absurd hnone.2 (Option.some_ne_none pos)
  unfold think
  simp only [hmelee, Bool.false_eq_true, if_false]
  rw [hsel]
  simp only
  rw [decide_eq_false hnear, if_neg Bool.false_ne_true]
  exact (if_neg hstrong).trans (if_neg htarget)

/-- Such a monster ends up in the state that the gate lets pass. -/
theorem update_melee {dt : K} {s : σ} {m : Monster K} {rec : ThinkRecord K}
    (h : thinkRecord env dt s m = some rec) (hmelee : m.monsterType ≠ 1) {pos : K × K}
    (hpos : rec.targetPos = some pos)
    (hnear : ¬ lit 11 * lit 1.4 * (lit 11 * lit 1.4) < distSq m.transform pos)
    (hstrong : ¬ LowHp m) (policy : List K → Fin 5 → K) :
    (update env policy dt s m).1.ai.state = gate m.stats (distance m.transform pos) rec.attackCd
      (AiState.ofAction (argMax5 (policy (observation m rec pos)))) := by
  have harcher : isArcher m = false := decide_eq_false hmelee
  obtain ⟨m₁, ai, hm₁, -, hupdate, rfl⟩ := update_of_thinkRecord h policy
  have htransform : m₁.transform = m.transform := by rw [hm₁]
  simp only [harcher, Bool.false_eq_true, if_false, ← htransform] at hpos
  have hthink := think_melee policy (announced env dt s m).2 m₁ m.ai.state
    (show isArcher m₁ = false by rw [hm₁]; exact harcher) (Prod.ext rfl hpos)
    (htransform ▸ hnear) (show ¬ LowHp m₁ by rw [hm₁]; exact hstrong)
  rw [hupdate, hthink, melee_state_eq, (selectTarget_kept env _ m₁.transform _ _).attackCd, hm₁]
  rfl

/-- The gate of a monster that is not low on hp: it rests instead of
patrolling, chases instead of fleeing, and attacks only in range and with
the cooldown over. -/
theorem gate_eq {stats : CStats} (hmax : 0 < stats.maxHp)
    (hratio : (lit 0.25 : K) < ofInt stats.hp / ofInt stats.maxHp) (dist attackCd : K)
    (a : AiState) :
    gate stats dist attackCd a =
      match a with
      | .attack => if dist ≤ lit 1.3 ∧ attackCd ≤ lit 0 then .attack else .chase
      | .patrol => .idle
      | .return => .chase
      | a => a := by
  cases a with
  | attack =>
    by_cases hready : dist ≤ lit 1.3 ∧ attackCd ≤ lit 0 <;> simp [gate, hready]
  | «return» => simp [gate, hmax, hratio]
  | _ => simp [gate]

end

end AISystem

/-! ## The two formulas -/

section

variable {K : Type} [ExactScalar K]

/-- The flags of an observation are told apart. -/
theorem flag_eq_one_iff (c : Bool) : (if c then lit 1 else lit 0 : K) = 1 ↔ c = true := by
  cases c <;> simp [ExactScalar.lit_eq]

theorem flag_eq_zero_iff (c : Bool) : (if c then lit 1 else lit 0 : K) = 0 ↔ c = false := by
  cases c <;> simp [ExactScalar.lit_eq]

/-- A distance that the gate takes for zero is in range anyway. -/
theorem AISystem.distance_le_iff [ExactRoots K] (tr : CTransform K) (pos : K × K) {range : K}
    (hrange : 0.000001 ≤ range) :
    distance tr pos ≤ range ↔
      sqrt ((pos.1 - tr.x) * (pos.1 - tr.x) + (pos.2 - tr.y) * (pos.2 - tr.y)) ≤ range := by
  have hnonneg : (0 : K) ≤ distSq tr pos := add_nonneg (mul_self_nonneg _) (mul_self_nonneg _)
  unfold distance
  split
  · rfl
  · rename_i hsmall
    have hroot : ExactScalar.root (distSq tr pos) ≤ 0.000001 := by
      refine ExactScalar.root_le hnonneg (by norm_num) ((not_lt.mp hsmall).trans ?_)
      rw [ExactScalar.lit_eq]
      norm_num
    refine iff_of_true ?_ (hroot.trans hrange)
    rw [ExactScalar.lit_eq]
    norm_num at hrange ⊢
    linarith

/-- `obs[6]`: the target is in range and the cooldown is over. -/
theorem makeObs16_ready [ExactRoots K] (tr : CTransform K) (pos : K × K) (hp maxHp attackCd : K)
    (lastAction : AiState) :
    (makeObs16 (some pos) tr.x tr.y hp maxHp attackCd lastAction {})[6]? = some 1 ↔
      AISystem.distance tr pos ≤ lit 1.3 ∧ attackCd ≤ lit 0 := by
  have hobs : (makeObs16 (some pos) tr.x tr.y hp maxHp attackCd lastAction {})[6]? =
      some (if decide (attackCd ≤ lit 0) && decide (sqrt ((pos.1 - tr.x) * (pos.1 - tr.x) +
        (pos.2 - tr.y) * (pos.2 - tr.y)) ≤ lit 1.3) then lit 1 else lit 0) := rfl
  have hrange : (0.000001 : K) ≤ lit 1.3 := by
    rw [ExactScalar.lit_eq]
    norm_num
  rw [hobs, Option.some_inj, flag_eq_one_iff, Bool.and_eq_true, decide_eq_true_iff,
    decide_eq_true_iff, AISystem.distance_le_iff tr pos hrange, and_comm]

/-- `obs[5]`: the hp are not low. -/
theorem makeObs16_strong {hp maxHp : K} (hmax : 0 < maxHp) (hratio : lit 0.25 < hp / maxHp)
    (target : Option (K × K)) (mx my attackCd : K) (lastAction : AiState) :
    (makeObs16 target mx my hp maxHp attackCd lastAction {})[5]? = some 0 := by
  have hobs : (makeObs16 target mx my hp maxHp attackCd lastAction {})[5]? =
      some (if decide (clampf (if lit 0 < maxHp then hp / maxHp else lit 0) (lit 0) (lit 1) ≤
        lit 0.25) then lit 1 else lit 0) := rfl
  have hmax' : lit 0 < maxHp := by
    rw [ExactScalar.lit_zero]
    exact hmax
  rw [hobs, Option.some_inj, flag_eq_zero_iff, decide_eq_false_iff_not, not_le, if_pos hmax']
  simp only [ExactScalar.lit_eq] at hratio ⊢
  unfold clampf
  split
  · norm_num at *
    linarith
  · split
    · norm_num
    · exact hratio

/-- The loop of `ArgMax5` never goes down. -/
theorem le_foldl_best (logits : Fin 5 → K) (is : List (Fin 5)) (best : Fin 5) :
    let last := is.foldl (fun best i => if logits best < logits i then i else best) best
    logits best ≤ logits last ∧ ∀ i ∈ is, logits i ≤ logits last := by
  induction is generalizing best with
  | nil => exact ⟨le_rfl, by simp⟩
  | cons i is ih =>
    rw [List.foldl_cons]
    obtain ⟨hnext, hrest⟩ := ih (if logits best < logits i then i else best)
    have hstep : logits best ≤ logits (if logits best < logits i then i else best) ∧
        logits i ≤ logits (if logits best < logits i then i else best) := by
      split
      · rename_i hlt
        exact ⟨hlt.le, le_rfl⟩
      · rename_i hge
        exact ⟨le_rfl, not_lt.mp hge⟩
    refine ⟨hstep.1.trans hnext, List.forall_mem_cons.mpr ⟨hstep.2.trans hnext, hrest⟩⟩

/-- `ArgMax5` returns an action with a greatest logit. -/
theorem le_argMax5 (logits : Fin 5 → K) (i : Fin 5) : logits i ≤ logits (argMax5 logits) := by
  obtain ⟨hzero, hrest⟩ := le_foldl_best logits [1, 2, 3, 4] 0
  match i with
  | 0 => exact hzero
  | 1 | 2 | 3 | 4 => exact hrest _ (by decide)

theorem argMax5_eq {logits : Fin 5 → K} {a : Fin 5} (h : ∀ i, i ≠ a → logits i < logits a) :
    argMax5 logits = a := by
  by_contra hne
  exact absurd (le_argMax5 logits a) (not_le.mpr (h _ hne))

theorem ofInt_eq (n : Int) : (ofInt n : K) = n := Rat.cast_intCast n

end

/-- What the gate makes of an action, if the hp are not low. -/
theorem AISystem.gate_ofAction {K : Type} [Scalar K] {stats : CStats} (hmax : 0 < stats.maxHp)
    (hratio : (lit 0.25 : K) < ofInt stats.hp / ofInt stats.maxHp) (dist attackCd : K)
    (a : Fin 5) :
    gate stats dist attackCd (AiState.ofAction a) =
      if a = 3 ∧ dist ≤ lit 1.3 ∧ attackCd ≤ lit 0 then .attack
      else if a = 0 ∨ a = 1 then .idle
      else .chase := by
  rw [gate_eq hmax hratio]
  match a with
  | 0 => rfl
  | 1 => rfl
  | 2 => rfl
  | 3 => by_cases hready : dist ≤ lit 1.3 ∧ attackCd ≤ lit 0 <;> simp [AiState.ofAction, hready]
  | 4 => rfl

/-- When a state of three is taken, and that it is no other. -/
theorem AiState.cases_of_gated {attacks rests : Prop} [Decidable attacks] [Decidable rests]
    (hapart : attacks → ¬ rests) {state : AiState}
    (h : state = if attacks then .attack else if rests then .idle else .chase) :
    (state = .attack ↔ attacks) ∧ (state = .idle ↔ rests) ∧
      (state = .chase ↔ ¬ attacks ∧ ¬ rests) ∧
      state ≠ .patrol ∧ state ≠ .return ∧ state ≠ .dead := by
  rw [h]
  by_cases hattacks : attacks
  · simp [hattacks, hapart hattacks]
  · by_cases hrests : rests <;> simp [hattacks, hrests]

/-- **The gate agrees with the observation.** A melee monster that lives,
is not low on hp and knows a target not too far away: when it thinks, it
attacks if the policy says so and the observation says that it can, rests
if the policy says idle or patrol, and chases otherwise. -/
theorem policy_gate_agrees_with_observation {K σ : Type} [ExactScalar K] [ExactRoots K]
    (env : MonsterEnvironment K σ) (policy : List K → Fin 5 → K) (dt : K) (s : σ) (m : Monster K)
    {rec : ThinkRecord K} (hthink : AISystem.thinkRecord env dt s m = some rec)
    (hmelee : m.monsterType ≠ 1) (hmax : 0 < m.stats.maxHp)
    (hratio : (0.25 : K) < m.stats.hp / m.stats.maxHp) {pos : K × K}
    (hpos : rec.targetPos = some pos)
    (hnear : AISystem.distSq m.transform pos ≤ 11 * 1.4 * (11 * 1.4)) :
    let obs := AISystem.observation m rec pos
    let a := argMax5 (policy obs)
    let state := (AISystem.update env policy dt s m).1.ai.state
    (state = .attack ↔ a = 3 ∧ obs[6]? = some 1) ∧
      (state = .idle ↔ a = 0 ∨ a = 1) ∧
      (state = .chase ↔ ¬ (a = 3 ∧ obs[6]? = some 1) ∧ ¬ (a = 0 ∨ a = 1)) ∧
      state ≠ .patrol ∧ state ≠ .return ∧ state ≠ .dead ∧ obs[5]? = some 0 := by
  intro obs a state
  have hquarter : (lit 0.25 : K) < ofInt m.stats.hp / ofInt m.stats.maxHp := by
    rw [ofInt_eq, ofInt_eq, ExactScalar.lit_eq]
    norm_num at hratio ⊢
    exact hratio
  have hmaxK : (0 : K) < ofInt m.stats.maxHp := by
    rw [ofInt_eq]
    exact_mod_cast hmax
  have hnotFar : ¬ (lit 11 * lit 1.4 * (lit 11 * lit 1.4) : K) < AISystem.distSq m.transform pos := by
    rw [not_lt]
    simp only [ExactScalar.lit_eq]
    norm_num at hnear ⊢
    exact hnear
  have hstrong : ¬ AISystem.LowHp m := fun hlow => absurd hquarter (not_lt.mpr hlow.2)
  have hplace : rec.place = m.transform := by
    obtain ⟨_, _, _, -, -, rfl⟩ := AISystem.update_of_thinkRecord hthink policy
    rfl
  have hready : obs[6]? = some 1 ↔
      AISystem.distance m.transform pos ≤ lit 1.3 ∧ rec.attackCd ≤ lit 0 := by
    rw [← hplace]
    exact makeObs16_ready _ _ _ _ _ _
  have hstate : state = if a = 3 ∧ AISystem.distance m.transform pos ≤ lit 1.3 ∧
      rec.attackCd ≤ lit 0 then .attack else if a = 0 ∨ a = 1 then .idle else .chase := by
    rw [← AISystem.gate_ofAction hmax hquarter]
    exact AISystem.update_melee hthink hmelee hpos hnotFar hstrong policy
  have hapart : a = 3 ∧ AISystem.distance m.transform pos ≤ lit 1.3 ∧ rec.attackCd ≤ lit 0 →
      ¬ (a = 0 ∨ a = 1) := by
    rintro ⟨h3, -⟩
    rw [h3]
    decide
  obtain ⟨hattack, hidle, hchase, hpatrol, hreturn, hdead⟩ := AiState.cases_of_gated hapart hstate
  rw [hready]
  exact ⟨hattack, hidle, hchase, hpatrol, hreturn, hdead, makeObs16_strong hmaxK hquarter _ _ _ _ _⟩

/-- Player 1 stands at `(1, 0)`. -/
def duel : MonsterEnvironment ℝ Unit :=
  { nobody with getPlayerPosition := fun _ pid => if pid = 1 then some (1, 0) else none }

/-- A monster with two swords, chasing player 1. -/
noncomputable def swordsman : Monster ℝ where
  id := 1000
  transform := ⟨0, 0⟩
  stats := { maxHp := 200, hp := 150, maxSp := 100, sp := 100, atk := 7, «def» := 3 }
  monsterType := 2
  spawnInfo := ⟨0, 0, 0, false, 0, 0⟩
  ai := ⟨.chase, 1, 0, 1, 0, 0, 0, 0, 0, true, 0x12345678, 0⟩
  prefabName := "DoubleSwords1"

theorem swordsman_thinks : ∃ rec, AISystem.thinkRecord duel (1 / 10) () swordsman = some rec ∧
    rec.targetPos = some (1, 0) := by
  unfold AISystem.thinkRecord
  simp only
  rw [if_neg (by decide), if_neg ?_]
  · exact ⟨_, rfl, rfl⟩
  · rw [ExactScalar.lit_zero]
    norm_num [AISystem.announced, AISystem.sync, swordsman]

/-- A policy that patrols in front of a player makes the monster rest. -/
theorem swordsman_rests :
    (AISystem.update duel (fun _ i => if i = 1 then 1 else 0) (1 / 10) () swordsman).1.ai.state =
      .idle := by
  have hpatrol : argMax5 (fun i => if i = 1 then 1 else 0 : Fin 5 → ℝ) = 1 :=
    argMax5_eq fun i hi => by simp [hi]
  obtain ⟨rec, hthink, hpos⟩ := swordsman_thinks
  have hgate := policy_gate_agrees_with_observation duel (fun _ i => if i = 1 then 1 else 0) _ _ _
    hthink (by decide) (by decide) (by norm_num [swordsman]) hpos
    (by norm_num [AISystem.distSq, swordsman])
  exact hgate.2.1.mpr (.inr hpatrol)

end MmorpgServer.Field
