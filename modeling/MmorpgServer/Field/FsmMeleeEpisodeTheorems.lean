/-
MmorpgServer.Field.FsmMeleeEpisodeTheorems — what an episode of the
training environment can come to.

* `step_fought` — what a step does to hp and cooldowns, by the damage it
  reports.
* `episodes_keep_account` — over every episode: the hp are what the hits
  have left, hits keep the distance of the cooldowns, and so nobody dies
  early.
* `damage_needs_a_corner` — with the time steps the policy was trained
  with, nobody is hit before the target is driven against the edge of the
  world.
-/
import MmorpgServer.Field.FsmMeleeEpisode
import MmorpgServer.Field.FsmMeleeEnvTheorems
import MmorpgServer.Lib.Spacing

namespace MmorpgServer.Field

open MmorpgServer.Lib Scalar

namespace MeleeEpisode

section

variable {K : Type} [Scalar K] (e : MeleeEpisode K) (action : Fin 5) (d : StepDraws K)

/-! ## One step -/

/-- The monster's action moves it, and turns it when it patrols. -/
theorem act_eq : ∃ mPos patrolDir patrolTimer,
    e.act action d = { e with mPos, patrolDir, patrolTimer } := by
  unfold act
  simp only
  split
  · split <;> exact ⟨_, _, _, rfl⟩
  · split
    · split <;> exact ⟨_, _, _, rfl⟩
    · split
      · split <;> exact ⟨_, _, _, rfl⟩
      · exact ⟨_, _, _, rfl⟩

theorem resolveMonsterAttack_cases :
    (e.mAttackCd ≤ lit 0 ∧ e.dist ≤ e.attackRange ∧ e.resolveMonsterAttack action =
      ({ e with mAttackCd := attackCdBase K, tHp := max (lit 0) (e.tHp - attackDamage K) },
        attackDamage K)) ∨
    e.resolveMonsterAttack action = ({ e with tHp := max (lit 0) e.tHp }, lit 0) := by
  unfold resolveMonsterAttack
  simp only
  split
  · rename_i h
    exact .inl ⟨h.2.1, h.2.2, rfl⟩
  · exact .inr rfl

theorem resolveTargetAttack_cases :
    (e.tAttackCd ≤ lit 0 ∧ e.dist ≤ targetAttackRange K ∧ e.resolveTargetAttack =
      ({ e with tAttackCd := targetAttackCdBase K, mHp := max (lit 0) (e.mHp - targetDamage K) },
        targetDamage K)) ∨
    e.resolveTargetAttack = ({ e with mHp := max (lit 0) e.mHp }, lit 0) := by
  unfold resolveTargetAttack
  simp only
  split
  · rename_i h
    exact .inl ⟨h.1, h.2, rfl⟩
  · exact .inr rfl

/-- The environment after the monster has acted. -/
def acted : MeleeEpisode K := (e.begin action).act action d

theorem acted_eq : ∃ mPos patrolDir patrolTimer, e.acted action d =
    { e with
      mPos, patrolDir, patrolTimer
      stepCount := e.stepCount + 1
      lastAction := action
      mAttackCd := max (lit 0) (e.mAttackCd - e.dt)
      tAttackCd := max (lit 0) (e.tAttackCd - e.dt) } := by
  obtain ⟨mPos, patrolDir, patrolTimer, h⟩ := (e.begin action).act_eq action d
  exact ⟨mPos, patrolDir, patrolTimer, h⟩

/-- Without a target a step is over when the monster has acted. -/
theorem step_of_alone (h : e.targetActive = false) :
    (e.step action d).env = e.acted action d ∧ (e.step action d).dealt = lit 0 ∧
      (e.step action d).taken = lit 0 := by
  have hbegun : (e.begin action).targetActive = false := h
  simp [step, hbegun, acted]

/-- With one, both fight. -/
theorem step_of_target (h : e.targetActive = true) :
    let m := (e.acted action d).targetBotMove.resolveMonsterAttack action
    (e.step action d).env = m.1.resolveTargetAttack.1 ∧ (e.step action d).dealt = m.2 ∧
      (e.step action d).taken = m.1.resolveTargetAttack.2 := by
  have hbegun : (e.begin action).targetActive = true := h
  simp [step, hbegun, acted]

theorem step_targetActive : (e.step action d).env.targetActive = e.targetActive := by
  obtain ⟨mPos, patrolDir, patrolTimer, hacted⟩ := e.acted_eq action d
  cases h : e.targetActive with
  | false => rw [(e.step_of_alone action d h).1, hacted, h]
  | true =>
    rw [(e.step_of_target action d h).1]
    obtain ⟨-, -, ht⟩ | ht := resolveTargetAttack_cases
      ((e.acted action d).targetBotMove.resolveMonsterAttack action).1 <;>
    obtain ⟨-, -, hm⟩ | hm := resolveMonsterAttack_cases (e.acted action d).targetBotMove action <;>
      rw [ht, hm] <;> simp [targetBotMove, hacted, h]

/-- An episode has ended exactly when its last step says so. -/
theorem over_step : (e.step action d).env.Over ↔
    (e.step action d).terminated = true ∨ (e.step action d).truncated = true := by
  have hending : ∀ (p q : Prop) [Decidable p] [Decidable q] (x y z : K),
      (if p then (true, x) else if q then (true, y) else (false, z)).1 = decide (p ∨ q) := by
    intro p q _ _ x y z
    by_cases hp : p <;> by_cases hq : q <;> simp [hp, hq]
  have hterminated : (e.step action d).terminated = decide ((e.step action d).env.mHp ≤ lit 0 ∨
      e.targetActive = true ∧ (e.step action d).env.tHp ≤ lit 0) := hending _ _ _ _ _
  have htruncated : (e.step action d).truncated =
      decide ((e.step action d).env.maxSteps ≤ (e.step action d).env.stepCount) := rfl
  rw [Over, e.step_targetActive, hterminated, htruncated, decide_eq_true_eq, decide_eq_true_eq,
    or_assoc]

/-- What a step has done to the two, by what it reports: a hit that waited
for its cooldown, or none. -/
structure Fought (r : StepResult K) : Prop where
  clock : r.env.dt = e.dt ∧ r.env.maxSteps = e.maxSteps ∧ r.env.stepCount = e.stepCount + 1
  deals :
    (e.targetActive = true ∧ r.dealt = attackDamage K ∧
      max (lit 0) (e.mAttackCd - e.dt) ≤ lit 0 ∧ r.env.mAttackCd = attackCdBase K ∧
      r.env.tHp = max (lit 0) (e.tHp - attackDamage K)) ∨
    (r.dealt = lit 0 ∧ r.env.mAttackCd = max (lit 0) (e.mAttackCd - e.dt) ∧
      (r.env.tHp = e.tHp ∨ r.env.tHp = max (lit 0) e.tHp))
  takes :
    (e.targetActive = true ∧ r.taken = targetDamage K ∧
      max (lit 0) (e.tAttackCd - e.dt) ≤ lit 0 ∧ r.env.tAttackCd = targetAttackCdBase K ∧
      r.env.mHp = max (lit 0) (e.mHp - targetDamage K)) ∨
    (r.taken = lit 0 ∧ r.env.tAttackCd = max (lit 0) (e.tAttackCd - e.dt) ∧
      (r.env.mHp = e.mHp ∨ r.env.mHp = max (lit 0) e.mHp))

theorem step_fought : e.Fought (e.step action d) := by
  obtain ⟨mPos, patrolDir, patrolTimer, hacted⟩ := e.acted_eq action d
  cases h : e.targetActive with
  | false =>
    obtain ⟨henv, hdealt, htaken⟩ := e.step_of_alone action d h
    rw [hacted] at henv
    constructor
    · simp [henv]
    · exact .inr ⟨hdealt, by simp [henv], .inl (by simp [henv])⟩
    · exact .inr ⟨htaken, by simp [henv], .inl (by simp [henv])⟩
  | true =>
    obtain ⟨henv, hdealt, htaken⟩ := e.step_of_target action d h
    generalize hmoved : (e.acted action d).targetBotMove = e₂ at henv hdealt htaken
    have hsame : ∃ tPos, e₂ = { e.acted action d with tPos } := ⟨_, hmoved.symm⟩
    obtain ⟨tPos, hsame⟩ := hsame
    rw [hacted] at hsame
    generalize hattack : e₂.resolveMonsterAttack action = m at henv hdealt htaken
    obtain ⟨hcd, -, hm⟩ | hm := e₂.resolveMonsterAttack_cases action <;>
      obtain ⟨hcd', -, ht⟩ | ht := m.1.resolveTargetAttack_cases <;>
      rw [ht] at henv htaken <;> rw [hattack] at hm <;> subst hm <;> subst hsame
    · exact ⟨by simp [henv], .inl ⟨h, hdealt, hcd, by simp [henv]⟩,
        .inl ⟨h, htaken, hcd', by simp [henv]⟩⟩
    · exact ⟨by simp [henv], .inl ⟨h, hdealt, hcd, by simp [henv]⟩,
        .inr ⟨htaken, by simp [henv]⟩⟩
    · exact ⟨by simp [henv], .inr ⟨hdealt, by simp [henv]⟩,
        .inl ⟨h, htaken, hcd', by simp [henv]⟩⟩
    · exact ⟨by simp [henv], .inr ⟨hdealt, by simp [henv]⟩, .inr ⟨htaken, by simp [henv]⟩⟩

/-! ## Whole episodes -/

/-- The monster hits the target in this step. -/
def deals (p : MeleeEpisode K × Fin 5 × StepDraws K) : Bool :=
  decide ((p.1.step p.2.1 p.2.2).dealt = attackDamage K)

/-- The target hits the monster. -/
def takes (p : MeleeEpisode K × Fin 5 × StepDraws K) : Bool :=
  decide ((p.1.step p.2.1 p.2.2).taken = targetDamage K)

end

section

variable {K : Type} [ExactScalar K] {e : MeleeEpisode K}
  {l : List (MeleeEpisode K × Fin 5 × StepDraws K)}

/-- One of the two fighters: what its opponent has left of `start` after its
hits, and its cooldown. -/
structure Fighter (dt start damage cooldown : K) (hit : MeleeEpisode K × Fin 5 × StepDraws K → Bool)
    (l : List (MeleeEpisode K × Fin 5 × StepDraws K)) (hp cd : K) : Prop where
  hp : hp = Max.max 0 (start - damage * l.countP hit)
  spaced : Spaced (fun _ => dt) hit cooldown l
  countdown : Countdown (fun _ => dt) hit cooldown l cd

theorem scalarMax_eq (a b : K) : Scalar.max a b = Max.max a b := by
  unfold Scalar.max
  split
  · rename_i h
    exact (max_eq_right h.le).symm
  · rename_i h
    exact (max_eq_left (not_lt.mp h)).symm

/-- A step of a fighter: a hit that waited for its cooldown, or none. -/
theorem Fighter.step {dt start damage cooldown hp cd hp' cd' : K}
    {hit : MeleeEpisode K × Fin 5 × StepDraws K → Bool} (hdamage : 0 ≤ damage)
    (hcooldown : 0 ≤ cooldown) (h : Fighter dt start damage cooldown hit l hp cd)
    {p : MeleeEpisode K × Fin 5 × StepDraws K}
    (hp : (hit p = true ∧ Max.max 0 (cd - dt) ≤ 0 ∧ cd' = cooldown ∧
        hp' = Max.max 0 (hp - damage)) ∨
      (hit p = false ∧ cd' = Max.max 0 (cd - dt) ∧ (hp' = hp ∨ hp' = Max.max 0 hp))) :
    Fighter dt start damage cooldown hit (p :: l) hp' cd' := by
  obtain ⟨hphp, hspaced, hcountdown⟩ := h
  obtain ⟨hhit, hready, rfl, rfl⟩ | ⟨hhit, rfl, hp'⟩ := hp
  · have hready' : cd - dt ≤ 0 := (le_max_right _ _).trans hready
    refine ⟨?_, hcountdown.spaced_cons hspaced fun _ => by linarith,
      hcountdown.cons (by linarith) fun _ => le_refl _⟩
    have hmax : ∀ x : K, Max.max 0 (Max.max 0 x - damage) = Max.max 0 (x - damage) := by
      intro x
      rw [← max_sub_sub_right, ← max_assoc, max_eq_left (by linarith : (0 : K) - damage ≤ 0)]
    rw [hphp, List.countP_cons_of_pos hhit, hmax]
    push_cast
    ring_nf
  · refine ⟨?_, hcountdown.spaced_cons hspaced fun h => absurd h (by simp [hhit]),
      hcountdown.cons ?_ fun h => absurd h (by simp [hhit])⟩
    · rw [List.countP_cons_of_neg (by simp [hhit])]
      rcases hp' with rfl | rfl
      · exact hphp
      · rw [hphp]
        simp
    · have hrun := le_max_right 0 (cd - dt)
      linarith

/-- What an episode has come to. -/
structure Kept (dt : K) (maxSteps : Nat) (l : List (MeleeEpisode K × Fin 5 × StepDraws K))
    (e : MeleeEpisode K) : Prop where
  clock : e.dt = dt
  steps : e.maxSteps = maxSteps ∧ e.stepCount = l.length ∧ l.length ≤ maxSteps
  target : Fighter dt (if e.targetActive then 100 else 0) 10 0.9 deals l e.tHp e.mAttackCd
  monster : Fighter dt 100 6 1 takes l e.mHp e.tAttackCd
  alone : e.targetActive = false → l.countP deals = 0 ∧ l.countP takes = 0

theorem kept_reset (dt : K) (maxSteps : Nat) (forceCombat : Bool) (d : ResetDraws K) :
    Kept dt maxSteps [] ((init dt maxSteps forceCombat).reset d) where
  clock := rfl
  steps := ⟨rfl, rfl, Nat.zero_le _⟩
  target := by
    refine ⟨?_, fun l₃ b l₂ a l₁ h => by simp at h, countdown_nil _⟩
    have hstart : ∀ c : Bool, (if c then lit 100 else lit 0 : K) =
        Max.max 0 ((if c then 100 else 0) - 10 * (([] : List (MeleeEpisode K × Fin 5 ×
          StepDraws K)).countP deals : K)) := by
      intro c
      cases c <;> simp [ExactScalar.lit_eq]
    exact hstart _
  monster := by
    refine ⟨?_, fun l₃ b l₂ a l₁ h => by simp at h, countdown_nil _⟩
    simp [reset, ExactScalar.lit_eq]
  alone _ := ⟨rfl, rfl⟩

theorem Kept.step {dt : K} {maxSteps : Nat} (h : Kept dt maxSteps l e)
    (hover : ¬ e.Over) (action : Fin 5) (d : StepDraws K) :
    Kept dt maxSteps ((e, action, d) :: l) (e.step action d).env := by
  obtain ⟨⟨hclock, hmaxSteps, hcount⟩, hdeals, htakes⟩ := e.step_fought action d
  obtain ⟨rfl, ⟨rfl, hlength, -⟩, htarget, hmonster, halone⟩ := h
  have hzero : (lit 0 : K) = 0 := ExactScalar.lit_zero
  have hten : attackDamage K = 10 := by
    simp [attackDamage, ExactScalar.lit_eq]
  have hsix : targetDamage K = 6 := by
    simp [targetDamage, ExactScalar.lit_eq]
  have hcooldown : attackCdBase K = 0.9 := by
    simp only [attackCdBase, ExactScalar.lit_eq]
    norm_num
  have hcooldown' : targetAttackCdBase K = 1 := by
    simp [targetAttackCdBase, ExactScalar.lit_eq]
  simp only [hzero, hten, hsix, hcooldown, hcooldown', scalarMax_eq] at hdeals htakes
  have hdeals_iff : deals (e, action, d) = decide ((e.step action d).dealt = (10 : K)) := by
    rw [← hten]
    rfl
  have htakes_iff : takes (e, action, d) = decide ((e.step action d).taken = (6 : K)) := by
    rw [← hsix]
    rfl
  constructor
  · exact hclock
  · refine ⟨hmaxSteps, by simp [hcount, hlength], ?_⟩
    have hleft : ¬ e.maxSteps ≤ e.stepCount := fun hle => hover (.inr (.inr hle))
    simp only [List.length_cons]
    omega
  · rw [step_targetActive]
    refine htarget.step (by norm_num) (by norm_num) ?_
    obtain ⟨-, hdealt, hready, hcd, hhp⟩ | ⟨hdealt, hcd, hhp⟩ := hdeals
    · exact .inl ⟨by simp [hdeals_iff, hdealt], hready, hcd, hhp⟩
    · exact .inr ⟨by simp [hdeals_iff, hdealt], hcd, hhp⟩
  · refine hmonster.step (by norm_num) (by norm_num) ?_
    obtain ⟨-, htaken, hready, hcd, hhp⟩ | ⟨htaken, hcd, hhp⟩ := htakes
    · exact .inl ⟨by simp [htakes_iff, htaken], hready, hcd, hhp⟩
    · exact .inr ⟨by simp [htakes_iff, htaken], hcd, hhp⟩
  · intro hactive
    rw [step_targetActive] at hactive
    obtain ⟨hd, ht⟩ := halone hactive
    obtain ⟨hon, -⟩ | ⟨hdealt, -⟩ := hdeals
    · exact absurd (hactive.symm.trans hon) (by decide)
    · obtain ⟨hon, -⟩ | ⟨htaken, -⟩ := htakes
      · exact absurd (hactive.symm.trans hon) (by decide)
      · simp [hd, ht, hdeals_iff, htakes_iff, hdealt, htaken]

theorem run_kept {dt : K} {maxSteps : Nat} {forceCombat : Bool}
    (r : Run (meleeSystem dt maxSteps forceCombat) l e) : Kept dt maxSteps l e := by
  induction r with
  | start h =>
    obtain ⟨d, rfl⟩ := h
    exact kept_reset dt maxSteps forceCombat d
  | step _ h ih =>
    obtain ⟨hover, rfl⟩ := h
    exact ih.step hover _ _

/-- **Episodes keep account.** In every episode, whatever is done and
drawn: the monster has left what the hits of the target have left it, and
the target what those of the monster have; the hits of each keep their
distance; so the target does not die within 8.1 s, nor the monster within
16 s. -/
theorem episodes_keep_account {dt : K} (hdt : 0 ≤ dt) (maxSteps : Nat) (forceCombat : Bool)
    (r : Run (meleeSystem dt maxSteps forceCombat) l e) :
    e.mHp = Max.max 0 (100 - 6 * (l.countP takes : K)) ∧
      (e.targetActive = true → e.tHp = Max.max 0 (100 - 10 * (l.countP deals : K))) ∧
      (e.targetActive = false → l.countP deals = 0 ∧ l.countP takes = 0) ∧
      e.stepCount = l.length ∧ l.length ≤ maxSteps ∧
      Spaced (fun _ => dt) deals 0.9 l ∧ Spaced (fun _ => dt) takes 1 l ∧
      (e.targetActive = true → e.tHp ≤ 0 → 8.1 ≤ (e.stepCount : K) * dt) ∧
      (e.mHp ≤ 0 → 16 ≤ (e.stepCount : K) * dt) := by
  obtain ⟨-, ⟨-, hcount, hle⟩, ⟨htHp, hdeals, -⟩, ⟨hmHp, htakes, -⟩, halone⟩ := run_kept r
  have htime : elapsed (fun _ => dt) l = (e.stepCount : K) * dt := by
    rw [hcount]
    simp [elapsed]
  have hlen : ∀ a ∈ l, (0 : K) ≤ (fun _ => dt) a := fun _ _ => hdt
  refine ⟨hmHp, fun hactive => ?_, halone, hcount, hle, hdeals, htakes, fun hactive hdead => ?_,
    fun hdead => ?_⟩
  · rw [htHp, hactive, if_pos rfl]
  · rw [htHp, hactive, if_pos rfl] at hdead
    have hhits : (10 : K) ≤ l.countP deals := by
      have := (le_max_right _ _).trans hdead
      linarith
    have hne : l.countP deals ≠ 0 := by
      intro h0
      rw [h0] at hhits
      norm_num at hhits
    have hmul := hdeals.count_mul_le hlen hne
    rw [htime] at hmul
    refine le_trans ?_ hmul
    norm_num
    linarith
  · rw [hmHp] at hdead
    have hhits : (100 : K) ≤ 6 * l.countP takes := by
      have := (le_max_right _ _).trans hdead
      linarith
    -- 16 hits are not enough
    have hseventeen : 17 ≤ l.countP takes := by
      by_contra hfew
      have hsixteen : (l.countP takes : K) ≤ 16 := by
        exact_mod_cast (by omega : l.countP takes ≤ 16)
      linarith
    have hmul := htakes.count_mul_le hlen (by omega)
    rw [htime] at hmul
    have hcast : (17 : K) ≤ l.countP takes := by exact_mod_cast hseventeen
    linarith

end

/-! ## Where there is damage -/

section

variable {K : Type} [ExactScalar K] [ExactRoots K]

theorem linalgNorm_mul {c : K} (hc : 0 ≤ c) (v : K × K) :
    linalgNorm (v.1 * c, v.2 * c) = linalgNorm v * c := by
  have hv : 0 ≤ v.1 * v.1 + v.2 * v.2 := add_nonneg (mul_self_nonneg _) (mul_self_nonneg _)
  have hroot := ExactRoots.root_mul_self _ hv
  have hscaled : 0 ≤ v.1 * c * (v.1 * c) + v.2 * c * (v.2 * c) :=
    add_nonneg (mul_self_nonneg _) (mul_self_nonneg _)
  refine (mul_self_inj (ExactRoots.root_nonneg _) (mul_nonneg (ExactRoots.root_nonneg _) hc)).mp ?_
  calc linalgNorm (v.1 * c, v.2 * c) * linalgNorm (v.1 * c, v.2 * c)
      = v.1 * c * (v.1 * c) + v.2 * c * (v.2 * c) := ExactRoots.root_mul_self _ hscaled
    _ = (v.1 * v.1 + v.2 * v.2) * (c * c) := by ring
    _ = linalgNorm v * linalgNorm v * (c * c) := by rw [← hroot]; rfl
    _ = linalgNorm v * c * (linalgNorm v * c) := by ring

variable {e : MeleeEpisode K}

/-- The target stands at the edge of the world. -/
def AtEdge (e : MeleeEpisode K) : Prop := |e.tPos.1| = 14 ∨ |e.tPos.2| = 14

omit [ExactRoots K] in
theorem clip_eq_or (x : K) :
    clip x (-worldHalf K) (worldHalf K) = x ∨ |clip x (-worldHalf K) (worldHalf K)| = 14 := by
  have hhalf : worldHalf K = 14 := by
    simp [worldHalf, ExactScalar.lit_eq]
  rw [hhalf]
  unfold clip
  simp only
  split
  · right
    rw [if_neg (by norm_num)]
    norm_num
  · split
    · right
      norm_num
    · exact .inl rfl

omit [ExactRoots K] in
/-- A target that is not at the edge has gone all the way it wanted. -/
theorem clipWorld_of_open {pos : K × K}
    (h : ¬ (|(clipWorld pos).1| = 14 ∨ |(clipWorld pos).2| = 14)) : clipWorld pos = pos := by
  rw [not_or] at h
  exact Prod.ext ((clip_eq_or pos.1).resolve_right h.1) ((clip_eq_or pos.2).resolve_right h.2)

/-- **In the open the target keeps out of reach**: it is too far away, or
runs farther than any blow reaches. -/
theorem targetBotMove_far (hdt : 0.26 ≤ e.dt) (hdt' : e.dt ≤ 1.14)
    (hmet : ¬ e.dist < lit 0.000001) (hopen : ¬ e.targetBotMove.AtEdge) :
    1.3 < e.targetBotMove.dist := by
  have hdir : e.dirToTarget = (((e.tPos.1 - e.mPos.1) / e.dist, (e.tPos.2 - e.mPos.2) / e.dist),
      e.dist) := if_neg hmet
  have hmicro : (lit 0.000001 : K) = 0.000001 := by
    simp only [ExactScalar.lit_eq]
    norm_num
  have hpos : 0 < e.dist := by
    rw [not_lt, hmicro] at hmet
    linarith
  have hspeed : targetSpeed K = 5 := by
    simp [targetSpeed, ExactScalar.lit_eq]
  have hflee : targetFleeDist K = 1.4 := by
    simp only [targetFleeDist, ExactScalar.lit_eq]
    norm_num
  have hchase : targetChaseDist K = 7 := by
    simp [targetChaseDist, ExactScalar.lit_eq]
  -- the target goes `c` times its distance along its direction
  have hgoes : ∀ (v : K × K) (c : K), 0 ≤ c →
      v.1 * (5 * e.dt) = (e.tPos.1 - e.mPos.1) * (c - 1) →
      v.2 * (5 * e.dt) = (e.tPos.2 - e.mPos.2) * (c - 1) →
      ¬ AtEdge { e with tPos := clipWorld (advance e.tPos v (targetSpeed K * e.dt)) } →
      dist { e with tPos := clipWorld (advance e.tPos v (targetSpeed K * e.dt)) } = e.dist * c := by
    intro v c hc hx hy hopen
    have hclip := clipWorld_of_open hopen
    rw [hspeed] at hclip
    show linalgNorm ((clipWorld (advance e.tPos v (targetSpeed K * e.dt))).1 - e.mPos.1,
      (clipWorld (advance e.tPos v (targetSpeed K * e.dt))).2 - e.mPos.2) = _
    rw [hspeed, hclip]
    have hdiff : ((advance e.tPos v (5 * e.dt)).1 - e.mPos.1,
        (advance e.tPos v (5 * e.dt)).2 - e.mPos.2) =
        ((e.tPos.1 - e.mPos.1) * c, (e.tPos.2 - e.mPos.2) * c) := by
      refine Prod.ext ?_ ?_
      · show e.tPos.1 + v.1 * (5 * e.dt) - e.mPos.1 = _
        rw [hx]
        ring
      · show e.tPos.2 + v.2 * (5 * e.dt) - e.mPos.2 = _
        rw [hy]
        ring
    rw [hdiff]
    exact linalgNorm_mul hc (e.tPos.1 - e.mPos.1, e.tPos.2 - e.mPos.2)
  unfold targetBotMove at hopen ⊢
  simp only [hdir, hflee, hchase] at hopen ⊢
  by_cases hnear : e.dist < 1.4
  · -- it runs away
    rw [if_pos hnear] at hopen ⊢
    rw [hgoes _ (1 + 5 * e.dt / e.dist) (by positivity) (by simp only; field_simp; ring)
      (by simp only; field_simp; ring) hopen, mul_add, mul_one, mul_div_cancel₀ _ hpos.ne']
    norm_num at hdt ⊢
    linarith
  · rw [if_neg hnear] at hopen ⊢
    by_cases hfar : 7 < e.dist
    · -- it comes nearer
      rw [if_pos hfar] at hopen ⊢
      have hless : 0 ≤ 1 - 5 * e.dt / e.dist := by
        rw [sub_nonneg, div_le_one hpos]
        norm_num at hdt'
        linarith
      rw [hgoes _ (1 - 5 * e.dt / e.dist) hless (by simp only; field_simp; ring)
        (by simp only; field_simp; ring) hopen, mul_sub, mul_one, mul_div_cancel₀ _ hpos.ne']
      norm_num at hdt' ⊢
      linarith
    · rw [if_neg hfar] at hopen ⊢
      rw [hgoes _ 1 zero_le_one (by simp [ExactScalar.lit_eq]) (by simp [ExactScalar.lit_eq]) hopen,
        mul_one]
      norm_num at hnear ⊢
      linarith

/-- The target of this step is at the edge of the world, or in the place of
the monster. -/
def Pinned (p : MeleeEpisode K × Fin 5 × StepDraws K) : Prop :=
  p.1.targetActive = true ∧
    ((p.1.step p.2.1 p.2.2).env.AtEdge ∨ (p.1.acted p.2.1 p.2.2).dist < lit 0.000001)

omit [ExactRoots K] in
/-- Blows move nobody. -/
theorem resolveMonsterAttack_still (e : MeleeEpisode K) (action : Fin 5) :
    (e.resolveMonsterAttack action).1.tPos = e.tPos ∧
      (e.resolveMonsterAttack action).1.dist = e.dist := by
  obtain ⟨-, -, he⟩ | he := e.resolveMonsterAttack_cases action <;> rw [he] <;> exact ⟨rfl, rfl⟩

omit [ExactRoots K] in
theorem resolveTargetAttack_still (e : MeleeEpisode K) :
    e.resolveTargetAttack.1.tPos = e.tPos := by
  obtain ⟨-, -, he⟩ | he := e.resolveTargetAttack_cases <;> rw [he]

/-- A step without a pinned target hits nobody. -/
theorem no_hit_of_open (hdt : 0.26 ≤ e.dt) (hdt' : e.dt ≤ 1.14) (hrange : e.attackRange = lit 1.3)
    {action : Fin 5} {d : StepDraws K} (h : ¬ Pinned (e, action, d)) :
    deals (e, action, d) = false ∧ takes (e, action, d) = false := by
  have hnone : ∀ x : K, x = lit 0 → ∀ q : ℚ, q ≠ 0 → x ≠ lit q := by
    intro x hx q hq heq
    rw [hx, ExactScalar.lit_eq, ExactScalar.lit_eq, Rat.cast_zero] at heq
    exact hq (by exact_mod_cast heq.symm)
  have hmiss : (e.step action d).dealt = lit 0 ∧ (e.step action d).taken = lit 0 →
      deals (e, action, d) = false ∧ takes (e, action, d) = false := by
    intro h
    exact ⟨decide_eq_false (hnone _ h.1 10 (by norm_num)),
      decide_eq_false (hnone _ h.2 6 (by norm_num))⟩
  refine hmiss ?_
  cases hactive : e.targetActive with
  | false => exact (e.step_of_alone action d hactive).2
  | true =>
    rw [Pinned, not_and, not_or] at h
    obtain ⟨hopen, hmet⟩ := h hactive
    obtain ⟨henv, hdealt, htaken⟩ := e.step_of_target action d hactive
    obtain ⟨mPos, patrolDir, patrolTimer, hacted⟩ := e.acted_eq action d
    have hdt₂ : (e.acted action d).dt = e.dt := by rw [hacted]
    have hrange₂ : (e.acted action d).targetBotMove.attackRange = lit 1.3 := by
      rw [← hrange]
      simp [targetBotMove, hacted]
    rw [AtEdge, henv, resolveTargetAttack_still, (resolveMonsterAttack_still _ _).1] at hopen
    -- both blows are struck from where the target has gone to
    have hfar := targetBotMove_far (e := e.acted action d) (by rw [hdt₂]; exact hdt)
      (by rw [hdt₂]; exact hdt') hmet hopen
    obtain ⟨-, hreach, -⟩ | he := resolveMonsterAttack_cases (e.acted action d).targetBotMove action
    · rw [hrange₂, ExactScalar.lit_eq] at hreach
      norm_num at hreach hfar
      exact absurd hreach (not_le.mpr hfar)
    · obtain ⟨-, hreach, -⟩ | he' := resolveTargetAttack_cases
        ((e.acted action d).targetBotMove.resolveMonsterAttack action).1
      · rw [(resolveMonsterAttack_still _ _).2, targetAttackRange, ExactScalar.lit_eq] at hreach
        norm_num at hreach hfar
        linarith
      · exact ⟨by rw [hdealt, he], by rw [htaken, he']⟩

omit [ExactRoots K] in
theorem step_attackRange (e : MeleeEpisode K) (action : Fin 5) (d : StepDraws K) :
    (e.step action d).env.attackRange = e.attackRange := by
  obtain ⟨mPos, patrolDir, patrolTimer, hacted⟩ := e.acted_eq action d
  cases h : e.targetActive with
  | false => rw [(e.step_of_alone action d h).1, hacted]
  | true =>
    rw [(e.step_of_target action d h).1]
    obtain ⟨-, -, ht⟩ | ht := resolveTargetAttack_cases
      ((e.acted action d).targetBotMove.resolveMonsterAttack action).1 <;>
    obtain ⟨-, -, hm⟩ | hm := resolveMonsterAttack_cases (e.acted action d).targetBotMove action <;>
      rw [ht, hm] <;> simp [targetBotMove, hacted]

/-- **Damage needs a corner.** With time steps of 0.26 s to 1.14 s, as in
training: in every episode in which the target is never at the edge of the
world after a step, nor in the place of the monster, nobody loses any hp,
and nothing but the number of steps ends it. -/
theorem damage_needs_a_corner {dt : K} (hdt : 0.26 ≤ dt) (hdt' : dt ≤ 1.14) (maxSteps : Nat)
    (forceCombat : Bool) {l : List (MeleeEpisode K × Fin 5 × StepDraws K)}
    (r : Run (meleeSystem dt maxSteps forceCombat) l e) (hopen : ∀ p ∈ l, ¬ Pinned p) :
    e.mHp = 100 ∧ (e.targetActive = true → e.tHp = 100) ∧ (e.Over ↔ maxSteps ≤ e.stepCount) := by
  have hrange : ∀ {l : List (MeleeEpisode K × Fin 5 × StepDraws K)} {e : MeleeEpisode K},
      Run (meleeSystem dt maxSteps forceCombat) l e → e.attackRange = lit 1.3 := by
    intro l e r
    refine r.invariant (I := fun e => e.attackRange = lit 1.3) ?_ ?_
    · rintro _ ⟨d, rfl⟩
      rfl
    · rintro e a _ h ⟨-, rfl⟩
      rw [step_attackRange]
      exact h
  have hmiss : ∀ p ∈ l, deals p = false ∧ takes p = false := by
    intro p hp
    obtain ⟨l', -, r', -⟩ := r.source p hp
    have hdt₂ := (run_kept r').clock
    exact no_hit_of_open (by rw [hdt₂]; exact hdt) (by rw [hdt₂]; exact hdt') (hrange r')
      (hopen p hp)
  have hzero : l.countP deals = 0 ∧ l.countP takes = 0 := by
    rw [List.countP_eq_zero, List.countP_eq_zero]
    exact ⟨fun p hp => by simp [(hmiss p hp).1], fun p hp => by simp [(hmiss p hp).2]⟩
  obtain ⟨-, ⟨hmax, -⟩, ⟨htHp, -⟩, ⟨hmHp, -⟩, -⟩ := run_kept r
  rw [hzero.2] at hmHp
  rw [hzero.1] at htHp
  have hfull : e.mHp = 100 := by
    rw [hmHp]
    norm_num
  have hfull' : e.targetActive = true → e.tHp = 100 := by
    intro hactive
    rw [htHp, hactive]
    norm_num
  refine ⟨hfull, hfull', ?_⟩
  rw [Over, hfull, hmax, ExactScalar.lit_zero, or_iff_right (by norm_num),
    or_iff_right (fun h => ?_)]
  rw [hfull' h.1] at h
  norm_num at h

end

end MeleeEpisode

/-- A target that is caught up with. -/
def chasedReset : ResetDraws ℚ := { mPos := (0, 0), coin := 0, tPos := (0, 0), angle := 0 }

/-- The target runs slower than the monster, and hits it when it has come
near. -/
theorem episodes_keep_account_chase : ∃ l e, Run (meleeSystem (1 / 10 : ℚ) 240 true) l e ∧
    l.length = 6 ∧ e.mHp = 94 ∧ e.mHp = 100 - 6 * (l.countP MeleeEpisode.takes : ℚ) := by
  let e₀ : MeleeEpisode ℚ := (MeleeEpisode.init (1 / 10) 240 true).reset chasedReset
  let chase : Fin 5 × StepDraws ℚ := (⟨MeleeEpisode.actChase, by decide⟩, ⟨0, 0⟩)
  have r₀ : Run (meleeSystem (1 / 10 : ℚ) 240 true) [] e₀ := .start ⟨_, rfl⟩
  have r := (((((r₀.next chase ⟨by decide +kernel, rfl⟩).next chase ⟨by decide +kernel, rfl⟩).next
    chase ⟨by decide +kernel, rfl⟩).next chase ⟨by decide +kernel, rfl⟩).next chase
    ⟨by decide +kernel, rfl⟩).next chase ⟨by decide +kernel, rfl⟩
  have hmHp := (MeleeEpisode.episodes_keep_account (by norm_num) 240 true r).1
  have hleft : (((((((e₀.step chase.1 chase.2).env.step chase.1 chase.2).env.step chase.1
      chase.2).env.step chase.1 chase.2).env.step chase.1 chase.2).env.step chase.1
      chase.2).env).mHp = 94 := by
    decide +kernel
  refine ⟨_, _, r, rfl, hleft, ?_⟩
  rw [max_eq_right] at hmHp
  · exact hmHp
  · by_contra hneg
    rw [max_eq_left (not_le.mp hneg).le] at hmHp
    rw [hmHp] at hleft
    norm_num at hleft

/-! ## A chase in the open -/

/-- The monster and the target stand on the first axis. -/
structure OnAxis (e : MeleeEpisode ℝ) (x y : ℝ) : Prop where
  active : e.targetActive = true
  clock : e.dt = 3 / 10
  monster : e.mPos = (x, 0)
  target : e.tPos = (y, 0)

theorem clipWorld_axis {x : ℝ} (h : |x| ≤ 14) : MeleeEpisode.clipWorld (x, (0 : ℝ)) = (x, 0) := by
  obtain ⟨hlow, hhigh⟩ := abs_le.mp h
  have hhalf : MeleeEpisode.worldHalf ℝ = 14 := by
    simp [MeleeEpisode.worldHalf, ExactScalar.lit_eq]
  rw [MeleeEpisode.clipWorld, hhalf, clip_eq_clampf (by norm_num), clip_eq_clampf (by norm_num),
    clampf_of_mem hlow hhigh, clampf_of_mem (by norm_num) (by norm_num)]

section

variable {e : MeleeEpisode ℝ} {x y : ℝ}

/-- The target is ahead of the monster. -/
theorem OnAxis.ahead (h : OnAxis e x y) (hxy : 1 / 2 ≤ y - x) :
    e.dist = y - x ∧ e.dirToTarget = ((1, 0), y - x) := by
  have hdist : e.dist = y - x := by
    rw [MeleeEpisode.dist, h.monster, h.target, sub_zero]
    show √((y - x) * (y - x) + 0 * 0) = y - x
    rw [mul_zero, add_zero]
    exact Real.sqrt_mul_self (by linarith)
  have hnot : ¬ e.dist < lit 0.000001 := by
    rw [hdist, ExactScalar.lit_eq, not_lt]
    norm_num
    linarith
  have hdir : e.dirToTarget = (((e.tPos.1 - e.mPos.1) / e.dist, (e.tPos.2 - e.mPos.2) / e.dist),
      e.dist) := if_neg hnot
  refine ⟨hdist, ?_⟩
  rw [hdir, hdist, h.monster, h.target, div_self (by linarith), sub_self, zero_div]

/-- In a chase the monster goes ahead. -/
theorem OnAxis.chase (h : OnAxis e x y) (hxy : 1 / 2 ≤ y - x) (hx : |x + 33 / 20| ≤ 14)
    (d : StepDraws ℝ) : OnAxis (e.acted ⟨MeleeEpisode.actChase, by decide⟩ d) (x + 33 / 20) y := by
  obtain ⟨mPos, patrolDir, patrolTimer, hacted⟩ :=
    e.acted_eq ⟨MeleeEpisode.actChase, by decide⟩ d
  refine ⟨by rw [hacted]; exact h.active, by rw [hacted]; exact h.clock, ?_,
    by rw [hacted]; exact h.target⟩
  have hgoes : (e.acted ⟨MeleeEpisode.actChase, by decide⟩ d).mPos = MeleeEpisode.clipWorld
      (MeleeEpisode.advance e.mPos e.dirToTarget.1 (MeleeEpisode.chaseSpeed ℝ * e.dt)) :=
    congrArg (fun e' : MeleeEpisode ℝ => MeleeEpisode.clipWorld e'.mPos) (if_pos h.active)
  have hlen : MeleeEpisode.chaseSpeed ℝ * (3 / 10) = 33 / 20 := by
    simp only [MeleeEpisode.chaseSpeed, MeleeEpisode.playerSpeed, ExactScalar.lit_eq]
    norm_num
  rw [hgoes, (h.ahead hxy).2, h.monster, h.clock, hlen, MeleeEpisode.advance, one_mul, zero_mul,
    add_zero]
  exact clipWorld_axis hx

/-- In an attack it stays. -/
theorem OnAxis.attack (h : OnAxis e x y) (hx : |x| ≤ 14) (d : StepDraws ℝ) :
    OnAxis (e.acted ⟨MeleeEpisode.actAttack, by decide⟩ d) x y := by
  obtain ⟨mPos, patrolDir, patrolTimer, hacted⟩ :=
    e.acted_eq ⟨MeleeEpisode.actAttack, by decide⟩ d
  refine ⟨by rw [hacted]; exact h.active, by rw [hacted]; exact h.clock, ?_,
    by rw [hacted]; exact h.target⟩
  have hstays : (e.acted ⟨MeleeEpisode.actAttack, by decide⟩ d).mPos =
      MeleeEpisode.clipWorld e.mPos := rfl
  rw [hstays, h.monster]
  exact clipWorld_axis hx

/-- The target runs from a monster that is near. -/
theorem OnAxis.flees (h : OnAxis e x y) (hxy : 1 / 2 ≤ y - x) (hnear : y - x < 7 / 5)
    (hy : |y + 3 / 2| ≤ 14) : e.targetBotMove.tPos = (y + 3 / 2, 0) := by
  have hflees : (y - x : ℝ) < MeleeEpisode.targetFleeDist ℝ := by
    rw [MeleeEpisode.targetFleeDist, ExactScalar.lit_eq]
    norm_num
    exact hnear
  have hlen : MeleeEpisode.targetSpeed ℝ * (3 / 10) = 3 / 2 := by
    rw [MeleeEpisode.targetSpeed, ExactScalar.lit_eq]
    norm_num
  simp only [MeleeEpisode.targetBotMove, (h.ahead hxy).2, if_pos hflees, h.target, h.clock, hlen,
    MeleeEpisode.advance, one_mul, zero_mul, add_zero]
  exact clipWorld_axis hy

/-- It waits for one that is farther away. -/
theorem OnAxis.waits (h : OnAxis e x y) (hfar : 7 / 5 ≤ y - x) (hxy : y - x ≤ 7)
    (hy : |y| ≤ 14) : e.targetBotMove.tPos = (y, 0) := by
  have hflees : ¬ (y - x : ℝ) < MeleeEpisode.targetFleeDist ℝ := by
    rw [MeleeEpisode.targetFleeDist, ExactScalar.lit_eq, not_lt]
    norm_num
    exact hfar
  have hchases : ¬ MeleeEpisode.targetChaseDist ℝ < y - x := by
    rw [MeleeEpisode.targetChaseDist, ExactScalar.lit_eq, not_lt]
    norm_num
    linarith
  simp only [MeleeEpisode.targetBotMove, (h.ahead (by linarith)).2, if_neg hflees,
    if_neg hchases, h.target, MeleeEpisode.advance, ExactScalar.lit_zero, zero_mul, add_zero]
  exact clipWorld_axis hy

/-- Where the two stand after a step, and that the target was not pinned. -/
theorem OnAxis.step {action : Fin 5} {d : StepDraws ℝ} {x' y' : ℝ} (h : OnAxis e x y)
    (hacted : OnAxis (e.acted action d) x' y) (hxy : 1 / 2 ≤ y - x')
    (hmoved : (e.acted action d).targetBotMove.tPos = (y', 0)) (hy : |y'| < 14) :
    OnAxis (e.step action d).env x' y' ∧ ¬ MeleeEpisode.Pinned (e, action, d) := by
  have hstep := (e.step_of_target action d h.active).1
  have htPos : (e.step action d).env.tPos = (y', 0) := by
    rw [hstep, MeleeEpisode.resolveTargetAttack_still,
      (MeleeEpisode.resolveMonsterAttack_still _ _).1, hmoved]
  have hmPos : (e.step action d).env.mPos = (e.acted action d).mPos := by
    rw [hstep]
    obtain ⟨-, -, ht⟩ | ht := MeleeEpisode.resolveTargetAttack_cases
      ((e.acted action d).targetBotMove.resolveMonsterAttack action).1 <;>
    obtain ⟨-, -, hm⟩ | hm := MeleeEpisode.resolveMonsterAttack_cases
      (e.acted action d).targetBotMove action <;>
      rw [ht, hm] <;> rfl
  refine ⟨⟨(e.step_targetActive action d).trans h.active,
    (e.step_fought action d).clock.1.trans h.clock, hmPos.trans hacted.monster, htPos⟩, ?_⟩
  rintro ⟨-, hedge | hmet⟩
  · rw [MeleeEpisode.AtEdge, htPos] at hedge
    rcases hedge with hedge | hedge
    · exact hy.ne hedge
    · norm_num at hedge
  · rw [(hacted.ahead hxy).1, ExactScalar.lit_eq] at hmet
    norm_num at hmet
    linarith

end

/-- A target ahead of the monster, in the open. -/
def openReset : ResetDraws ℝ := { mPos := (0, 0), coin := 0, tPos := (3, 0), angle := 0 }

/-- The monster chases the target, which runs, and then strikes at it: it
does not reach it. -/
theorem damage_needs_a_corner_chase : ∃ l e, Run (meleeSystem (3 / 10 : ℝ) 240 true) l e ∧
    l.map (fun p => p.2.1.val) = [MeleeEpisode.actAttack, MeleeEpisode.actChase] ∧
      e.mPos = (33 / 20, 0) ∧ e.tPos = (9 / 2, 0) ∧ e.mHp = 100 ∧ e.tHp = 100 := by
  let e₀ : MeleeEpisode ℝ := (MeleeEpisode.init (3 / 10) 240 true).reset openReset
  let chase : Fin 5 × StepDraws ℝ := (⟨MeleeEpisode.actChase, by decide⟩, ⟨0, 0⟩)
  let attack : Fin 5 × StepDraws ℝ := (⟨MeleeEpisode.actAttack, by decide⟩, ⟨0, 0⟩)
  have h₀ : OnAxis e₀ 0 3 := by
    refine ⟨rfl, rfl, rfl, if_neg ?_⟩
    show ¬ √((3 - 0) * (3 - 0) + (0 - 0) * (0 - 0) : ℝ) < lit 2
    rw [sub_zero, sub_zero, mul_zero, add_zero, Real.sqrt_mul_self (by norm_num),
      ExactScalar.lit_eq]
    norm_num
  have hchased := h₀.chase (by norm_num) (by norm_num [abs_le]) ⟨0, 0⟩
  obtain ⟨h₁, hopen₁⟩ := h₀.step hchased (by norm_num)
    (hchased.flees (by norm_num) (by norm_num) (by norm_num [abs_le])) (by norm_num [abs_lt])
  have hattacked := h₁.attack (by norm_num [abs_le]) ⟨0, 0⟩
  obtain ⟨h₂, hopen₂⟩ := h₁.step hattacked (by norm_num)
    (hattacked.waits (by norm_num) (by norm_num) (by norm_num [abs_le])) (by norm_num [abs_lt])
  have hover : ¬ e₀.Over := by
    simp [e₀, MeleeEpisode.Over, MeleeEpisode.reset, MeleeEpisode.init, ExactScalar.lit_eq]
  have r₀ : Run (meleeSystem (3 / 10 : ℝ) 240 true) [] e₀ := .start ⟨_, rfl⟩
  have r₁ := r₀.next chase ⟨hover, rfl⟩
  obtain ⟨-, -, hends⟩ := MeleeEpisode.damage_needs_a_corner (by norm_num) (by norm_num) 240 true r₁
    fun p hp => by rw [List.mem_singleton.mp hp]; exact hopen₁
  have hcount := (MeleeEpisode.run_kept r₁).steps.2.1
  have r₂ := r₁.next attack ⟨by rw [hends, hcount]; decide, rfl⟩
  obtain ⟨hmHp, htHp, -⟩ := MeleeEpisode.damage_needs_a_corner (by norm_num) (by norm_num) 240 true
    r₂ fun p hp => by
      rcases List.mem_pair.mp hp with rfl | rfl
      · exact hopen₂
      · exact hopen₁
  have hmPos := h₂.monster
  have htPos := h₂.target
  norm_num at hmPos htPos
  exact ⟨_, _, r₂, rfl, hmPos, htPos, hmHp, htHp h₂.active⟩

end MmorpgServer.Field
