/-
MmorpgServer.Field.FsmMeleeEnvTheorems — training and serving
observations.

`_obs` and `MakeObs16` are two encoders of one observation. They differ in
how they treat a target that is almost where the monster is: `_obs` takes
a distance below `10^-6` for zero, `MakeObs16` keeps the distance and only
leaves the direction zero, up to `10^-6` itself.

* `clip_eq_clampf` — the two clamps are one function.
* `obs_eq_makeObs16_iff_part` — only what depends on the target can differ.
* `trained_eq_served_iff` — when that does not.
* `training_and_serving_observations_agree_iff` — when the 16 components
  are the same.
-/
import MmorpgServer.Field.FsmMeleeEnv
import MmorpgServer.Lib.ExactScalar

namespace MmorpgServer.Field

open MmorpgServer.Lib Scalar

section

variable {K : Type} [ExactScalar K]

theorem clip_eq_clampf {lo hi : K} (h : lo ≤ hi) (x : K) : clip x lo hi = clampf x lo hi := by
  unfold clip clampf
  by_cases hlo : x < lo
  · simp only [if_pos hlo]
    exact if_neg (not_lt.mpr h)
  · simp only [if_neg hlo]

/-- A ratio is not clamped. -/
theorem clampf_of_mem {lo hi x : K} (hlo : lo ≤ x) (hhi : x ≤ hi) : clampf x lo hi = x := by
  unfold clampf
  rw [if_neg (not_lt.mpr hlo), if_neg (not_lt.mpr hhi)]

theorem root_eq_zero_iff [ExactRoots K] {x : K} (hx : 0 ≤ x) : ExactScalar.root x = 0 ↔ x = 0 := by
  have hroot := ExactRoots.root_mul_self x hx
  constructor
  · intro h0
    rw [h0, mul_zero] at hroot
    exact hroot.symm
  · rintro rfl
    exact mul_self_eq_zero.mp hroot

/-- A vector without length is zero. -/
theorem linalgNorm_eq_zero_iff [ExactRoots K] (v : K × K) :
    linalgNorm v = 0 ↔ v.1 = 0 ∧ v.2 = 0 := by
  unfold linalgNorm
  rw [ExactScalar.sqrt_eq, root_eq_zero_iff (add_nonneg (mul_self_nonneg _) (mul_self_nonneg _)),
    add_eq_zero_iff_of_nonneg (mul_self_nonneg _) (mul_self_nonneg _), mul_self_eq_zero,
    mul_self_eq_zero]

theorem linalgNorm_nonneg [ExactRoots K] (v : K × K) : 0 ≤ linalgNorm v :=
  ExactRoots.root_nonneg _

end

/-! ## The part that depends on the target -/

section

variable {K : Type} [Scalar K]

/-- `o[1]` to `o[3]` and the conditions of `o[6]` to `o[8]`, as `_obs`
has them for a target in the direction `v`. -/
def trained (v : K × K) (cd : K) : K × K × K × Bool × Bool × Bool :=
  let d := linalgNorm v
  let r : (K × K) × K :=
    if d < lit 0.000001 then ((lit 0, lit 0), lit 0) else ((v.1 / d, v.2 / d), d)
  (clip (r.2 / lit 11) (lit 0) (lit 2), r.1.1, r.1.2,
    decide (cd ≤ lit 0) && decide (r.2 ≤ lit 1.3), decide (r.2 ≤ lit 1.3),
    decide (r.2 ≤ lit 1.8))

/-- The same, as `MakeObs16` has them. -/
def served (v : K × K) (cd : K) : K × K × K × Bool × Bool × Bool :=
  let d := linalgNorm v
  let dir : K × K := if lit 0.000001 < d then (v.1 / d, v.2 / d) else (lit 0, lit 0)
  (clampf (d / lit 11) (lit 0) (lit 2), dir.1, dir.2,
    decide (cd ≤ lit 0) && decide (d ≤ lit 1.3), decide (d ≤ lit 1.3), decide (d ≤ lit 1.8))

/-- Without a target both have this. -/
def noTarget : K × K × K × Bool × Bool × Bool := (lit 0, lit 0, lit 0, false, false, false)

/-- The 16 components, of the part above, the ratio of the hp, whether it
is low, and the last action. -/
def components (active : Bool) (o : K × K × K × Bool × Bool × Bool) (ratio : K) (low : Bool)
    (lastAction : Fin 5) : List K :=
  let flag (c : Bool) : K := if c then lit 1 else lit 0
  [flag active, o.1, o.2.1, o.2.2.1, ratio, flag low, flag o.2.2.2.1, flag o.2.2.2.2.1,
    flag o.2.2.2.2.2, flag (decide (lastAction.val = 0)), flag (decide (lastAction.val = 1)),
    flag (decide (lastAction.val = 2)), flag (decide (lastAction.val = 3)),
    flag (decide (lastAction.val = 4)), lit 0, lit 0]

theorem obs_eq_components (mPos tPos : K × K) (mHp cd : K) (active : Bool) (lastAction : Fin 5) :
    ({ mPos, tPos, mHp, mAttackCd := cd, targetActive := active, lastAction } :
      FsmMeleeEnvV2 K).obs =
      components active
        (if active then trained (tPos.1 - mPos.1, tPos.2 - mPos.2) cd else noTarget)
        (clip (mHp / lit 100) (lit 0) (lit 1)) (decide (mHp / lit 100 ≤ lit 0.25)) lastAction := by
  cases active <;> rfl

theorem makeObs16_eq_components (mPos tPos : K × K) (mHp mMaxHp cd : K) (active : Bool)
    (lastAction : Fin 5) :
    makeObs16 (if active then some tPos else none) mPos.1 mPos.2 mHp mMaxHp cd
        (AiState.ofAction lastAction) {} =
      components active
        (if active then served (tPos.1 - mPos.1, tPos.2 - mPos.2) cd else noTarget)
        (clampf (if lit 0 < mMaxHp then mHp / mMaxHp else lit 0) (lit 0) (lit 1))
        (decide (clampf (if lit 0 < mMaxHp then mHp / mMaxHp else lit 0) (lit 0) (lit 1) ≤
          lit 0.25)) lastAction := by
  have hlast : ∀ (i : Nat) (hi : i < 5), decide (AiState.ofAction lastAction =
      AiState.ofAction ⟨i, hi⟩) = decide (lastAction.val = i) := by
    decide +revert
  unfold components
  rw [← hlast 0 (by decide), ← hlast 1 (by decide), ← hlast 2 (by decide), ← hlast 3 (by decide),
    ← hlast 4 (by decide)]
  cases active <;> rfl

end

section

variable {K : Type} [ExactScalar K] [ExactRoots K]

omit [ExactRoots K] in
/-- The distance of a target nearer than `10^-6` is not clamped. -/
theorem clampf_of_near {d : K} (hnonneg : 0 ≤ d) (h : d < lit 0.000001) :
    clampf (d / lit 11) (lit 0) (lit 2) = d / lit 11 := by
  have heleven : (0 : K) < lit 11 := by
    rw [ExactScalar.lit_eq]
    norm_num
  refine clampf_of_mem ?_ ?_
  · rw [ExactScalar.lit_zero]
    exact div_nonneg hnonneg heleven.le
  · rw [div_le_iff₀ heleven]
    simp only [ExactScalar.lit_eq] at h ⊢
    norm_num at h ⊢
    linarith

omit [ExactRoots K] in
/-- Such a target is in both ranges. -/
theorem inRanges_of_near {d : K} (h : d < lit 0.000001) : d ≤ lit 1.3 ∧ d ≤ lit 1.8 := by
  simp only [ExactScalar.lit_eq] at h ⊢
  norm_num at h ⊢
  constructor <;> linarith

/-- Nearer than `10^-6` the distance is kept by one and dropped by the
other. -/
theorem trained_eq_served_of_lt {v : K × K} (h : linalgNorm v < lit 0.000001) (cd : K) :
    trained v cd = served v cd ↔ v = (0, 0) := by
  have hzero : v = (0, 0) ↔ linalgNorm v = 0 := by
    rw [linalgNorm_eq_zero_iff]
    exact Prod.ext_iff
  have hnear : (lit 0 : K) < lit 0.000001 := by
    simp only [ExactScalar.lit_eq]
    norm_num
  have heleven : (lit 11 : K) ≠ 0 := by
    rw [ExactScalar.lit_eq]
    norm_num
  have hdropped : clip (lit 0 / lit 11 : K) (lit 0) (lit 2) = 0 := by
    rw [clip_eq_clampf (by simp [ExactScalar.lit_eq]),
      clampf_of_near ExactScalar.lit_zero.ge hnear, ExactScalar.lit_zero, zero_div]
  rw [hzero]
  unfold trained served
  simp only
  rw [if_pos h, if_neg h.not_gt, hdropped, clampf_of_near (linalgNorm_nonneg v) h]
  simp only [inRanges_of_near h, inRanges_of_near hnear, decide_true, Prod.mk.injEq, and_true]
  rw [eq_comm, div_eq_zero_iff, or_iff_left heleven]

omit [ExactRoots K] in
/-- Farther than `10^-6` there is no difference. -/
theorem trained_eq_served_of_gt {v : K × K} (h : lit 0.000001 < linalgNorm v) (cd : K) :
    trained v cd = served v cd := by
  unfold trained served
  simp only
  rw [if_neg h.not_gt, if_pos h, clip_eq_clampf (by simp [ExactScalar.lit_eq])]

/-- At `10^-6` one still gives the direction. -/
theorem trained_ne_served_of_eq {v : K × K} (h : linalgNorm v = lit 0.000001) (cd : K) :
    trained v cd ≠ served v cd := by
  have hpos : linalgNorm v ≠ 0 := by
    rw [h, ExactScalar.lit_eq]
    norm_num
  intro heq
  unfold trained served at heq
  simp only at heq
  rw [if_neg h.not_lt, if_neg h.not_gt] at heq
  simp only [Prod.mk.injEq, ExactScalar.lit_zero, div_eq_zero_iff, or_iff_left hpos] at heq
  exact hpos ((linalgNorm_eq_zero_iff v).mpr ⟨heq.2.1, heq.2.2.1⟩)

/-- The two agree on a target in the monster's place and on one that is
more than `10^-6` away. -/
theorem trained_eq_served_iff (v : K × K) (cd : K) :
    trained v cd = served v cd ↔ v = (0, 0) ∨ lit 0.000001 < linalgNorm v := by
  rcases lt_trichotomy (linalgNorm v) (lit 0.000001) with hlt | heq | hgt
  · rw [trained_eq_served_of_lt hlt, or_iff_left hlt.not_gt]
  · refine iff_of_false (trained_ne_served_of_eq heq cd) ?_
    rintro (rfl | hgt)
    · have hzero : linalgNorm ((0, 0) : K × K) = 0 := (linalgNorm_eq_zero_iff _).mpr ⟨rfl, rfl⟩
      rw [hzero, ExactScalar.lit_eq] at heq
      norm_num at heq
    · exact heq.not_gt hgt
  · exact iff_of_true (trained_eq_served_of_gt hgt cd) (.inr hgt)

omit [ExactRoots K] in
/-- The components say what the part is that they were made of. -/
theorem components_inj {active : Bool} {o o' : K × K × K × Bool × Bool × Bool} {ratio : K}
    {low : Bool} {lastAction : Fin 5} :
    components active o ratio low lastAction = components active o' ratio low lastAction ↔
      o = o' := by
  have hflag : ∀ c c' : Bool, (if c then lit 1 else lit 0 : K) = (if c' then lit 1 else lit 0) ↔
      c = c' := by
    intro c c'
    cases c <;> cases c' <;> simp [ExactScalar.lit_eq]
  unfold components
  simp only [List.cons.injEq, hflag, true_and, and_true, Prod.ext_iff]

omit [ExactRoots K] in
/-- With `m_hp` in its range only the part that depends on the target can
differ. -/
theorem obs_eq_makeObs16_iff_part (mPos tPos : K × K) {mHp : K} (hlow : 0 ≤ mHp)
    (hhigh : mHp ≤ 100) (cd : K) (active : Bool) (lastAction : Fin 5) :
    ({ mPos, tPos, mHp, mAttackCd := cd, targetActive := active, lastAction } :
      FsmMeleeEnvV2 K).obs =
      makeObs16 (if active then some tPos else none) mPos.1 mPos.2 mHp (lit 100) cd
        (AiState.ofAction lastAction) {} ↔
      (active = true → trained (tPos.1 - mPos.1, tPos.2 - mPos.2) cd =
        served (tPos.1 - mPos.1, tPos.2 - mPos.2) cd) := by
  have hhundred : (lit 0 : K) < lit 100 := by
    simp [ExactScalar.lit_eq]
  have hratio : clampf (mHp / lit 100) (lit 0) (lit 1) = mHp / lit 100 := by
    refine clampf_of_mem ?_ ?_
    · rw [ExactScalar.lit_zero] at hhundred ⊢
      positivity
    · simp only [ExactScalar.lit_eq] at *
      norm_num at *
      linarith
  rw [obs_eq_components, makeObs16_eq_components, if_pos hhundred,
    clip_eq_clampf (by simp [ExactScalar.lit_eq]), hratio, components_inj]
  cases active <;> simp

end

/-- **Training and serving observations** of one situation, with `m_hp` in
its range: the same 16 components exactly if there is no target, or it is
where the monster is, or more than `10^-6` away. -/
theorem training_and_serving_observations_agree_iff {K : Type} [ExactScalar K] [ExactRoots K]
    (mPos tPos : K × K) {mHp : K} (hlow : 0 ≤ mHp) (hhigh : mHp ≤ 100) (cd : K) (active : Bool)
    (lastAction : Fin 5) :
    ({ mPos, tPos, mHp, mAttackCd := cd, targetActive := active, lastAction } :
      FsmMeleeEnvV2 K).obs =
      makeObs16 (if active then some tPos else none) mPos.1 mPos.2 mHp (lit 100) cd
        (AiState.ofAction lastAction) {} ↔
      (active = true → tPos = mPos ∨
        0.000001 < sqrt ((tPos.1 - mPos.1) * (tPos.1 - mPos.1) +
          (tPos.2 - mPos.2) * (tPos.2 - mPos.2))) := by
  have hsame : (tPos.1 - mPos.1, tPos.2 - mPos.2) = ((0, 0) : K × K) ↔ tPos = mPos := by
    rw [Prod.mk.injEq, sub_eq_zero, sub_eq_zero]
    exact Prod.ext_iff.symm
  have hlit : (lit 0.000001 : K) = 0.000001 := by
    rw [ExactScalar.lit_eq]
    norm_num
  rw [obs_eq_makeObs16_iff_part mPos tPos hlow hhigh, trained_eq_served_iff, hsame, hlit]
  rfl

/-- At arm's length, and hurt. -/
theorem observations_agree_at_five :
    ({ mPos := (0, 0), tPos := (3, 4), mHp := 20, mAttackCd := 0, targetActive := true
       lastAction := 2 } : FsmMeleeEnvV2 ℝ).obs =
      makeObs16 (some (3, 4)) 0 0 20 (lit 100) 0 .chase {} := by
  refine (training_and_serving_observations_agree_iff (0, 0) (3, 4) (by norm_num) (by norm_num) 0
    true 2).mpr fun _ => .inr ?_
  have hroot : (√25 : ℝ) = 5 := by
    rw [show (25 : ℝ) = 5 ^ 2 by norm_num]
    exact Real.sqrt_sq (by norm_num)
  change (0.000001 : ℝ) < √((3 - 0) * (3 - 0) + (4 - 0) * (4 - 0))
  norm_num [hroot]

/-- **At a distance of `2^-21`** the distance is in one observation and not in
the other. -/
theorem observations_differ_close_up :
    ({ mPos := (0, 0), tPos := (1 / 2097152, 0), mHp := 100, mAttackCd := 0, targetActive := true
       lastAction := 0 } : FsmMeleeEnvV2 ℝ).obs ≠
      makeObs16 (some (1 / 2097152, 0)) 0 0 100 (lit 100) 0 .idle {} := by
  have hnorm : linalgNorm ((1 / 2097152 : ℝ) - 0, (0 : ℝ) - 0) < lit 0.000001 := by
    change √((1 / 2097152 - 0) * (1 / 2097152 - 0) + (0 - 0) * (0 - 0)) < ((0.000001 : ℚ) : ℝ)
    rw [Real.sqrt_lt' (by norm_num)]
    norm_num
  intro heq
  have hpart := (obs_eq_makeObs16_iff_part ((0, 0) : ℝ × ℝ) (1 / 2097152, 0) (by norm_num)
    (by norm_num) 0 true 0).mp heq rfl
  have hzero := congrArg Prod.fst ((trained_eq_served_of_lt hnorm 0).mp hpart)
  norm_num at hzero

end MmorpgServer.Field
