/-
MmorpgServer.Field.MonsterRateTheorems — how often a monster hits.

`attackTimer` is never ahead of the clock: it is at most the time that
has passed since any earlier call of `attack_player` (`Rested`). A call
needs the timer to have reached `attackCooldown`, so the calls of a
monster keep their distance; how many fit into a window is then the rate
bound of `Lib.Spacing`.
-/
import MmorpgServer.Field.MonsterCombatTheorems
import MmorpgServer.Lib.Spacing

namespace MmorpgServer.Field

open MmorpgServer.Lib Scalar

/-! ## Time and calls -/

section

variable {K σ : Type} [Scalar K]

/-- The simulated time a step takes. -/
def WorldAction.duration : WorldAction K σ → K
  | .update _ dt => dt
  | _ => lit 0

/-- The step has a call of `attack_player` by the monster. -/
def WorldState.attacks (env : MonsterEnvironment K σ) (mid : Nat)
    (p : WorldState K σ × WorldAction K σ) : Bool :=
  (p.1.attackCalls env p.2).any fun c => c.1.id = mid

/-- The calls of `attack_player` by a monster in a history. -/
def attackCount (env : MonsterEnvironment K σ) (mid : Nat)
    (l : List (WorldState K σ × WorldAction K σ)) : Nat :=
  (l.flatMap fun p => p.1.attackCalls env p.2).countP fun c => c.1.id = mid

variable {env : MonsterEnvironment K σ}

/-- A pass resets the timer, unless the monster is in state `Attack` and
has no call. -/
theorem CombatSystem.update_attackTimer (env : MonsterEnvironment K σ) (dt : K) (s : σ)
    (m : Monster K) :
    (CombatSystem.update env dt s m).1.ai.attackTimer = lit 0 ∨
      CombatSystem.attackCall env dt s m = none ∧
        (CombatSystem.update env dt s m).1.ai.attackTimer = m.ai.attackTimer + dt := by
  unfold CombatSystem.update CombatSystem.attackCall
  split
  · exact .inl rfl
  · simp only
    split
    · exact .inr ⟨rfl, rfl⟩
    · cases env.getPlayerPosition s m.ai.targetId with
      | none => exact .inr ⟨rfl, rfl⟩
      | some pos => exact .inl rfl

theorem CombatSystem.update_attackCooldown (dt : K) (s : σ) (m : Monster K) :
    (CombatSystem.update env dt s m).1.ai.attackCooldown = m.ai.attackCooldown := by
  obtain ⟨_, _, he⟩ := CombatSystem.update_fst env dt s m
  rw [he]

/-- Up to `CombatSystem`, a tick leaves the timer alone or resets it. -/
theorem MonsterWorld.ThreePasses.timer {policy : List K → Fin 5 → K} {dt : K} {w : MonsterWorld K}
    {s : σ} {m m₁ m₃ : Monster K} {s₂ : σ} (h : ThreePasses env policy dt w s m m₁ m₃ s₂) :
    m₃.ai.attackCooldown = m.ai.attackCooldown ∧
      (m₃.ai.attackTimer = m.ai.attackTimer ∨ m₃.ai.attackTimer = lit 0) := by
  have hspawn : ∀ (s : σ) (m : Monster K),
      (spawnUpdate env dt s m).1.ai.attackCooldown = m.ai.attackCooldown ∧
        ((spawnUpdate env dt s m).1.ai.attackTimer = m.ai.attackTimer ∨
          (spawnUpdate env dt s m).1.ai.attackTimer = lit 0) := by
    intro s m
    obtain ⟨-, he⟩ | ⟨-, -, he⟩ | ⟨-, -, he⟩ := spawnUpdate_cases env dt s m <;> rw [he]
    · exact ⟨rfl, .inl rfl⟩
    · exact ⟨rfl, .inl rfl⟩
    · exact ⟨rfl, .inr rfl⟩
  obtain ⟨s₁, rfl⟩ := h.respawn
  obtain ⟨s₃, rfl⟩ := h.move
  have hai := AISystem.update_kept env policy dt s₂ (spawnUpdate env dt s₁ m).1
  have hlate := MovementSystem.update_kept env dt s₃
    (AISystem.update env policy dt s₂ (spawnUpdate env dt s₁ m).1).1
  obtain ⟨hcd, htimer⟩ := hspawn s₁ m
  refine ⟨(hlate.attackCooldown.trans hai.attackCooldown).trans hcd, ?_⟩
  rw [hlate.attackTimer, hai.attackTimer]
  exact htimer

/-- With different ids, a call by the id of a pass is a call of the pass. -/
theorem WorldState.attacks_pass {st : WorldState K σ} (hnd : st.ids.Nodup)
    {policy : List K → Fin 5 → K} {dt : K} {v : σ × Monster K}
    (hv : v ∈ st.world.combatPasses env policy dt st.outside)
    (h : WorldState.attacks env v.2.id (st, .update policy dt) = true) :
    CombatSystem.attackCall env dt v.1 v.2 ≠ none := by
  obtain ⟨c, hc, hid⟩ := List.any_eq_true.mp h
  obtain ⟨u, hu, hcall⟩ := List.mem_filterMap.mp hc
  obtain ⟨p, hp, rfl⟩ := Option.map_eq_some_iff.mp hcall
  obtain rfl := MonsterWorld.eq_of_combatPasses hnd hu hv (of_decide_eq_true hid)
  rw [hp]
  exact Option.some_ne_none p

/-- A monster has at most one call a step. -/
theorem WorldState.countP_attackCalls {st : WorldState K σ} (hnd : st.ids.Nodup)
    (a : WorldAction K σ) (mid : Nat) :
    (st.attackCalls env a).countP (fun c => c.1.id = mid) ≤
      if WorldState.attacks env mid (st, a) then 1 else 0 := by
  split
  · cases a with
    | update policy dt =>
      have hpasses : (st.world.combatPasses env policy dt st.outside).Pairwise
          fun u v => u.2.id ≠ v.2.id := by
        rw [← List.pairwise_map (R := fun i j : Nat => i ≠ j),
          MonsterWorld.combatPasses_ids env policy dt st.world st.outside]
        exact hnd
      have hcalls : ((st.attackCalls env (.update policy dt)).map fun c => c.1.id).Nodup := by
        rw [List.Nodup, List.pairwise_map]
        refine hpasses.filterMap _ fun u v hne b hb c hc => ?_
        obtain ⟨p, -, rfl⟩ := Option.map_eq_some_iff.mp hb
        obtain ⟨q, -, rfl⟩ := Option.map_eq_some_iff.mp hc
        exact hne
      have hcount := List.nodup_iff_count_le_one.mp hcalls mid
      rw [List.count, List.countP_map] at hcount
      refine le_trans (le_of_eq ?_) hcount
      congr 1
    | _ => simp [attackCalls]
  · rename_i hnone
    refine le_of_eq (List.countP_eq_zero.mpr fun c hc hid => hnone ?_)
    exact List.any_eq_true.mpr ⟨c, hc, hid⟩

theorem attackCount_cons (mid : Nat) (p : WorldState K σ × WorldAction K σ)
    (l : List (WorldState K σ × WorldAction K σ)) :
    attackCount env mid (p :: l) =
      (p.1.attackCalls env p.2).countP (fun c => c.1.id = mid) + attackCount env mid l := by
  simp [attackCount]

/-- In a run, a monster has as many calls as steps with one. -/
theorem attackCount_le {l : List (WorldState K σ × WorldAction K σ)}
    (hnd : ∀ p ∈ l, p.1.ids.Nodup) (mid : Nat) :
    attackCount env mid l ≤ l.countP (WorldState.attacks env mid) := by
  induction l with
  | nil => exact Nat.le_refl 0
  | cons p l ih =>
    have hp : (p.1.attackCalls env p.2).countP (fun c => c.1.id = mid) ≤
        if WorldState.attacks env mid p then 1 else 0 :=
      WorldState.countP_attackCalls (hnd p List.mem_cons_self) p.2 mid
    have hl := ih fun q hq => hnd q (List.mem_cons_of_mem p hq)
    rw [attackCount_cons, List.countP_cons]
    omega

end

/-! ## The timer -/

section

variable {K σ : Type} [ExactScalar K] {env : MonsterEnvironment K σ}

/-- The time a history takes. -/
abbrev simTime (l : List (WorldState K σ × WorldAction K σ)) : K :=
  elapsed (fun p => p.2.duration) l

/-- The timer of a monster is not ahead of the clock since its calls. -/
structure Rested (env : MonsterEnvironment K σ) (l : List (WorldState K σ × WorldAction K σ))
    (m : Monster K) : Prop where
  attackCooldown : m.ai.attackCooldown = 1
  attackTimer : ∀ l₂ p l₁, l = l₂ ++ p :: l₁ → WorldState.attacks env m.id p →
    m.ai.attackTimer ≤ simTime l₂

theorem simTime_nonneg {l : List (WorldState K σ × WorldAction K σ)}
    (hl : ∀ p ∈ l, 0 ≤ p.2.duration) : 0 ≤ simTime l :=
  elapsed_nonneg hl

/-- A step that is no tick takes no time, and has no calls. -/
theorem Rested.idle {l : List (WorldState K σ × WorldAction K σ)} {m m' : Monster K}
    (h : Rested env l m) (hid : m'.id = m.id) (hai : m'.ai.attackCooldown = m.ai.attackCooldown)
    (htimer : m'.ai.attackTimer = m.ai.attackTimer) {st : WorldState K σ} {a : WorldAction K σ}
    (ha : ∀ policy dt, a ≠ .update policy dt) : Rested env ((st, a) :: l) m' := by
  have hcalls : st.attackCalls env a = [] := by
    cases a with
    | update policy dt => exact absurd rfl (ha policy dt)
    | _ => rfl
  have hduration : a.duration = (0 : K) := by
    cases a with
    | update policy dt => exact absurd rfl (ha policy dt)
    | _ => exact ExactScalar.lit_zero
  refine ⟨hai.trans h.attackCooldown, fun l₂ p l₁ hl hp => ?_⟩
  rw [hid] at hp
  rw [htimer]
  rcases List.cons_eq_append_iff.mp hl with ⟨rfl, hl⟩ | ⟨l₂', rfl, rfl⟩
  · cases hl
    simp [WorldState.attacks, hcalls] at hp
  · have hle := h.attackTimer l₂' p l₁ rfl hp
    simp only [simTime, elapsed_cons, hduration, zero_add]
    exact hle

/-- A tick advances the timer by no more than the clock. -/
theorem Rested.tick {l : List (WorldState K σ × WorldAction K σ)} (hl : ∀ p ∈ l, 0 ≤ p.2.duration)
    {st : WorldState K σ} (hnd : st.ids.Nodup) {policy : List K → Fin 5 → K} {dt : K} (hdt : 0 ≤ dt)
    {m m₁ : Monster K} (h : Rested env l m) {s₂ : σ} {v : σ × Monster K}
    (hv : v ∈ st.world.combatPasses env policy dt st.outside)
    (hpasses : MonsterWorld.ThreePasses env policy dt st.world st.outside m m₁ v.2 s₂) :
    Rested env ((st, .update policy dt) :: l) (CombatSystem.update env dt v.1 v.2).1 := by
  obtain ⟨hcooldown, htimer⟩ := hpasses.timer
  have hzero : (lit 0 : K) = 0 := ExactScalar.lit_zero
  refine ⟨?_, fun l₂ p l₁ hsplit hp => ?_⟩
  · rw [CombatSystem.update_attackCooldown, hcooldown]
    exact h.attackCooldown
  rw [CombatSystem.update_id, hpasses.id.2] at hp
  have hreset := CombatSystem.update_attackTimer env dt v.1 v.2
  rcases List.cons_eq_append_iff.mp hsplit with ⟨rfl, hl'⟩ | ⟨l₂', rfl, rfl⟩
  · -- a call of this very tick is the pass's own
    cases hl'
    have hcall := WorldState.attacks_pass hnd hv (hpasses.id.2 ▸ hp)
    obtain hreset | ⟨hnone, -⟩ := hreset
    · rw [hreset, hzero]
      exact le_refl 0
    · exact absurd hnone hcall
  · have hpast : 0 ≤ simTime l₂' := simTime_nonneg fun q hq => hl q (by simp [hq])
    have hbefore : v.2.ai.attackTimer ≤ simTime l₂' := by
      obtain htimer | htimer := htimer
      · rw [htimer]
        exact h.attackTimer l₂' p l₁ rfl hp
      · rw [htimer, hzero]
        exact hpast
    have hclock : simTime ((st, WorldAction.update policy dt) :: l₂') = dt + simTime l₂' :=
      elapsed_cons _ _ _
    rw [hclock]
    obtain hreset | ⟨-, hreset⟩ := hreset
    · rw [hreset, hzero]
      linarith
    · rw [hreset]
      linarith

/-- In every state reached, every monster is rested. -/
theorem worldSystem_rested {R : σ → σ → Prop} {l : List (WorldState K σ × WorldAction K σ)}
    {st : WorldState K σ} (r : Run (worldSystem env R) l st) (hl : ∀ p ∈ l, 0 ≤ p.2.duration) :
    ∀ m ∈ st.world.monsters, Rested env l m := by
  refine fun m hm => worldSystem_forall
    (fun l m => (∀ p ∈ l, 0 ≤ p.2.duration) → Rested env l m) ?_ ?_ r m hm hl
  · intro l st mid x y prefabName monsterType maxHp hp maxSp sp atk d _ _ m hm hl
    simp only [MonsterWorld.createMonster, List.nil_append, List.mem_singleton] at hm
    subst hm
    refine ⟨Rat.cast_one, fun l₂ p l₁ hsplit _ => ?_⟩
    have htime : 0 ≤ simTime l₂ := simTime_nonneg fun q hq => hl q (by rw [hsplit]; simp [hq])
    exact le_trans (le_of_eq ExactScalar.lit_zero) htime
  · intro l st a m m' _ hnd _ hstep h hl
    have hpast := h fun p hp => hl p (List.mem_cons_of_mem _ hp)
    cases hstep with
    | same hattack hskill hupdate => exact hpast.idle rfl rfl rfl hupdate
    | delayed delay =>
      refine hpast.idle ?_ ?_ ?_ (by simp) <;> rfl
    | hit ha =>
      have hai : (MonsterWorld.hit m).1.ai.attackCooldown = m.ai.attackCooldown ∧
          (MonsterWorld.hit m).1.ai.attackTimer = m.ai.attackTimer := by
        unfold MonsterWorld.hit
        simp only
        split <;> exact ⟨rfl, rfl⟩
      refine hpast.idle (MonsterWorld.hit_id m) hai.1 hai.2 ?_
      rintro policy dt rfl
      simp at ha
    | tick hv hpasses =>
      exact hpast.tick (fun p hp => hl p (List.mem_cons_of_mem _ hp)) hnd
        (hl _ List.mem_cons_self) hv hpasses

/-- The calls of a monster keep their distance. -/
theorem attacks_spaced {R : σ → σ → Prop} {l : List (WorldState K σ × WorldAction K σ)}
    {st : WorldState K σ} (r : Run (worldSystem env R) l st) (hl : ∀ p ∈ l, 0 ≤ p.2.duration)
    (mid : Nat) : Spaced (fun p => p.2.duration) (WorldState.attacks env mid) (1 : K) l := by
  rintro l₃ ⟨st, a⟩ l₂ q l₁ rfl hq hp
  obtain ⟨c, hc, hid⟩ := List.any_eq_true.mp hp
  obtain rfl : c.1.id = mid := of_decide_eq_true hid
  obtain ⟨policy, dt, rfl, v, hv, hvc, hcall⟩ := WorldState.mem_attackCalls hc
  obtain ⟨m, m₁, s₂, hpasses⟩ := MonsterWorld.mem_combatPasses hv
  have hpast : ∀ p ∈ l₂ ++ q :: l₁, 0 ≤ p.2.duration := fun p hp => hl p (by simp_all)
  have hrested := worldSystem_rested r.before.1 hpast m hpasses.mem
  rw [← hvc, hpasses.id.2] at hq
  have hm := hrested.attackTimer l₂ q l₁ rfl hq
  obtain ⟨hcooldown, htimer⟩ := hpasses.timer
  obtain ⟨-, hready, -⟩ := CombatSystem.attackCall_eq_some hcall
  have htime : 0 ≤ simTime l₂ := simTime_nonneg fun p hp => hpast p (by simp [hp])
  have hbefore : v.2.ai.attackTimer ≤ simTime l₂ := by
    obtain htimer | htimer := htimer
    · rw [htimer]
      exact hm
    · rw [htimer, ExactScalar.lit_zero]
      exact htime
  rw [hcooldown, hrested.attackCooldown, not_lt] at hready
  have hclock : simTime ((st, WorldAction.update policy dt) :: l₂) = dt + simTime l₂ :=
    elapsed_cons _ _ _
  show 1 ≤ simTime ((st, WorldAction.update policy dt) :: l₂)
  rw [hclock]
  linarith

/-- Whoever calls `attack_player` has the cooldown it was created with. -/
theorem attackCalls_cooldown {R : σ → σ → Prop} {l : List (WorldState K σ × WorldAction K σ)}
    {st : WorldState K σ} (r : Run (worldSystem env R) l st) (hl : ∀ p ∈ l, 0 ≤ p.2.duration)
    {a : WorldAction K σ} {c : Monster K × Nat} (hc : c ∈ st.attackCalls env a) :
    c.1.ai.attackCooldown = 1 := by
  obtain ⟨policy, dt, rfl, v, hv, hvc, -⟩ := WorldState.mem_attackCalls hc
  obtain ⟨m, m₁, s₂, hpasses⟩ := MonsterWorld.mem_combatPasses hv
  rw [← hvc, hpasses.timer.1]
  exact (worldSystem_rested r hl m hpasses.mem).attackCooldown

/-- **Attack rate bound.** However long the ticks of a run are, and
whatever happens between them: two calls of `attack_player` by one monster
are at least its cooldown apart, and a window of the run of length `T` has
at most `T / attackCooldown + 1` of them, rounded down. -/
theorem attack_rate [FloorSemiring K] (env : MonsterEnvironment K σ)
    (l : List (WorldState K σ × WorldAction K σ)) (st : WorldState K σ)
    (r : Run (worldSystem env fun _ _ => True) l st)
    (hdt : ∀ p ∈ l, ∀ policy dt, p.2 = .update policy dt → 0 < dt) :
    (∀ l₃ q l₂ p l₁, l = l₃ ++ q :: (l₂ ++ p :: l₁) →
      ∀ c ∈ p.1.attackCalls env p.2, ∀ d ∈ q.1.attackCalls env q.2, c.1.id = d.1.id →
        d.1.ai.attackCooldown ≤ simTime (q :: l₂)) ∧
    (∀ l₃ w l₁, l = l₃ ++ w ++ l₁ → ∀ m ∈ st.world.monsters,
      attackCount env m.id w ≤ ⌊simTime w / m.ai.attackCooldown⌋₊ + 1) := by
  have hl : ∀ p ∈ l, (0 : K) ≤ p.2.duration := by
    rintro ⟨st, a⟩ hp
    cases a with
    | update policy dt => exact (hdt _ hp policy dt rfl).le
    | _ => exact ExactScalar.lit_zero.ge
  constructor
  · rintro l₃ ⟨st', a⟩ l₂ p l₁ rfl c hc d hd hid
    have hspaced := attacks_spaced r hl d.1.id
    rw [attackCalls_cooldown r.before.1 (fun p hp => hl p (by simp_all)) hd]
    refine hspaced l₃ (st', a) l₂ p l₁ rfl ?_ ?_
    · exact List.any_eq_true.mpr ⟨c, hc, decide_eq_true hid⟩
    · exact List.any_eq_true.mpr ⟨d, hd, decide_eq_true rfl⟩
  · rintro l₃ w l₁ rfl m hm
    have hspaced : Spaced (fun p => p.2.duration) (WorldState.attacks env m.id) (1 : K) w := by
      rintro w₃ q w₂ p w₁ rfl hp hq
      exact attacks_spaced r hl m.id (l₃ ++ w₃) q w₂ p (w₁ ++ l₁) (by simp) hp hq
    have hids : ∀ p ∈ w, p.1.ids.Nodup := by
      intro p hp
      obtain ⟨l', t', r', -⟩ := r.source p (by simp [hp])
      exact worldSystem_ids r'
    rw [(worldSystem_rested r hl m hm).attackCooldown]
    exact (attackCount_le hids m.id).trans
      (hspaced.count_le one_pos fun p hp => hl p (by simp [hp]))

end

/-- The archer of `hits_in_range_archer` shoots at most twice in its first
second and a half. -/
theorem attack_rate_archer :
    let start : WorldState ℚ (Option (ℚ × ℚ)) := { outside := some (15, 0) }
    let created := start.step onePlayer (.create 1000 0 0 "BowAndArrow1" 1 200 200 100 100 7 3)
    let later := created.step onePlayer (.update (fun _ _ => 0) 1)
    ∃ m ∈ (later.step onePlayer (.update (fun _ _ => 0) (1 / 2))).world.monsters,
      attackCount onePlayer m.id
        [(later, .update (fun _ _ => 0) (1 / 2)), (created, .update (fun _ _ => 0) 1)] ≤ 2 := by
  intro start created later
  have r₀ : Run (worldSystem onePlayer fun _ _ => True) [] start := .start rfl
  have r₁ : Run (worldSystem onePlayer fun _ _ => True) _ created :=
    r₀.next (.create 1000 0 0 "BowAndArrow1" 1 200 200 100 100 7 3)
      ⟨show 1000 ∉ start.ids by decide, rfl⟩
  have r₂ : Run (worldSystem onePlayer fun _ _ => True) _ later :=
    r₁.next (.update (fun _ _ => 0) 1) ⟨trivial, rfl⟩
  have r₃ := r₂.next (.update (fun _ _ => 0) (1 / 2)) ⟨trivial, rfl⟩
  obtain ⟨m, hm, hcooldown⟩ :
      ∃ m ∈ (later.step onePlayer (.update (fun _ _ => 0) (1 / 2))).world.monsters,
        m.ai.attackCooldown = 1 := by decide +kernel
  refine ⟨m, hm, ?_⟩
  have h := (attack_rate onePlayer _ _ r₃ (by simp)).2 []
    [(later, .update (fun _ _ => 0) (1 / 2)), (created, .update (fun _ _ => 0) 1)] _ rfl m hm
  rw [hcooldown] at h
  have hfloor : ⌊(3 / 2 : ℚ)⌋₊ = 1 := by
    rw [Nat.floor_eq_iff (by norm_num)]
    norm_num
  refine h.trans (le_of_eq ?_)
  simp only [simTime, elapsed, List.map_cons, List.map_nil, WorldAction.duration]
  norm_num [hfloor]

end MmorpgServer.Field
