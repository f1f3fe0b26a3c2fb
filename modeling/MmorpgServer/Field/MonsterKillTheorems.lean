/-
MmorpgServer.Field.MonsterKillTheorems — an archer kills who stands still
in its sight.

* `WorldState.Turn` — what a step makes of the archer, when it is not the
  one that is attacked; `WorldState.exists_turn` finds it.
* `Prey.update_hp` — in a tick the player's hp do not rise, and an attack
  on the player takes its damage off.
* `archer_kills` — over every behavior in which the world is ticked again
  and again.
-/
import MmorpgServer.Field.MonsterReplicaTheorems
import MmorpgServer.Field.MonsterSiegeTheorems
import MmorpgServer.Lib.Progress
import MmorpgServer.Lib.Refinement

namespace MmorpgServer.Field

open MmorpgServer.Lib Scalar

variable {K σ : Type}

/-! ## Around the archer -/

/-- The step is a tick of the given duration, an attack on another monster,
or does not harm the archer either; a monster that it creates does damage. -/
def WorldAction.Spares (mid : Nat) (dt : K) : WorldAction K σ → Prop
  | .create _ _ _ _ _ _ _ _ _ atk _ => 0 ≤ atk
  | .update _ dt' => dt' = dt
  | .attack mid' | .skill mid' => mid' ≠ mid
  | _ => True

section

variable [Scalar K] {env : MonsterEnvironment K σ} {I : σ → Prop}

/-- What becomes of a monster in a step that does not attack it. -/
inductive WorldState.Turn (env : MonsterEnvironment K σ) (I : σ → Prop) (st : WorldState K σ) :
    WorldAction K σ → Monster K → Monster K → Prop
  | tick {policy : List K → Fin 5 → K} {dt : K} {m m₃ : Monster K} {s₁ s₂ s₃ s₄ : σ} (h₂ : I s₂)
      (h₃ : I s₃) (h₄ : I s₄)
      (hm₃ : m₃ = (MovementSystem.update env dt s₃
        (AISystem.update env policy dt s₂ (spawnUpdate env dt s₁ m).1).1).1)
      (hv : (s₄, m₃) ∈ st.world.combatPasses env policy dt st.outside) :
      Turn env I st (.update policy dt) m (CombatSystem.update env dt s₄ m₃).1
  | rest {a : WorldAction K σ} {m : Monster K} (hupdate : ∀ policy dt, a ≠ .update policy dt)
      (spawnInfo : CSpawnInfo K) : Turn env I st a m { m with spawnInfo }

/-- **The passes of a monster**: every system meets it, in a state that the
callbacks have kept. -/
theorem WorldState.exists_tick (h : env.Keeps (fun _ => True) I)
    (policy : List K → Fin 5 → K) (dt : K) {st : WorldState K σ} (hs : I st.outside) {m : Monster K}
    (hm : m ∈ st.world.monsters) :
    ∃ m' ∈ (st.update env policy dt).world.monsters, st.Turn env I (.update policy dt) m m' := by
  have hspawn : ∀ s, ∀ m ∈ st.world.monsters, I s → I (spawnUpdate env dt s m).2 :=
    fun s m _ => h.spawnUpdate dt s m trivial
  have hspawned : I (st.world.spawned env dt st.outside).2 := updateLoop_state hspawn hs
  have hdecide : ∀ s, ∀ m ∈ (st.world.spawned env dt st.outside).1, I s →
      I (AISystem.update env policy dt s m).2 := fun s m _ => h.aiUpdate policy dt s m
  have hdecided : I (st.world.decided env policy dt st.outside).2 :=
    updateLoop_state hdecide hspawned
  have hmove : ∀ s, ∀ m ∈ (st.world.decided env policy dt st.outside).1, I s →
      I (MovementSystem.update env dt s m).2 := fun s m _ => h.movementUpdate dt s m trivial
  obtain ⟨⟨s₁, m₁⟩, hv₁, rfl⟩ := exists_visit (spawnUpdate env dt) st.outside hm
  obtain ⟨⟨s₂, m₂⟩, hv₂, rfl⟩ := exists_visit (AISystem.update env policy dt)
    (st.world.spawned env dt st.outside).2 (mem_updateLoop.mpr ⟨_, hv₁, rfl⟩)
  obtain ⟨⟨s₃, m₃⟩, hv₃, rfl⟩ := exists_visit (MovementSystem.update env dt)
    (st.world.decided env policy dt st.outside).2 (mem_updateLoop.mpr ⟨_, hv₂, rfl⟩)
  obtain ⟨⟨s₄, m₄⟩, hv₄, rfl⟩ := exists_visit (CombatSystem.update env dt)
    (st.world.moved env policy dt st.outside).2 (mem_updateLoop.mpr ⟨_, hv₃, rfl⟩)
  refine ⟨_, mem_updateLoop.mpr ⟨_, hv₄, rfl⟩, .tick ?_ ?_ ?_ rfl hv₄⟩
  · exact visits_state hdecide hspawned _ hv₂
  · exact visits_state hmove hdecided _ hv₃
  · exact h.combatPasses policy dt st.world hs _ hv₄

theorem MonsterWorld.mem_playerAttackMonster_of_ne {mid : Nat} {ms : List (Monster K)} {s : σ}
    {m : Monster K} (hm : m ∈ ms) (hid : m.id ≠ mid) :
    m ∈ (playerAttackMonster env mid ms s).1 := by
  induction ms with
  | nil => cases hm
  | cons m₀ ms ih =>
    unfold playerAttackMonster
    split
    · rcases List.mem_cons.mp hm with rfl | hm
      · exact List.mem_cons_self
      · exact List.mem_cons_of_mem m₀ (ih hm)
    · rename_i hsame
      rcases List.mem_cons.mp hm with rfl | hm
      · exact absurd hid hsame
      · exact List.mem_cons_of_mem _ hm

/-- **A step has a turn of every monster** it does not attack. -/
theorem WorldState.exists_turn (h : env.Keeps (fun _ => True) I) {st : WorldState K σ}
    (hs : I st.outside) {m : Monster K} (hm : m ∈ st.world.monsters) {dt : K} {a : WorldAction K σ}
    (ha : a.Spares m.id dt) :
    ∃ m' ∈ (st.step env a).world.monsters, m'.id = m.id ∧ st.Turn env I a m m' := by
  have hattack : ∀ mid, mid ≠ m.id → (∀ policy dt, a ≠ .update policy dt) →
      ∃ m' ∈ (MonsterWorld.playerAttackMonster env mid st.world.monsters st.outside).1,
        m'.id = m.id ∧ st.Turn env I a m m' := fun mid hmid ha =>
    ⟨m, MonsterWorld.mem_playerAttackMonster_of_ne hm hmid.symm, rfl, .rest ha m.spawnInfo⟩
  cases a with
  | create mid x y prefabName monsterType maxHp hp maxSp sp atk d =>
    exact ⟨m, List.mem_append_left _ hm, rfl, .rest nofun m.spawnInfo⟩
  | setRespawnDelay mid delay =>
    refine ⟨_, List.mem_map_of_mem hm, ?_⟩
    split
    · exact ⟨rfl, .rest nofun _⟩
    · exact ⟨rfl, .rest nofun m.spawnInfo⟩
  | update policy dt' =>
    obtain ⟨m', hm', hturn⟩ := exists_tick h policy dt' hs hm
    refine ⟨m', hm', ?_, hturn⟩
    cases hturn with
    | tick h₂ h₃ h₄ hm₃ hv =>
      rw [CombatSystem.update_id, hm₃, MovementSystem.update_id, AISystem.update_id, spawnUpdate_id]
    | rest hupdate => exact absurd rfl (hupdate _ _)
  | attack mid => exact hattack mid ha nofun
  | skill mid =>
    obtain ⟨m', hm', hturn⟩ := hattack mid ha nofun
    refine ⟨m', ?_, hturn⟩
    unfold step
    simp only
    split <;> exact hm'
  | outside s => exact ⟨m, hm, rfl, .rest nofun m.spawnInfo⟩

end

/-! ## Damage -/

/-- No monster's damage is negative. -/
def MonsterWorld.Armed (w : MonsterWorld K) : Prop := ∀ m ∈ w.monsters, 0 ≤ m.stats.atk

section

variable [Scalar K] {env : MonsterEnvironment K σ}

theorem passes_atk (env : MonsterEnvironment K σ) (policy : List K → Fin 5 → K) (dt : K)
    (s₁ s₂ s₃ : σ) (m : Monster K) :
    (MovementSystem.update env dt s₃
      (AISystem.update env policy dt s₂ (spawnUpdate env dt s₁ m).1).1).1.stats.atk =
        m.stats.atk := by
  obtain ⟨hstats, -⟩ := MovementSystem.update_stats env dt s₃
    (AISystem.update env policy dt s₂ (spawnUpdate env dt s₁ m).1).1
  rw [hstats]
  obtain ⟨-, he⟩ | ⟨-, -, he⟩ | ⟨-, -, he⟩ := spawnUpdate_cases env dt s₁ m <;> rw [he] <;> rfl

theorem MonsterWorld.ThreePasses.atk {policy : List K → Fin 5 → K} {dt : K} {w : MonsterWorld K}
    {s s₂ : σ} {m m₁ m₃ : Monster K} (h : ThreePasses env policy dt w s m m₁ m₃ s₂) :
    m₃.stats.atk = m.stats.atk := by
  obtain ⟨s₁, rfl⟩ := h.respawn
  obtain ⟨s₃, rfl⟩ := h.move
  exact passes_atk env policy dt s₁ s₂ s₃ m

theorem MonsterStep.atk {st : WorldState K σ} {a : WorldAction K σ} {m m' : Monster K}
    (h : MonsterStep env st a m m') : m'.stats.atk = m.stats.atk := by
  cases h with
  | same => rfl
  | delayed => rfl
  | hit =>
    unfold MonsterWorld.hit
    simp only
    split <;> rfl
  | @tick policy dt _ m₁ s₂ v hv hpasses =>
    rw [(CombatSystem.update_stats env dt v.1 v.2).1, hpasses.atk]

theorem WorldState.step_armed {st : WorldState K σ} (hnd : st.ids.Nodup) {mid : Nat} {dt : K}
    {a : WorldAction K σ} (ha : a.Spares mid dt) (h : st.world.Armed) :
    (st.step env a).world.Armed := by
  intro m' hm'
  obtain ⟨m, hm, hstep⟩ |
    ⟨mid, x, y, prefabName, monsterType, maxHp, hp, maxSp, sp, atk, d, rfl, hnew⟩ :=
    WorldState.mem_step hnd hm'
  · rw [hstep.atk]
    exact h m hm
  · obtain rfl := List.mem_singleton.mp hnew
    exact ha

end

/-! ## The player's hp -/

section

variable [ExactScalar K] {env : MonsterEnvironment K σ} {I : σ → Prop} {hp : σ → Int} {pid : Nat}
  {px py : K}

namespace MonsterEnvironment

theorem harmless_playerAttackMonster (env : MonsterEnvironment K σ) (mid : Nat)
    (ms : List (Monster K)) (s : σ) : MonsterWorld.playerAttackMonster env.harmless mid ms s =
      MonsterWorld.playerAttackMonster env mid ms s := by
  induction ms with
  | nil => rfl
  | cons m ms ih =>
    unfold MonsterWorld.playerAttackMonster
    rw [ih]
    rfl

namespace Prey

/-- A pass of `CombatSystem` takes off hp or does nothing to them. -/
theorem combatUpdate (h : env.Prey I hp pid px py) {s : σ} (hs : I s) {n : Int} (hn : 0 ≤ n)
    (hhp : hp s ≤ n) (dt : K) {m : Monster K} (hatk : 0 ≤ m.stats.atk) :
    let s' := (CombatSystem.update env dt s m).2
    (I s' ∧ hp s' ≤ n) ∧ (CombatSystem.attackCall env dt s m = some pid →
      hp s' ≤ Max.max 0 (n - m.stats.atk)) := by
  simp only
  rw [CombatSystem.update_snd]
  cases hcall : CombatSystem.attackCall env dt s m with
  | none => exact ⟨⟨hs, hhp⟩, nofun⟩
  | some p =>
    obtain ⟨hI, hhit⟩ := h.attackPlayer hs m.id p hatk
    simp only [Option.map_some, Option.getD_some, hhit]
    refine ⟨⟨hI, ?_⟩, fun hp => ?_⟩
    · split <;> omega
    · rw [if_pos (Option.some.inj hp)]
      omega

/-- **A tick and the player's hp.** They do not rise, and a call of
`attack_player` for the player takes its damage off. -/
theorem update_hp (h : env.Prey I hp pid px py) {st : WorldState K σ} (hs : I st.outside)
    (harmed : st.world.Armed) (policy : List K → Fin 5 → K) (dt : K) :
    let s' := (st.update env policy dt).outside
    (I s' ∧ hp s' ≤ Max.max 0 (hp st.outside)) ∧
      ∀ v ∈ st.world.combatPasses env policy dt st.outside,
        CombatSystem.attackCall env dt v.1 v.2 = some pid →
          hp s' ≤ Max.max 0 (hp st.outside - v.2.stats.atk) := by
  have hkeeps := h.keeps (hp st.outside)
  -- the first three systems do nothing to the player
  have hspawned : I (st.world.spawned env dt st.outside).2 ∧
      hp (st.world.spawned env dt st.outside).2 = hp st.outside :=
    updateLoop_state (I := fun s => I s ∧ hp s = hp st.outside)
      (fun s m _ => hkeeps.spawnUpdate dt s m trivial) ⟨hs, rfl⟩
  have hdecided : I (st.world.decided env policy dt st.outside).2 ∧
      hp (st.world.decided env policy dt st.outside).2 = hp st.outside :=
    updateLoop_state (I := fun s => I s ∧ hp s = hp st.outside)
      (fun s m _ => hkeeps.aiUpdate policy dt s m) hspawned
  have hmoved : I (st.world.moved env policy dt st.outside).2 ∧
      hp (st.world.moved env policy dt st.outside).2 = hp st.outside :=
    updateLoop_state (I := fun s => I s ∧ hp s = hp st.outside)
      (fun s m _ => hkeeps.movementUpdate dt s m trivial) hdecided
  have harmed' : ∀ m ∈ (st.world.moved env policy dt st.outside).1, 0 ≤ m.stats.atk := by
    intro m hm
    obtain ⟨v, hv, rfl⟩ := exists_visit (CombatSystem.update env dt)
      (st.world.moved env policy dt st.outside).2 hm
    obtain ⟨m₀, m₁, s₂, hpasses⟩ := MonsterWorld.mem_combatPasses hv
    rw [hpasses.atk]
    exact harmed m₀ hpasses.mem
  have hfight : ∀ n : Int, 0 ≤ n → ∀ s, ∀ m ∈ (st.world.moved env policy dt st.outside).1,
      I s ∧ hp s ≤ n → I (CombatSystem.update env dt s m).2 ∧
        hp (CombatSystem.update env dt s m).2 ≤ n := fun n hn s m hm hs =>
    (h.combatUpdate hs.1 hn hs.2 dt (harmed' m hm)).1
  have hstart : I (st.world.moved env policy dt st.outside).2 ∧
      hp (st.world.moved env policy dt st.outside).2 ≤ Max.max 0 (hp st.outside) :=
    ⟨hmoved.1, by omega⟩
  refine ⟨updateLoop_state (hfight _ (by omega)) hstart, fun v hv hcall => ?_⟩
  have hmeets := visits_state (hfight _ (by omega)) hstart v hv
  have hatk := harmed' v.2 (mem_of_mem_visits hv)
  obtain ⟨⟨hI, -⟩, hhit⟩ := h.combatUpdate hmeets.1 (by omega) hmeets.2 dt hatk
  have hafter := updateLoop_of_visit (hfight _ (by omega)) hv
    (⟨hI, hhit hcall⟩ : _ ∧ _ ≤ Max.max 0 (Max.max 0 (hp st.outside) - v.2.stats.atk))
  have hlow : hp (st.update env policy dt).outside ≤
      Max.max 0 (Max.max 0 (hp st.outside) - v.2.stats.atk) := hafter.2
  omega

/-- A step does not make the player's hp rise. -/
theorem step_hp (h : env.Prey I hp pid px py) {st : WorldState K σ} (hs : I st.outside)
    (harmed : st.world.Armed) {a : WorldAction K σ}
    (ha : st.Allowed (fun s s' => I s → I s' ∧ hp s' ≤ hp s) a) :
    I (st.step env a).outside ∧ hp (st.step env a).outside ≤ Max.max 0 (hp st.outside) := by
  have hstays : I st.outside ∧ hp st.outside ≤ Max.max 0 (hp st.outside) := ⟨hs, by omega⟩
  have hkeeps := h.keeps (hp st.outside)
  have hattack : ∀ mid, I (st.attack env mid).1.outside ∧
      hp (st.attack env mid).1.outside = hp st.outside := by
    intro mid
    have hkept := hkeeps.playerAttackMonster mid st.world.monsters (fun _ _ => trivial) ⟨hs, rfl⟩
    rw [harmless_playerAttackMonster] at hkept
    exact hkept
  cases a with
  | create => exact hstays
  | setRespawnDelay => exact hstays
  | update policy dt => exact (h.update_hp hs harmed policy dt).1
  | attack mid =>
    obtain ⟨hI, hsame⟩ := hattack mid
    exact ⟨hI, by
      show hp (st.attack env mid).1.outside ≤ _
      omega⟩
  | skill mid =>
    have hcast : I (env.broadcastAiState (st.attack env mid).1.outside mid .dead) ∧
        hp (env.broadcastAiState (st.attack env mid).1.outside mid .dead) = hp st.outside :=
      hkeeps.broadcastAiState _ _ _ (hattack mid)
    have hboth : I (st.step env (.skill mid)).outside ∧
        hp (st.step env (.skill mid)).outside = hp st.outside := by
      unfold WorldState.step
      simp only
      split
      · exact hcast
      · exact hattack mid
    exact ⟨hboth.1, by omega⟩
  | outside s =>
    obtain ⟨hI, hle⟩ : I s ∧ hp s ≤ hp st.outside := ha hs
    exact ⟨hI, hle.trans (by omega)⟩

end Prey

end MonsterEnvironment

end

/-! ## The archer's turns -/

section

variable [ExactScalar K] {env : MonsterEnvironment K σ} {I : σ → Prop} {hp : σ → Int} {pid : Nat}
  {px py ux uy dt : K} {m m' : Monster K} {st : WorldState K σ} {a : WorldAction K σ}

/-- A healthy archer that sees the player when it thinks next, which is in
its next tick. -/
structure Monster.Spots (pid : Nat) (px py dt : K) (m : Monster K) : Prop where
  archer : AISystem.isArcher m = true
  alive : 0 < m.stats.hp
  strong : ¬ AISystem.LowHp m
  due : m.ai.thinkCooldown ≤ dt
  target : m.ai.targetId = pid ∨
    m.ai.targetId = 0 ∧ AISystem.distSq m.transform (px, py) < 18 * 18
  near : 0.001 * 0.001 < AISystem.distSq m.transform (px, py)
  far : AISystem.distSq m.transform (px, py) ≤ 25.2 * 25.2

omit [ExactScalar K] in
theorem WorldState.Turn.atk [Scalar K] {st : WorldState K σ} {a : WorldAction K σ}
    (h : st.Turn env I a m m') : m'.stats.atk = m.stats.atk := by
  cases h with
  | tick _ _ _ hm₃ _ => rw [(CombatSystem.update_stats env _ _ _).1, hm₃, passes_atk]
  | rest => rfl

variable [ExactRoots K]

theorem Monster.Spots.exists_faces (h : m.Spots pid px py dt) :
    ∃ ux uy d, ux * ux + uy * uy = 1 ∧ m.Faces px py ux uy d ∧ 0 < d := by
  have hpos : 0 < AISystem.distSq m.transform (px, py) := lt_trans (by norm_num) h.near
  have hroot := ExactRoots.root_mul_self _ hpos.le
  have hroot' : 0 ≤ ExactScalar.root (AISystem.distSq m.transform (px, py)) :=
    ExactRoots.root_nonneg _
  have hsum : (m.transform.x - px) * (m.transform.x - px) +
      (m.transform.y - py) * (m.transform.y - py) = AISystem.distSq m.transform (px, py) := by
    unfold AISystem.distSq
    ring
  generalize ExactScalar.root (AISystem.distSq m.transform (px, py)) = d at *
  have hd : d ≠ 0 := by
    rintro rfl
    rw [zero_mul] at hroot
    exact hpos.ne hroot
  refine ⟨(m.transform.x - px) / d, (m.transform.y - py) / d, d, ?_, ⟨?_, ?_⟩,
    lt_of_le_of_ne hroot' hd.symm⟩
  · rw [← hroot] at hsum
    field_simp
    linear_combination hsum
  · field_simp
    ring
  · field_simp
    ring

/-- **The siege begins** with the first tick. -/
theorem Monster.Spots.tick (h : env.Prey I hp pid px py) {s₂ s₃ : σ} (hs₂ : I s₂) (hs₃ : I s₃)
    (hunit : ux * ux + uy * uy = 1) (hdt : 0 < dt) (hdt' : dt ≤ 1 / 2) {d : K} (hd : 0 < d)
    (hfaces : m.Faces px py ux uy d) (hm : m.Spots pid px py dt) (policy : List K → Fin 5 → K)
    (s₄ : σ) :
    (CombatSystem.update env dt s₄ (MovementSystem.update env dt s₃
      (AISystem.update env policy dt s₂ m).1).1).1.Besieges pid px py ux uy dt := by
  obtain ⟨harcher, halive, hstrong, hdue, htarget, hnear, hfar⟩ := hm
  rw [hfaces.distSq hunit] at htarget hnear hfar
  have hnear' : 0.001 < d := lt_of_mul_self_lt_mul_self₀ hd.le hnear
  have hfar' : d ≤ 25.2 := (mul_self_le_mul_self_iff hd.le (by norm_num)).mpr hfar
  have htarget' : m.ai.targetId = pid ∨ m.ai.targetId = 0 ∧ d < 18 :=
    htarget.imp_right fun ht => ⟨ht.1, lt_of_mul_self_lt_mul_self₀ (by norm_num) ht.2⟩
  obtain ⟨hstill, hplace, hcooldown, hchoice⟩ := AISystem.update_siege h hs₂ harcher halive hstrong
    hfaces hunit hnear' hfar' htarget' (sub_nonpos.mpr hdue) policy
  have hsiege := hchoice.siege (hfaces.congr hplace) hnear' hfar' hcooldown
  obtain ⟨hstill', hsiege', -⟩ := hsiege.move h hs₃ hstill.hunts hstill.known hunit hdt hdt'
  have hbesieges : Monster.Besieges pid px py ux uy dt (MovementSystem.update env dt s₃
      (AISystem.update env policy dt s₂ m).1).1 := ⟨hstill'.hunts, hstill'.known, hsiege'⟩
  obtain ⟨_, _, hcombat⟩ := CombatSystem.update_fst env dt s₄ (MovementSystem.update env dt s₃
    (AISystem.update env policy dt s₂ m).1).1
  rw [hcombat]
  exact hbesieges.congr rfl rfl rfl rfl

/-- The step is a tick with a call of `attack_player` for the player, by a
monster with the given damage. -/
def WorldState.Strikes (env : MonsterEnvironment K σ) (pid : Nat) (atk : Int) (st : WorldState K σ)
    (a : WorldAction K σ) : Prop :=
  ∃ policy dt, a = .update policy dt ∧
    ∃ v ∈ st.world.combatPasses env policy dt st.outside,
      CombatSystem.attackCall env dt v.1 v.2 = some pid ∧ v.2.stats.atk = atk

/-- **A turn of an archer at its siege.** -/
theorem WorldState.Turn.besieges (h : env.Prey I hp pid px py) (hunit : ux * ux + uy * uy = 1)
    (hdt : 0 < dt) (hdt' : dt ≤ 1 / 2) (ha : a.Spares m.id dt) (hturn : st.Turn env I a m m')
    (hm : m.Besieges pid px py ux uy dt) :
    m'.Besieges pid px py ux uy dt ∧ m'.ai.attackCooldown = m.ai.attackCooldown ∧
      (m.ai.state ≠ .attack → m.gain px py ux uy ≤ 17 ∧ (m'.ai.state ≠ .attack →
        m.gain px py ux uy ≤ m'.gain px py ux uy ∧
          ((∃ policy, a = .update policy dt) →
            m.gain px py ux uy + 3.5 * dt ≤ m'.gain px py ux uy))) ∧
      (m.ai.state = .attack → m'.ai.state = .attack ∧ (¬ st.Strikes env pid m.stats.atk a →
        m.ai.attackTimer ≤ m'.ai.attackTimer ∧
          ((∃ policy, a = .update policy dt) → m.ai.attackTimer ≤ m.ai.attackCooldown ∧
            m.ai.attackTimer + dt ≤ m'.ai.attackTimer))) := by
  cases hturn with
  | @tick policy dt' _ m₃ s₁ s₂ s₃ s₄ h₂ h₃ h₄ hm₃ hv =>
    obtain rfl : dt' = dt := ha
    have hatk : m₃.stats.atk = m.stats.atk := by rw [hm₃, passes_atk]
    rw [spawnUpdate_of_alive env dt' s₁ hm.hunts.alive] at hm₃
    subst hm₃
    obtain ⟨hnow, hcooldown, hclosing, hshooting⟩ := hm.tick h h₂ h₃ h₄ hunit hdt hdt' policy
    refine ⟨hnow, hcooldown, fun hnot => ?_, fun hattack => ?_⟩
    · obtain ⟨hbound, hgain⟩ := hclosing hnot
      refine ⟨hbound, fun hnot' => ?_⟩
      have hgain := hgain hnot'
      have hpos : 0 < 3.5 * dt' := mul_pos (by norm_num) hdt
      exact ⟨by linarith, fun _ => hgain⟩
    · obtain ⟨hstate, hcall | ⟨hwait, htimer⟩⟩ := hshooting hattack
      · exact ⟨hstate, fun hnot => absurd ⟨policy, dt', rfl, _, hv, hcall, hatk⟩ hnot⟩
      · exact ⟨hstate, fun _ => ⟨by linarith, fun _ => ⟨by linarith, htimer.ge⟩⟩⟩
  | rest hupdate spawnInfo =>
    have hai : m.ai = { m.ai with
        attackTimer := m.ai.attackTimer, attackCd := m.ai.attackCd } := rfl
    have hnow : Monster.Besieges pid px py ux uy dt { m with spawnInfo } :=
      hm.congr rfl rfl rfl hai
    refine ⟨hnow, rfl, fun hnot => ⟨hm.siege.gain_le hdt' hunit hnot, fun _ => ⟨le_refl _, ?_⟩⟩,
      fun hattack => ⟨hattack, fun _ => ⟨le_refl _, ?_⟩⟩⟩
    · rintro ⟨policy, rfl⟩
      exact absurd rfl (hupdate policy dt)
    · rintro ⟨policy, rfl⟩
      exact absurd rfl (hupdate policy dt)

/-- **A turn before the first tick.** -/
theorem WorldState.Turn.spots (h : env.Prey I hp pid px py) (hunit : ux * ux + uy * uy = 1)
    (hdt : 0 < dt) (hdt' : dt ≤ 1 / 2) (ha : a.Spares m.id dt) (hturn : st.Turn env I a m m')
    (hm : m.Spots pid px py dt) (hfaces : ∃ d, 0 < d ∧ m.Faces px py ux uy d) :
    (m'.Spots pid px py dt ∧ ∃ d, 0 < d ∧ m'.Faces px py ux uy d) ∧
        (¬ ∃ policy, a = .update policy dt) ∨
      m'.Besieges pid px py ux uy dt := by
  obtain ⟨d, hd, hfaces⟩ := hfaces
  cases hturn with
  | @tick policy dt' _ m₃ s₁ s₂ s₃ s₄ h₂ h₃ h₄ hm₃ hv =>
    obtain rfl : dt' = dt := ha
    rw [spawnUpdate_of_alive env dt' s₁ hm.alive] at hm₃
    subst hm₃
    exact .inr (hm.tick h h₂ h₃ hunit hdt hdt' hd hfaces policy s₄)
  | rest hupdate spawnInfo =>
    refine .inl ⟨⟨?_, d, hd, ⟨hfaces.x, hfaces.y⟩⟩, ?_⟩
    · exact ⟨hm.archer, hm.alive, hm.strong, hm.due, hm.target, hm.near, hm.far⟩
    · rintro ⟨policy, rfl⟩
      exact hupdate policy dt rfl

/-! ## The kill -/

section

variable {st : ℕ → WorldState K σ} {act : ℕ → WorldAction K σ} {f : ℕ → Monster K}

/-- **Ticked, the archer begins its siege.** -/
theorem exists_besieges (h : env.Prey I hp pid px py) (hunit : ux * ux + uy * uy = 1) (hdt : 0 < dt)
    (hdt' : dt ≤ 1 / 2) (hfair : ∀ n, ∃ k, n ≤ k ∧ ∃ policy, act k = .update policy dt)
    (hturn : ∀ n, (st n).Turn env I (act n) (f n) (f (n + 1)))
    (hspares : ∀ n, (act n).Spares (f n).id dt) (hspots : (f 0).Spots pid px py dt)
    (hfaces : ∃ d, 0 < d ∧ (f 0).Faces px py ux uy d) :
    ∃ n, (f n).Besieges pid px py ux uy dt := by
  by_contra hnever
  have hnot : ∀ n, ¬ (f n).Besieges pid px py ux uy dt := fun n hn => hnever ⟨n, hn⟩
  have hwaits : ∀ n, (f n).Spots pid px py dt ∧ ∃ d, 0 < d ∧ (f n).Faces px py ux uy d := by
    intro n
    induction n with
    | zero => exact ⟨hspots, hfaces⟩
    | succ n ih =>
      have hnext := (hturn n).spots h hunit hdt hdt' (hspares n) ih.1 ih.2
      exact (hnext.resolve_right (hnot (n + 1))).1
  obtain ⟨k, -, hk⟩ := hfair 0
  have hnext := (hturn k).spots h hunit hdt hdt' (hspares k) (hwaits k).1 (hwaits k).2
  exact (hnext.resolve_right (hnot (k + 1))).2 hk

/-- **From its siege on, the archer strikes again and again.** -/
theorem exists_strikes [Archimedean K] (h : env.Prey I hp pid px py)
    (hunit : ux * ux + uy * uy = 1) (hdt : 0 < dt) (hdt' : dt ≤ 1 / 2)
    (hfair : ∀ n, ∃ k, n ≤ k ∧ ∃ policy, act k = .update policy dt)
    (hturn : ∀ n, (st n).Turn env I (act n) (f n) (f (n + 1)))
    (hspares : ∀ n, (act n).Spares (f n).id dt) {n₁ : ℕ}
    (hn₁ : (f n₁).Besieges pid px py ux uy dt) :
    ∃ n₂, ∀ n, n₂ ≤ n → ∃ k, n ≤ k ∧ (st k).Strikes env pid (f k).stats.atk (act k) := by
  have hsiege : ∀ n, n₁ ≤ n → (f n).Besieges pid px py ux uy dt := by
    intro n hn
    induction n, hn using Nat.le_induction with
    | base => exact hn₁
    | succ n hn ih => exact ((hturn n).besieges h hunit hdt hdt' (hspares n) ih).1
  have hnext := fun n hn => (hturn n).besieges h hunit hdt hdt' (hspares n) (hsiege n hn)
  -- it comes into the right distance, and stays there
  obtain ⟨n₂, hn₂, hshoots⟩ : ∃ n, n₁ ≤ n ∧ (f n).ai.state = .attack := by
    refine exists_of_gain hfair (f := fun n => (f n).gain px py ux uy) (δ := 3.5 * dt) (B := 17)
      (mul_pos (by norm_num) hdt) n₁ ?_ ?_
    · exact fun n hn _ hnot => ((hnext n hn).2.2.1 hnot).1
    · exact fun n hn hnot hnot' => ((hnext n hn).2.2.1 hnot).2 hnot'
  have hshooting : ∀ n, n₂ ≤ n → (f n).ai.state = .attack := by
    intro n hn
    induction n, hn using Nat.le_induction with
    | base => exact hshoots
    | succ n hn ih => exact ((hnext n (by omega)).2.2.2 ih).1
  have hcount := fun n hn => ((hnext n (by omega)).2.2.2 (hshooting n hn)).2
  have hcooldown : ∀ n, n₁ ≤ n → (f n).ai.attackCooldown = (f n₁).ai.attackCooldown := by
    intro n hn
    induction n, hn using Nat.le_induction with
    | base => rfl
    | succ n hn ih => exact (hnext n hn).2.1.trans ih
  -- there its time counts
  refine ⟨n₂, fun n hn => ?_⟩
  refine exists_of_gain hfair (f := fun n => (f n).ai.attackTimer)
    (B := (f n₁).ai.attackCooldown) hdt n (fun k hk hnow hnot => ?_) fun k hk hnot _ => ?_
  · rw [← hcooldown k (by omega)]
    exact ((hcount k (by omega) hnot).2 hnow).1
  · obtain ⟨hle, hgain⟩ := hcount k (by omega) hnot
    exact ⟨hle, fun hnow => (hgain hnow).2⟩

end

/-- **An archer kills who stands still in its sight.** Between 0.001 and
25.2 from a player that does not move, with the player as its target, or
with none and the player in sight, a healthy archer that thinks in its
next tick and that nobody attacks brings the hp of the player down to 0,
where they stay: in every behavior in which the monsters are ticked again
and again, at a step of at most half a second, whatever else is done to
the world between the ticks. -/
theorem archer_kills [Archimedean K] (env : MonsterEnvironment K σ) (I : σ → Prop) (hp : σ → Int)
    (pid : Nat) (px py dt : K) (h : env.Prey I hp pid px py) (hdt : 0 < dt) (hdt' : dt ≤ 1 / 2)
    {st : ℕ → WorldState K σ} {act : ℕ → WorldAction K σ}
    (b : Behavior (worldSystem env fun s s' => I s → I s' ∧ hp s' ≤ hp s) st act)
    (hfair : ∀ n, ∃ k, n ≤ k ∧ ∃ policy, act k = .update policy dt) (hI : I (st 0).outside)
    (hids : (st 0).ids.Nodup) (harmed : (st 0).world.Armed) {m : Monster K}
    (hm : m ∈ (st 0).world.monsters) (hspots : m.Spots pid px py dt) (hatk : 0 < m.stats.atk)
    (hspares : ∀ n, (act n).Spares m.id dt) :
    ∃ N, ∀ n, N ≤ n → I (st n).outside ∧ hp (st n).outside ≤ 0 := by
  obtain ⟨ux, uy, d, hunit, hfaces, hd⟩ := hspots.exists_faces
  have hall : ∀ n, I (st n).outside ∧ (st n).ids.Nodup ∧ (st n).world.Armed := by
    intro n
    induction n with
    | zero => exact ⟨hI, hids, harmed⟩
    | succ n ih =>
      obtain ⟨hI, hids, harmed⟩ := ih
      obtain ⟨hallowed, hstep⟩ := b.step n
      rw [hstep]
      exact ⟨(h.step_hp hI harmed hallowed).1, WorldState.step_ids_nodup hids hallowed,
        WorldState.step_armed hids (hspares n) harmed⟩
  -- the archer, turn by turn
  obtain ⟨f, hf₀, hf⟩ := exists_follow (P := fun n x => x ∈ (st n).world.monsters ∧ x.id = m.id)
    (R := fun n x y => (st n).Turn env I (act n) x y) ⟨hm, rfl⟩ fun n x hx => by
      obtain ⟨y, hy, hid, hturn⟩ := WorldState.exists_turn h.keepsPlace (hall n).1 hx.1
        (hx.2 ▸ hspares n)
      rw [← (b.step n).2] at hy
      exact ⟨y, ⟨hy, hid.trans hx.2⟩, hturn⟩
  have hturn : ∀ n, (st n).Turn env I (act n) (f n) (f (n + 1)) := fun n => (hf n).2
  have hspares' : ∀ n, (act n).Spares (f n).id dt := fun n => (hf n).1.2 ▸ hspares n
  have hatk' : ∀ n, (f n).stats.atk = m.stats.atk := by
    intro n
    induction n with
    | zero => rw [hf₀]
    | succ n ih => rw [(hturn n).atk, ih]
  obtain ⟨n₁, hn₁⟩ := exists_besieges h hunit hdt hdt' hfair hturn hspares' (hf₀ ▸ hspots)
    ⟨d, hd, hf₀ ▸ hfaces⟩
  obtain ⟨n₂, hstrikes⟩ := exists_strikes h hunit hdt hdt' hfair hturn hspares' hn₁
  -- every strike takes off hp, as long as there are any
  have hend : ∃ N, ∀ n, N ≤ n → Max.max 0 (hp (st n).outside) ≤ 0 := by
    refine eventually_nonpos n₂ (fun n _ => ?_) fun n hn => ?_
    · obtain ⟨hI, -, harmed⟩ := hall n
      obtain ⟨hallowed, hstep⟩ := b.step n
      have hle := (h.step_hp hI harmed hallowed).2
      rw [← hstep] at hle
      omega
    · obtain ⟨k, hk, policy, dt', hact, v, hv, hcall, hv'⟩ := hstrikes n hn
      obtain ⟨hI, -, harmed⟩ := hall k
      have hlow := (h.update_hp hI harmed policy dt').2 v hv hcall
      have hstep : st (k + 1) = (st k).update env policy dt' := by
        rw [(b.step k).2, hact]
        rfl
      rw [← hstep, hv', hatk'] at hlow
      exact ⟨k, hk, fun hpos => by omega⟩
  obtain ⟨N, hN⟩ := hend
  exact ⟨N, fun n hn => ⟨(hall n).1, (le_max_right _ _).trans (hN n hn)⟩⟩

end

end MmorpgServer.Field
