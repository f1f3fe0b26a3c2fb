/-
MmorpgServer.Field.MonsterCorpseTheorems — what a hit on a dead monster
does.

`player_attack_monster` does not ask whether the monster is alive. A hit
on a corpse is reported as another death, marks the corpse and starts its
wait for the respawn anew (`hit_corpse`), which a schedule of ticks shows
(`corpse_waits_anew`). `corpse_hits_change_nothing_iff` compares a schedule
with the same schedule without the hits.
-/
import MmorpgServer.Field.MonsterCombatTheorems

namespace MmorpgServer.Field

open MmorpgServer.Lib Scalar

variable {K σ : Type} [Scalar K]

/-! ## Schedules -/

/-- A call of `player_attack_monster` on the monster. -/
def WorldAction.hits (mid : Nat) : WorldAction K σ → Bool
  | .attack target => target == mid
  | _ => false

namespace WorldState

/-- The actions of a schedule, the first one first. -/
def steps (env : MonsterEnvironment K σ) (st : WorldState K σ) (as : List (WorldAction K σ)) :
    WorldState K σ :=
  as.foldl (fun st a => st.step env a) st

/-- The components of the monster. -/
def monster? (st : WorldState K σ) (mid : Nat) : Option (Monster K) :=
  st.world.monsters.find? fun m => m.id = mid

/-- The monster is dead and waits for a respawn that will come. -/
def Corpse (st : WorldState K σ) (mid : Nat) : Prop :=
  ∃ m, st.monster? mid = some m ∧ m.Awaits

/-- Compared with the schedule without the hits, the schedule changes no
component of the monster at any time, its hp included, and none of the
hits reports a death. -/
def HitsChangeNothing (env : MonsterEnvironment K σ) (st : WorldState K σ) (mid : Nat)
    (as : List (WorldAction K σ)) : Prop :=
  ∀ before after, as = before ++ after →
    (st.steps env before).monster? mid =
        (st.steps env (before.filter fun a => !a.hits mid)).monster? mid ∧
      ∀ a rest, after = a :: rest → a.hits mid = true →
        ((st.steps env before).attack env mid).2 = false

end WorldState

/-! ## Hits -/

/-- **A hit on a corpse** is one more death, and starts the wait anew. -/
theorem hit_corpse {m : Monster K} (h : ¬ 0 < m.stats.hp) :
    MonsterWorld.hit m = ({ m with
      stats := { m.stats with hp := 0, dirty := true }
      ai := { m.ai with state := .dead }
      spawnInfo := { m.spawnInfo with
        deadTimer := lit 0, pendingRespawn := true, respawnTimer := lit 0 } }, true) := by
  unfold MonsterWorld.hit
  simp only
  rw [if_pos (by omega)]
  rfl

/-- `player_attack_monster` hits the monster the id finds, which leaves the
index when it dies. -/
theorem MonsterWorld.playerAttackMonster_found (env : MonsterEnvironment K σ) {mid : Nat}
    {ms : List (Monster K)} (s : σ) {m : Monster K}
    (h : ms.find? (fun m => m.id = mid) = some m) :
    (playerAttackMonster env mid ms s).1.find? (fun m => m.id = mid) = some (hit m).1 ∧
      (playerAttackMonster env mid ms s).2 =
        (if (hit m).2 then env.removeFromAoi s mid else s, (hit m).2) := by
  induction ms with
  | nil => cases h
  | cons m₀ ms ih =>
    unfold playerAttackMonster
    by_cases hid : m₀.id = mid
    · rw [List.find?_cons_of_pos (by simpa using hid)] at h
      obtain rfl := Option.some.inj h
      rw [if_neg (not_not_intro hid)]
      refine ⟨List.find?_cons_of_pos (by simpa [hit_id] using hid), ?_⟩
      simp only [hid]
    · rw [List.find?_cons_of_neg (by simpa using hid)] at h
      rw [if_pos hid]
      simp only
      rw [List.find?_cons_of_neg (by simpa using hid)]
      exact ih h

namespace WorldState

/-- An attack hits the monster the id finds. -/
theorem attack_monster (env : MonsterEnvironment K σ) {st : WorldState K σ} {mid : Nat}
    {m : Monster K} (h : st.monster? mid = some m) :
    (st.attack env mid).1.monster? mid = some (MonsterWorld.hit m).1 ∧
      (st.attack env mid).2 = (MonsterWorld.hit m).2 := by
  obtain ⟨hfind, hsnd⟩ := MonsterWorld.playerAttackMonster_found env st.outside h
  exact ⟨hfind, congrArg Prod.snd hsnd⟩

variable {env : MonsterEnvironment K σ} {st : WorldState K σ} {mid : Nat}

theorem Corpse.attack (h : st.Corpse mid) (env : MonsterEnvironment K σ) :
    (st.attack env mid).2 = true ∧ ∃ m, (st.attack env mid).1.monster? mid = some m ∧ m.Awaits ∧
      m.spawnInfo.respawnTimer = lit 0 ∧ m.stats.dirty = true := by
  obtain ⟨m, hm, hawaits⟩ := h
  obtain ⟨hmonster, hdead⟩ := attack_monster env hm
  rw [hit_corpse hawaits.hp] at hmonster hdead
  exact ⟨hdead, _, hmonster, ⟨by simp, rfl, hawaits.delay⟩, rfl, rfl⟩

omit [Scalar K] in
theorem hits_iff {mid : Nat} {a : WorldAction K σ} : a.hits mid = true ↔ a = .attack mid := by
  cases a <;> simp [WorldAction.hits]

/-- After `SpawnSystem` the other systems leave hp and spawn data alone. -/
theorem update_monster (env : MonsterEnvironment K σ) (policy : List K → Fin 5 → K) (dt : K)
    {m : Monster K} (h : st.monster? mid = some m) :
    ∃ s₁ m', (st.update env policy dt).monster? mid = some m' ∧
      m'.stats.hp = (spawnUpdate env dt s₁ m).1.stats.hp ∧
      m'.spawnInfo = (spawnUpdate env dt s₁ m).1.spawnInfo := by
  obtain ⟨s₁, h₁⟩ := find_updateLoop (f := spawnUpdate env dt) (p := fun m => m.id = mid)
    (fun s a => by rw [spawnUpdate_id]) st.outside h
  obtain ⟨s₂, h₂⟩ := find_updateLoop (f := AISystem.update env policy dt)
    (p := fun m => m.id = mid) (fun s a => by rw [AISystem.update_id])
    (MonsterWorld.spawned env dt st.world st.outside).2 h₁
  obtain ⟨s₃, h₃⟩ := find_updateLoop (f := MovementSystem.update env dt)
    (p := fun m => m.id = mid) (fun s a => by rw [MovementSystem.update_id])
    (MonsterWorld.decided env policy dt st.world st.outside).2 h₂
  obtain ⟨s₄, h₄⟩ := find_updateLoop (f := CombatSystem.update env dt)
    (p := fun m => m.id = mid) (fun s a => by rw [CombatSystem.update_id])
    (MonsterWorld.moved env policy dt st.world st.outside).2 h₃
  obtain ⟨_, _, hcombat⟩ := CombatSystem.update_fst env dt s₄
    (MovementSystem.update env dt s₃
      (AISystem.update env policy dt s₂ (spawnUpdate env dt s₁ m).1).1).1
  have hmove : ∀ m : Monster K, (MovementSystem.update env dt s₃ m).1.stats = m.stats ∧
      (MovementSystem.update env dt s₃ m).1.spawnInfo = m.spawnInfo := by
    intro m
    obtain ⟨-, he⟩ | ⟨-, he⟩ | ⟨-, _, _, _, -, he⟩ := MovementSystem.update_cases env dt s₃ m <;>
      rw [he] <;> exact ⟨rfl, rfl⟩
  have hmoved := hmove (AISystem.update env policy dt s₂ (spawnUpdate env dt s₁ m).1).1
  refine ⟨s₁, _, h₄, ?_, ?_⟩
  · rw [hcombat]
    simp only
    rw [hmoved.1]
    rfl
  · rw [hcombat]
    exact hmoved.2

/-- A tick that the delay outlasts is counted. -/
theorem corpse_tick (env : MonsterEnvironment K σ) (policy : List K → Fin 5 → K) {dt : K}
    {m : Monster K} (h : st.monster? mid = some m) (hawaits : m.Awaits)
    (htimer : m.spawnInfo.respawnTimer + dt < m.spawnInfo.respawnDelay) :
    ∃ m', (st.update env policy dt).monster? mid = some m' ∧ m'.Awaits ∧
      m'.spawnInfo.respawnTimer = m.spawnInfo.respawnTimer + dt ∧
      m'.spawnInfo.respawnDelay = m.spawnInfo.respawnDelay := by
  obtain ⟨s₁, m', hm', hhp, hspawn⟩ := update_monster env policy dt h
  obtain ⟨hn, -⟩ | ⟨-, -, he⟩ | ⟨-, hn, -⟩ := spawnUpdate_cases env dt s₁ m
  · exact absurd hawaits hn
  · rw [he] at hhp hspawn
    refine ⟨m', hm', ⟨?_, ?_, ?_⟩, ?_, ?_⟩
    · rw [hhp]
      exact hawaits.hp
    · rw [hspawn]
      exact hawaits.pending
    · rw [hspawn]
      exact hawaits.delay
    · rw [hspawn]
    · rw [hspawn]
  · exact absurd htimer hn

/-- The tick that ends the delay brings the monster back. -/
theorem corpse_respawns (env : MonsterEnvironment K σ) (policy : List K → Fin 5 → K) {dt : K}
    {m : Monster K} (h : st.monster? mid = some m) (hawaits : m.Awaits)
    (htimer : ¬ m.spawnInfo.respawnTimer + dt < m.spawnInfo.respawnDelay) :
    ∃ m', (st.update env policy dt).monster? mid = some m' ∧ m'.stats.hp = m.stats.maxHp ∧
      m'.spawnInfo.pendingRespawn = false := by
  obtain ⟨s₁, m', hm', hhp, hspawn⟩ := update_monster env policy dt h
  obtain ⟨hn, -⟩ | ⟨-, hn, -⟩ | ⟨-, -, he⟩ := spawnUpdate_cases env dt s₁ m
  · exact absurd hawaits hn
  · exact absurd hn htimer
  · rw [he] at hhp hspawn
    exact ⟨m', hm', hhp, by rw [hspawn]; rfl⟩

/-- **A hit puts the respawn off**: however long the corpse has waited,
after a hit it stays dead through any ticks that together take less time
than the delay. -/
theorem corpse_waits_anew (env : MonsterEnvironment K σ) {m : Monster K}
    (h : st.monster? mid = some m) (hawaits : m.Awaits)
    (ticks : List ((List K → Fin 5 → K) × K))
    (hticks : ∀ before after, ticks = before ++ after → before ≠ [] →
      (before.map Prod.snd).foldl (· + ·) (lit 0) < m.spawnInfo.respawnDelay) :
    (((st.attack env mid).1).steps env (ticks.map fun t => .update t.1 t.2)).Corpse mid := by
  have key : ∀ (ticks : List ((List K → Fin 5 → K) × K)) (st : WorldState K σ) (m' : Monster K),
      st.monster? mid = some m' → m'.Awaits →
      (∀ before after, ticks = before ++ after → before ≠ [] →
        (before.map Prod.snd).foldl (· + ·) m'.spawnInfo.respawnTimer <
          m'.spawnInfo.respawnDelay) →
      (st.steps env (ticks.map fun t => .update t.1 t.2)).Corpse mid := by
    intro ticks
    induction ticks with
    | nil => exact fun st m' hm' hawaits' _ => ⟨m', hm', hawaits'⟩
    | cons t ticks ih =>
      intro st m' hm' hawaits' hwait
      have hfirst := hwait [t] ticks rfl (List.cons_ne_nil _ _)
      obtain ⟨m'', hm'', hawaits'', htimer, hdelay⟩ := corpse_tick env t.1 hm' hawaits' hfirst
      refine ih (st.update env t.1 t.2) m'' hm'' hawaits'' fun before after hsplit _ => ?_
      have hrest := hwait (t :: before) after (by rw [hsplit]; rfl) (List.cons_ne_nil _ _)
      rw [htimer, hdelay]
      exact hrest
  obtain ⟨hmonster, -⟩ := attack_monster env h
  rw [hit_corpse hawaits.hp] at hmonster
  exact key ticks _ _ hmonster ⟨by simp, rfl, hawaits.delay⟩ hticks

/-- **Hits on a corpse change nothing only where there are none.** -/
theorem corpse_hits_change_nothing_iff (env : MonsterEnvironment K σ) (st : WorldState K σ)
    (mid : Nat) (as : List (WorldAction K σ))
    (hcorpse : ∀ before rest, as = before ++ .attack mid :: rest →
      (st.steps env before).Corpse mid) :
    st.HitsChangeNothing env mid as ↔ ∀ a ∈ as, a.hits mid = false := by
  constructor
  · intro h a ha
    by_contra hhits
    rw [Bool.not_eq_false, hits_iff] at hhits
    obtain ⟨before, rest, rfl⟩ := List.append_of_mem ha
    obtain rfl := hhits
    have hfalse := (h before _ rfl).2 _ _ rfl (hits_iff.mpr rfl)
    obtain ⟨htrue, -⟩ := (hcorpse before rest rfl).attack env
    rw [htrue] at hfalse
    cases hfalse
  · intro h before after hsplit
    rw [hsplit] at h
    have hfilter : before.filter (fun a => !a.hits mid) = before :=
      List.filter_eq_self.mpr fun a ha => by rw [h a (List.mem_append_left _ ha)]; rfl
    refine ⟨by rw [hfilter], fun a rest hafter hhits => ?_⟩
    have ha := h a (by rw [hafter]; simp)
    rw [ha] at hhits
    cases hhits

end WorldState

/-- An archer that died and will be back after half a second. -/
def deadArcher : WorldState ℚ (Option (ℚ × ℚ)) :=
  let st : WorldState ℚ (Option (ℚ × ℚ)) := { outside := none }
  let st := st.step onePlayer (.create 1000 0 0 "BowAndArrow1" 1 200 10 100 100 7 3)
  let st := st.step onePlayer (.setRespawnDelay 1000 (1 / 2))
  st.step onePlayer (.attack 1000)

/-- Between two ticks a hit on the corpse. -/
def hitBetween : List (WorldAction ℚ (Option (ℚ × ℚ))) :=
  [.update (fun _ _ => 0) (3 / 10), .attack 1000, .update (fun _ _ => 0) (3 / 10)]

theorem hitBetween_corpse : ∀ before rest, hitBetween = before ++ .attack 1000 :: rest →
    (deadArcher.steps onePlayer before).Corpse 1000 := by
  intro before rest hsplit
  have hbefore : before = [.update (fun _ _ => 0) (3 / 10)] := by
    rcases before with _ | ⟨a, _ | ⟨b, _ | ⟨c, before⟩⟩⟩ <;> simp [hitBetween] at hsplit
    rw [hsplit.1]
  obtain ⟨m, hm, hdead, hpending, hdelay⟩ :
      ∃ m ∈ (deadArcher.steps onePlayer [.update (fun _ _ => 0) (3 / 10)]).monster? 1000,
        ¬ 0 < m.stats.hp ∧ m.spawnInfo.pendingRespawn = true ∧
          ¬ m.spawnInfo.respawnDelay ≤ lit 0 := by
    decide +kernel
  rw [hbefore]
  exact ⟨m, hm, hdead, hpending, hdelay⟩

theorem corpse_hits_change_nothing_iff_archer :
    deadArcher.HitsChangeNothing onePlayer 1000 hitBetween ↔
      ∀ a ∈ hitBetween, a.hits 1000 = false :=
  WorldState.corpse_hits_change_nothing_iff onePlayer deadArcher 1000 hitBetween hitBetween_corpse

/-- **The hit** is reported as a death, and without it the archer would be
back. -/
theorem corpse_hits_change_nothing_fails :
    (∀ before rest, hitBetween = before ++ .attack 1000 :: rest →
      (deadArcher.steps onePlayer before).Corpse 1000 ∧
        ((deadArcher.steps onePlayer before).attack onePlayer 1000).2 = true) ∧
      ((deadArcher.steps onePlayer hitBetween).monster? 1000).map (·.stats.hp) = some 0 ∧
      ((deadArcher.steps onePlayer (hitBetween.filter fun a => !a.hits 1000)).monster? 1000).map
        (·.stats.hp) = some 200 ∧
      ¬ deadArcher.HitsChangeNothing onePlayer 1000 hitBetween := by
  have hdead : ((deadArcher.steps onePlayer hitBetween).monster? 1000).map (·.stats.hp) =
      some 0 := by decide +kernel
  have hback : ((deadArcher.steps onePlayer (hitBetween.filter fun a => !a.hits 1000)).monster?
      1000).map (·.stats.hp) = some 200 := by decide +kernel
  refine ⟨fun before rest hsplit => ?_, hdead, hback, fun h => ?_⟩
  · have hcorpse := hitBetween_corpse before rest hsplit
    exact ⟨hcorpse, (hcorpse.attack onePlayer).1⟩
  · obtain ⟨hsame, -⟩ := h hitBetween [] rfl
    rw [hsame, hback] at hdead
    cases hdead

end MmorpgServer.Field
