/-
MmorpgServer.Field.MonsterClosedTheorems — monsters go where arithmetic
takes them, and nowhere else.

For any set `P` of scalars that arithmetic does not leave: monsters that
stand, move and spawn at numbers in `P` keep doing so while the players
they see are at numbers in `P`. Every direction a monster takes is divided
by a length, and each of these divisions is guarded.

What is needed of the environment is `Confined`.
-/
import MmorpgServer.Field.MonsterTheorems
import MmorpgServer.Lib.ClosedScalars

namespace MmorpgServer.Field

open MmorpgServer.Lib Scalar

variable {K σ : Type} [Scalar K] {P : K → Prop}

/-- A monster's course is in `P`. -/
structure CAI.In (P : K → Prop) (ai : CAI K) : Prop where
  moveDirX : P ai.moveDirX
  moveDirY : P ai.moveDirY
  moveSpeed : P ai.moveSpeed

/-- A monster stands, moves and spawns in `P`. -/
structure Monster.In (P : K → Prop) (m : Monster K) : Prop where
  x : P m.transform.x
  y : P m.transform.y
  spawnX : P m.spawnInfo.spawnX
  spawnY : P m.spawnInfo.spawnY
  ai : m.ai.In P

/-- Players and entities are in `P`, as far as `I` says so: the callbacks
find players in `P`, and keep `I` when they are given numbers in `P`. -/
structure MonsterEnvironment.Confined (env : MonsterEnvironment K σ) (P : K → Prop)
    (I : σ → Prop) : Prop extends env.Quiet I where
  getPlayerPosition : ∀ s pid pos, I s → env.getPlayerPosition s pid = some pos →
    P pos.1 ∧ P pos.2
  moveInAoi : ∀ s mid x y, P x → P y → I s → I (env.moveInAoi s mid x y)
  spawnInAoi : ∀ s mid x y, P x → P y → I s → I (env.spawnInAoi s mid x y)
  removeFromAoi : ∀ s mid, I s → I (env.removeFromAoi s mid)

section

variable (hP : Closed P)

include hP

/-! ## Directions -/

/-- A direction is kept only if it is long enough to be divided by its
length. -/
theorem setMonsterMove_in (ai : CAI K) {dx dy speed : K} (hx : P dx) (hy : P dy)
    (hspeed : P speed) : (setMonsterMove ai dx dy speed).In P := by
  unfold setMonsterMove
  simp only
  split
  · exact ⟨hP.lit 0, hP.lit 0, hP.lit 0⟩
  · rename_i hlen
    rw [not_or] at hlen
    have hinv := hP.invRoot _ 0.0001 (hP.sq_add_sq hx hy) (by norm_num) (.inr hlen.1)
    exact ⟨hP.mul _ _ hx hinv, hP.mul _ _ hy hinv, hspeed⟩

theorem stopMove_in (ai : CAI K) : (stopMove ai).In P :=
  setMonsterMove_in hP _ (hP.lit 0) (hP.lit 0) (hP.lit 0)

theorem patrolSpeed_in : P (patrolSpeed : K) := hP.mul _ _ (hP.lit 5) (hP.lit 0.5)

theorem chaseSpeed_in (isArcher : Bool) : P (chaseSpeed isArcher : K) :=
  hP.mul _ _ (hP.lit 5) (hP.lit 1.1)

theorem fleeSpeed_in (isArcher : Bool) : P (fleeSpeed isArcher : K) :=
  hP.mul _ _ (hP.lit 5) (hP.lit 0.7)

namespace AISystem

theorem distSq_in {tr : CTransform K} {pos : K × K} (hx : P tr.x) (hy : P tr.y)
    (hpos : P pos.1 ∧ P pos.2) : P (distSq tr pos) :=
  hP.sq_add_sq (hP.sub _ _ hpos.1 hx) (hP.sub _ _ hpos.2 hy)

/-- The direction away from the target, if that is not too close. -/
theorem awayFrom_in {tr : CTransform K} {pos : K × K} (hx : P tr.x) (hy : P tr.y)
    (hpos : P pos.1 ∧ P pos.2) (hfar : lit 0.000001 < distSq tr pos) :
    P (awayFrom tr pos).1 ∧ P (awayFrom tr pos).2 := by
  have hinv := hP.invRoot _ 0.000001 (distSq_in hP hx hy hpos) (by norm_num) (.inl hfar)
  exact ⟨hP.mul _ _ (hP.neg _ (hP.sub _ _ hpos.1 hx)) hinv,
    hP.mul _ _ (hP.neg _ (hP.sub _ _ hpos.2 hy)) hinv⟩

theorem frandRange_in (rng : UInt32) {a b : K} (ha : P a) (hb : P b) :
    P (frandRange rng a b).1 :=
  hP.add _ _ ha (hP.mul _ _ (hP.sub _ _ hb ha) (hP.divLit _ _ (hP.lit _) (by norm_num)))

theorem randomDir_in (rng : UInt32) :
    P (randomDir (K := K) rng).1.1 ∧ P (randomDir (K := K) rng).1.2 :=
  ⟨hP.cos _ (frandRange_in hP _ (hP.lit _) (hP.lit _)),
    hP.sin _ (frandRange_in hP _ (hP.lit _) (hP.lit _))⟩

/-! ## Thinking -/

theorem sync_in (env : MonsterEnvironment K σ) (s : σ) {m : Monster K} (h : m.ai.In P) :
    (sync env s m).1.In P := by
  unfold sync
  simp only
  split
  · exact h
  split
  · have hstop := stopMove_in hP m.ai
    exact ⟨hstop.moveDirX, hstop.moveDirY, hstop.moveSpeed⟩
  · have hmove := setMonsterMove_in hP m.ai h.moveDirX h.moveDirY (patrolSpeed_in hP)
    exact ⟨hmove.moveDirX, hmove.moveDirY, hmove.moveSpeed⟩

omit [Scalar K] hP in
theorem selectTarget_in {env : MonsterEnvironment K σ} {I : σ → Prop} (henv : env.Confined P I)
    {s : σ} (hs : I s) (tr : CTransform K) (sightRange : K) {ai : CAI K} (h : ai.In P) :
    (selectTarget env s tr sightRange ai).1.In P ∧
      ∀ pos, (selectTarget env s tr sightRange ai).2 = some pos → P pos.1 ∧ P pos.2 := by
  unfold selectTarget
  split
  · rename_i pos hknown
    refine ⟨h, fun pos' hpos' => ?_⟩
    split at hknown
    · exact henv.getPlayerPosition s _ _ hs (hknown.trans hpos')
    · cases hknown
  · simp only
    split
    · exact ⟨⟨h.moveDirX, h.moveDirY, h.moveSpeed⟩, by simp⟩
    · split
      · rename_i pos hfound
        refine ⟨⟨h.moveDirX, h.moveDirY, h.moveSpeed⟩, fun pos' hpos' => ?_⟩
        exact henv.getPlayerPosition s _ _ hs (hfound.trans hpos')
      · exact ⟨⟨h.moveDirX, h.moveDirY, h.moveSpeed⟩, by simp⟩

theorem disengage_in (ai : CAI K) : (disengage ai).In P := by
  have hstop := stopMove_in hP { ai with targetId := 0, state := .idle }
  exact ⟨hstop.moveDirX, hstop.moveDirY, hstop.moveSpeed⟩

/-- The way out: away from the target if it is not too close. -/
theorem wayOut_in {tr : CTransform K} {pos : K × K} (hx : P tr.x) (hy : P tr.y)
    (hpos : P pos.1 ∧ P pos.2) {ai : CAI K} (h : ai.In P) :
    P (if lit 0.000001 < distSq tr pos then awayFrom tr pos else (ai.moveDirX, ai.moveDirY)).1 ∧
      P (if lit 0.000001 < distSq tr pos then awayFrom tr pos
        else (ai.moveDirX, ai.moveDirY)).2 := by
  split
  · rename_i hfar
    exact awayFrom_in hP hx hy hpos hfar
  · exact ⟨h.moveDirX, h.moveDirY⟩

theorem flee_in (isArcher : Bool) {tr : CTransform K} (hx : P tr.x) (hy : P tr.y)
    {pos : Option (K × K)} (hpos : ∀ p, pos = some p → P p.1 ∧ P p.2) {ai : CAI K}
    (h : ai.In P) : (flee isArcher tr pos ai).In P := by
  refine iteInduction (motive := fun ai' : CAI K => ai'.In P) (fun _ => ?_) fun _ => ?_
  · have hstop := stopMove_in hP (K := K)
    exact ⟨(hstop _).moveDirX, (hstop _).moveDirY, (hstop _).moveSpeed⟩
  · cases pos with
    | some p =>
      have hdir := wayOut_in hP hx hy (hpos p rfl) h
      exact setMonsterMove_in hP _ hdir.1 hdir.2 (fleeSpeed_in hP isArcher)
    | none =>
      have hdir : ∀ c : Prop, [Decidable c] →
          P (if c then randomDir ai.rng else ((ai.moveDirX, ai.moveDirY), ai.rng)).1.1 ∧
          P (if c then randomDir ai.rng else ((ai.moveDirX, ai.moveDirY), ai.rng)).1.2 := by
        intro c _
        split
        · exact randomDir_in hP ai.rng
        · exact ⟨h.moveDirX, h.moveDirY⟩
      exact setMonsterMove_in hP _ (hdir _).1 (hdir _).2 (fleeSpeed_in hP isArcher)

theorem wander_in {ai : CAI K} (h : ai.In P) : (wander ai).In P := by
  unfold wander
  split
  · simp only
    split
    · have hdir := randomDir_in hP (frandRange (K := K) (frand01 (K := K) ai.rng).2
        (lit 1.5) (lit 3.5)).2
      exact setMonsterMove_in hP _ hdir.1 hdir.2 (patrolSpeed_in hP)
    · exact stopMove_in hP _
  · simp only
    split
    · exact stopMove_in hP _
    · exact setMonsterMove_in hP _ h.moveDirX h.moveDirY h.moveSpeed

theorem archer_in {tr : CTransform K} (hx : P tr.x) (hy : P tr.y) {pos : K × K}
    (hpos : P pos.1 ∧ P pos.2) {ai : CAI K} (h : ai.In P) : (archer tr pos ai).In P := by
  unfold archer
  simp only
  split
  · have hdir := wayOut_in hP hx hy hpos h
    exact setMonsterMove_in hP _ hdir.1 hdir.2 (fleeSpeed_in hP true)
  split
  · exact stopMove_in hP _
  · exact setMonsterMove_in hP _ h.moveDirX h.moveDirY (chaseSpeed_in hP true)

theorem melee_in (policy : List K → Fin 5 → K) {tr : CTransform K} (hx : P tr.x) (hy : P tr.y)
    (stats : CStats) {pos : K × K} (hpos : P pos.1 ∧ P pos.2) (oldState : AiState) {ai : CAI K}
    (h : ai.In P) : (melee policy tr stats pos oldState ai).In P := by
  unfold melee
  simp only
  split
  · exact stopMove_in hP _
  · exact setMonsterMove_in hP _ h.moveDirX h.moveDirY (chaseSpeed_in hP false)
  · have hdir := wayOut_in hP hx hy hpos h
    exact setMonsterMove_in hP _ hdir.1 hdir.2 (fleeSpeed_in hP false)
  · exact stopMove_in hP _
  · exact ⟨h.moveDirX, h.moveDirY, h.moveSpeed⟩

theorem think_in {env : MonsterEnvironment K σ} {I : σ → Prop} (henv : env.Confined P I)
    (policy : List K → Fin 5 → K) {s : σ} (hs : I s) {m : Monster K} (hx : P m.transform.x)
    (hy : P m.transform.y) (oldState : AiState) {ai : CAI K} (h : ai.In P) :
    (think env policy s m oldState ai).In P := by
  obtain ⟨hsel, hpos⟩ := selectTarget_in henv hs m.transform
    (if isArcher m then lit 18 else lit 11) h
  unfold think
  simp only
  generalize selectTarget env s m.transform (if isArcher m then lit 18 else lit 11) ai = sel at *
  refine iteInduction (motive := fun ai' : CAI K => ai'.In P) (fun _ => disengage_in hP _) fun _ => ?_
  refine iteInduction (motive := fun ai' : CAI K => ai'.In P)
    (fun _ => flee_in hP _ hx hy hpos hsel) fun _ => ?_
  refine iteInduction (motive := fun ai' : CAI K => ai'.In P) (fun _ => wander_in hP hsel) fun _ => ?_
  cases hknown : sel.2 with
  | none => exact stopMove_in hP _
  | some pos =>
    refine iteInduction (motive := fun ai' : CAI K => ai'.In P) (fun _ => ?_) fun _ => ?_
    · exact archer_in hP hx hy (hpos pos hknown) hsel
    · exact melee_in hP policy hx hy m.stats (hpos pos hknown) oldState hsel

theorem decideAi_in {env : MonsterEnvironment K σ} {I : σ → Prop} (henv : env.Confined P I)
    (policy : List K → Fin 5 → K) (dt : K) {s : σ} (hs : I s) {m : Monster K}
    (hx : P m.transform.x) (hy : P m.transform.y) (oldState : AiState) {ai : CAI K}
    (h : ai.In P) : (decideAi env policy dt s m oldState ai).In P := by
  unfold decideAi
  split
  · exact stopMove_in hP _
  · simp only
    split
    · exact ⟨h.moveDirX, h.moveDirY, h.moveSpeed⟩
    · exact think_in hP henv policy hs hx hy oldState ⟨h.moveDirX, h.moveDirY, h.moveSpeed⟩

end AISystem

/-! ## The four systems -/

variable {env : MonsterEnvironment K σ} {I : σ → Prop} (henv : env.Confined P I)

include henv

omit hP in
theorem spawnUpdate_in (dt : K) {s : σ} (hs : I s) {m : Monster K} (h : m.In P) :
    I (spawnUpdate env dt s m).2 ∧ (spawnUpdate env dt s m).1.In P := by
  obtain ⟨-, he⟩ | ⟨-, -, he⟩ | ⟨-, -, he⟩ := spawnUpdate_cases env dt s m <;> rw [he]
  · exact ⟨hs, h⟩
  · exact ⟨hs, h.x, h.y, h.spawnX, h.spawnY, h.ai⟩
  · refine ⟨henv.spawnInAoi _ _ _ _ h.spawnX h.spawnY hs, ?_⟩
    exact ⟨h.spawnX, h.spawnY, h.spawnX, h.spawnY, h.ai.moveDirX, h.ai.moveDirY, h.ai.moveSpeed⟩

theorem aiUpdate_in (policy : List K → Fin 5 → K) (dt : K) {s : σ} (hs : I s) {m : Monster K}
    (h : m.In P) :
    I (AISystem.update env policy dt s m).2 ∧ (AISystem.update env policy dt s m).1.In P := by
  refine ⟨henv.toQuiet.aiUpdate policy dt s m hs, ?_⟩
  have hai : ({ m.ai with attackCd := max (lit 0) (m.ai.attackCd - dt) } : CAI K).In P :=
    ⟨h.ai.moveDirX, h.ai.moveDirY, h.ai.moveSpeed⟩
  have hsynced := AISystem.sync_in hP env s
    (m := { m with ai := { m.ai with attackCd := max (lit 0) (m.ai.attackCd - dt) } }) hai
  refine ⟨h.x, h.y, h.spawnX, h.spawnY, ?_⟩
  refine AISystem.decideAi_in hP henv policy dt ?_ h.x h.y m.ai.state hsynced
  have hquiet := henv.toQuiet.sync s
    { m with ai := { m.ai with attackCd := max (lit 0) (m.ai.attackCd - dt) } } hs
  exact iteInduction (motive := I)
    (fun _ => henv.broadcastMonsterStat _ _ _ _ _ _ hquiet) fun _ => hquiet

/-- The course of this step: towards the target or straight on. -/
theorem course_in {s : σ} (hs : I s) {m : Monster K} (h : m.In P) {dirX dirY speed : K}
    (hcourse : MovementSystem.course env s m = some (dirX, dirY, speed)) :
    P dirX ∧ P dirY ∧ P speed := by
  -- patrol and return go straight on
  have hstraight : (if m.ai.moveDirX * m.ai.moveDirX + m.ai.moveDirY * m.ai.moveDirY < lit 0.000001 ∨
      m.ai.moveSpeed ≤ lit 0 then none else some (m.ai.moveDirX, m.ai.moveDirY, m.ai.moveSpeed)) =
        some (dirX, dirY, speed) → P dirX ∧ P dirY ∧ P speed := by
    intro heq
    split at heq
    · cases heq
    · cases heq
      exact ⟨h.ai.moveDirX, h.ai.moveDirY, h.ai.moveSpeed⟩
  unfold MovementSystem.course at hcourse
  split at hcourse
  · split at hcourse
    · cases hcourse
    · rename_i px py hknown
      have hpos : P px ∧ P py := by
        split at hknown
        · cases hknown
        · exact henv.getPlayerPosition s _ _ hs hknown
      simp only at hcourse
      split at hcourse
      · cases hcourse
      · rename_i hlen
        cases hcourse
        have hdx := hP.sub _ _ hpos.1 h.x
        have hdy := hP.sub _ _ hpos.2 h.y
        have hinv := hP.invRoot _ 0.000001 (hP.sq_add_sq hdx hdy) (by norm_num) (.inr hlen)
        refine ⟨hP.mul _ _ hdx hinv, hP.mul _ _ hdy hinv, ?_⟩
        exact iteInduction (motive := P) (fun _ => hP.lit 6) fun _ => h.ai.moveSpeed
  · exact hstraight hcourse
  · exact hstraight hcourse
  · cases hcourse

theorem movementUpdate_in {dt : K} (hdt : P dt) {s : σ} (hs : I s) {m : Monster K}
    (h : m.In P) :
    I (MovementSystem.update env dt s m).2 ∧ (MovementSystem.update env dt s m).1.In P := by
  obtain ⟨-, he⟩ | ⟨-, he⟩ | ⟨-, dirX, dirY, speed, hcourse, he⟩ :=
    MovementSystem.update_cases env dt s m <;> rw [he]
  · exact ⟨hs, h⟩
  · exact ⟨hs, h.x, h.y, h.spawnX, h.spawnY, stopMove_in hP _⟩
  · obtain ⟨hdirX, hdirY, hspeed⟩ := course_in hP henv hs h hcourse
    have hx := hP.along h.x hdirX hspeed hdt
    have hy := hP.along h.y hdirY hspeed hdt
    refine ⟨henv.moveInAoi _ _ _ _ hx hy hs, hx, hy, h.spawnX, h.spawnY, ?_⟩
    exact setMonsterMove_in hP _ hdirX hdirY hspeed

omit hP in
theorem combatUpdate_in (dt : K) {s : σ} (hs : I s) {m : Monster K} (h : m.In P) :
    I (CombatSystem.update env dt s m).2 ∧ (CombatSystem.update env dt s m).1.In P := by
  obtain ⟨_, _, he⟩ := CombatSystem.update_fst env dt s m
  refine ⟨henv.toQuiet.combatUpdate dt s m hs, ?_⟩
  rw [he]
  exact ⟨h.x, h.y, h.spawnX, h.spawnY, h.ai.moveDirX, h.ai.moveDirY, h.ai.moveSpeed⟩

/-- **A tick of the monsters** leaves them and the entities in `P`. -/
theorem MonsterWorld.update_in (policy : List K → Fin 5 → K) {dt : K} (hdt : P dt)
    {w : MonsterWorld K} (hw : ∀ m ∈ w.monsters, m.In P) {s : σ} (hs : I s) :
    I (w.update env policy dt s).2 ∧ ∀ m ∈ (w.update env policy dt s).1.monsters, m.In P := by
  have h₁ := updateLoop_both (f := spawnUpdate env dt) (I := I) (Q := fun m => m.In P)
    (fun _ _ hs hm => spawnUpdate_in henv dt hs hm) hs hw
  have h₂ := updateLoop_both (f := AISystem.update env policy dt) (I := I) (Q := fun m => m.In P)
    (fun _ _ hs hm => aiUpdate_in hP henv policy dt hs hm) h₁.1 h₁.2
  have h₃ := updateLoop_both (f := MovementSystem.update env dt) (I := I) (Q := fun m => m.In P)
    (fun _ _ hs hm => movementUpdate_in hP henv hdt hs hm) h₂.1 h₂.2
  exact updateLoop_both (f := CombatSystem.update env dt) (I := I) (Q := fun m => m.In P)
    (fun _ _ hs hm => combatUpdate_in henv dt hs hm) h₃.1 h₃.2

omit hP in
theorem MonsterWorld.playerAttackMonster_in (mid : Nat) {ms : List (Monster K)}
    (hms : ∀ m ∈ ms, m.In P) {s : σ} (hs : I s) :
    I (playerAttackMonster env mid ms s).2.1 ∧
      ∀ m ∈ (playerAttackMonster env mid ms s).1, m.In P := by
  induction ms with
  | nil => exact ⟨hs, hms⟩
  | cons m ms ih =>
    rw [List.forall_mem_cons] at hms
    obtain ⟨hm, hms⟩ := hms
    unfold playerAttackMonster
    split
    · obtain ⟨hstate, hrest⟩ := ih hms
      exact ⟨hstate, List.forall_mem_cons.mpr ⟨hm, hrest⟩⟩
    · have hhit : (hit m).1.In P := by
        unfold hit
        simp only
        split
        · exact ⟨hm.x, hm.y, hm.spawnX, hm.spawnY, hm.ai.moveDirX, hm.ai.moveDirY, hm.ai.moveSpeed⟩
        · exact ⟨hm.x, hm.y, hm.spawnX, hm.spawnY, hm.ai⟩
      refine ⟨?_, List.forall_mem_cons.mpr ⟨hhit, hms⟩⟩
      exact iteInduction (motive := I) (fun _ => henv.removeFromAoi _ _ hs) fun _ => hs

end

end MmorpgServer.Field
