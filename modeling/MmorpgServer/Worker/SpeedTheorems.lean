/-
MmorpgServer.Worker.SpeedTheorems — how far a player gets in a given time.

A tick takes a player `PlayerStep * 4.5` along a unit direction and takes
`PlayerStep` out of the accumulator. So what a player has moved is bounded
by the frame time that has come in and the accumulator that was there
before (`Near`), whatever the inputs.

After five ticks a frame ends and the rest of the accumulator stays: a
long frame is paid out later, five ticks a frame, however short these
frames are (`speed_stall`). Only after a frame that ran out of frame time
is the distance bounded by the frames that follow and one `PlayerStep`.
-/
import MmorpgServer.Lib.ExactScalar
import MmorpgServer.Lib.Plane
import MmorpgServer.Lib.Spacing
import MmorpgServer.Worker.MonsterLifeTheorems
import MmorpgServer.Worker.MotionTheorems

namespace MmorpgServer.Worker

open MmorpgServer.Lib MmorpgServer.Field

/-! ## Distances and times -/

section

open Scalar

variable {K : Type} [Scalar K]

/-- The distance of two points. -/
def Vec2.dist (p q : Vec2 K) : K :=
  sqrt ((q.x - p.x) * (q.x - p.x) + (q.y - p.y) * (q.y - p.y))

/-- The frame time an action brings. -/
def FieldAction.seconds : FieldAction K → K
  | .updateWorld _ dt => if dt ≤ lit 0 then lit 0 else dt
  | _ => lit 0

end

variable {K : Type} [ExactScalar K]

/-- The frame time of a history. -/
def frameTime {σ : Type} (l : List (σ × FieldAction K)) : K := elapsed (fun e => e.2.seconds) l

/-- A player that moves does so in a unit direction, at the speed a move
input gives it. -/
def PlayerMoveState.Steady (mv : PlayerMoveState K) : Prop :=
  mv.moving = true → mv.dir.x * mv.dir.x + mv.dir.y * mv.dir.y = 1 ∧ mv.speed = 4.5

/-- A `Player` object is made standing, and only inputs and ticks change
how it moves: it comes into a field steady. -/
def FieldAction.Steady : FieldAction K → Prop
  | .addPlayer _ p => p.moveState.Steady
  | _ => True

/-! ## Steadiness -/

theorem Motion.steady_tick {m : Motion K} (h : m.moveState.Steady) (worldTime step : K) :
    (m.tick worldTime step).moveState.Steady := by
  unfold Motion.tick
  split
  · simp [Motion.halt, PlayerMoveState.Steady]
  split
  · exact h
  · exact h

/-- A direction is made a unit vector, or stops the player. -/
theorem Motion.steady_input [ExactRoots K] {m : Motion K} (h : m.moveState.Steady)
    (worldTime : K) (d : Vec2 K) : (m.input worldTime d).moveState.Steady := by
  unfold Motion.input
  simp only
  split
  · split
    · simp [Motion.halt, PlayerMoveState.Steady]
    · exact h
  · rename_i hlen
    intro _
    have hpos : 0 < d.x * d.x + d.y * d.y := by
      refine lt_of_lt_of_le ?_ (not_lt.mp hlen)
      rw [ExactScalar.lit_eq]
      norm_num
    constructor
    · simpa using ExactScalar.unit_of_root hpos
    · norm_num

/-- Every player of the field is steady, and the accumulator is not
negative. -/
structure Motions.Steady (ms : Motions K) : Prop where
  moveState : ∀ pid ∈ ms.players, (ms.motion pid).moveState.Steady
  playerAcc : 0 ≤ ms.playerAcc

namespace Motions

variable {ms : Motions K}

theorem Steady.tick (h : ms.Steady) (step : K) :
    ∀ pid ∈ ms.players, ((ms.tick step).motion pid).moveState.Steady := by
  intro pid hpid
  show (if pid ∈ ms.players then _ else _ : Motion K).moveState.Steady
  rw [if_pos hpid]
  exact Motion.steady_tick (h.moveState pid hpid) _ _

theorem Steady.playerLoop (h : ms.Steady) (loops : Nat) : (ms.playerLoop loops).Steady := by
  induction loops generalizing ms with
  | zero => exact h
  | succ loops ih =>
    unfold Motions.playerLoop
    split
    · rename_i hacc
      exact ih ⟨h.tick playerStep, sub_nonneg.mpr hacc⟩
    · exact h

theorem Steady.frame (h : ms.Steady) (dt : K) : (ms.frame dt).Steady := by
  unfold Motions.frame
  split
  · exact h
  · rename_i hdt
    rw [ExactScalar.lit_zero, not_le] at hdt
    have hready : Motions.Steady
        { ms with worldTime := ms.worldTime + dt, playerAcc := ms.playerAcc + dt } :=
      ⟨h.moveState, add_nonneg h.playerAcc hdt.le⟩
    exact hready.playerLoop 5

theorem Steady.setMotion (h : ms.Steady) {pid : EntityId} {m : Motion K}
    (hm : m.moveState.Steady) : ∀ i ∈ insert pid ms.players,
      ((ms.setMotion pid m).motion i).moveState.Steady := by
  intro i hi
  by_cases hip : i = pid
  · subst hip
    simpa [Motions.setMotion] using hm
  · simpa [Motions.setMotion, hip] using h.moveState i (Finset.mem_of_mem_insert_of_ne hi hip)

theorem Steady.step [ExactRoots K] (h : ms.Steady) {a : FieldAction K} (ha : a.Steady) :
    (ms.step a).Steady := by
  cases a with
  | addPlayer pid p => exact ⟨h.setMotion ha, h.playerAcc⟩
  | removePlayer pid => exact ⟨fun i hi => h.moveState i (Finset.mem_of_mem_erase hi), h.playerAcc⟩
  | moveInput session entityId dir =>
    unfold Motions.step accepted
    simp only
    split
    · exact h
    · rename_i d hd
      have hin : entityId ∈ ms.players := by
        by_contra hout
        simp [hout] at hd
      have hm := Motion.steady_input (h.moveState entityId hin) ms.worldTime d
      exact ⟨fun i hi => h.setMotion hm i (Finset.mem_insert_of_mem hi), h.playerAcc⟩
  | updateWorld policy dt => exact h.frame dt
  | skill session targetId => exact h
  | setSession pid online => exact h
  | setRegistered pid registered => exact h

end Motions

theorem motionSystem_steady [ExactRoots K] {l : List (Motions K × FieldAction K)} {ms : Motions K}
    (r : Run motionSystem l ms) (hl : ∀ e ∈ l, e.2.Steady) : ms.Steady := by
  refine r.invariant_of_steps (P := fun _ a => a.Steady) ?_ ?_ hl
  · rintro ms ⟨hplayers, -, hacc⟩
    exact ⟨by simp [hplayers], by simp [hacc]⟩
  · rintro ms a ms' h ha rfl
    exact h.step ha

/-! ## Distance -/

/-- A player is no further from `start` than it gets in a time `t`. -/
def Motion.Near (m : Motion K) (start : Vec2 K) (t : K) : Prop :=
  Reach (4.5 * t) (m.pos.x - start.x) (m.pos.y - start.y)

theorem Motion.Near.mono {m : Motion K} {start : Vec2 K} {t t' : K} (h : m.Near start t)
    (ht : t ≤ t') : m.Near start t' :=
  Reach.mono h (by linarith)

/-- A tick takes a player as far as its speed does in the time it is for. -/
theorem Motion.Near.tick {m : Motion K} {start : Vec2 K} {t step : K} (h : m.Near start t)
    (hm : m.moveState.Steady) (hstep : 0 ≤ step) (worldTime : K) :
    (m.tick worldTime step).Near start (t + step) := by
  have hrest : m.Near start (t + step) := h.mono (by linarith)
  unfold Motion.tick
  split
  · exact hrest
  split
  · rename_i hmoving
    obtain ⟨hunit, hspeed⟩ := hm hmoving
    have hlen : 0 ≤ 4.5 * step := by positivity
    have hpass := Reach.add h (Reach.along hunit hlen)
    have hx : (m.advance step).pos.x - start.x =
        m.pos.x - start.x + m.moveState.dir.x * (4.5 * step) := by
      rw [Motion.advance, hspeed]
      ring
    have hy : (m.advance step).pos.y - start.y =
        m.pos.y - start.y + m.moveState.dir.y * (4.5 * step) := by
      rw [Motion.advance, hspeed]
      ring
    rw [Motion.Near, hx, hy, mul_add]
    exact hpass
  · exact hrest

namespace Motions

variable {ms : Motions K} {pid : EntityId} {start : Vec2 K} {t : K}

/-- What the player has moved is paid for: by a time that has passed, less
what is still in the accumulator. -/
def Paid (ms : Motions K) (pid : EntityId) (start : Vec2 K) (t : K) : Prop :=
  (ms.motion pid).Near start (t - ms.playerAcc)

theorem Paid.playerLoop (h : ms.Paid pid start t) (hs : ms.Steady) (loops : Nat) :
    (ms.playerLoop loops).Paid pid start t := by
  induction loops generalizing ms with
  | zero => exact h
  | succ loops ih =>
    unfold Motions.playerLoop
    split
    · rename_i hacc
      have hstep : (0 : K) ≤ playerStep := by
        rw [playerStep, ExactScalar.lit_eq]
        norm_num
      refine ih ?_ ⟨hs.tick playerStep, sub_nonneg.mpr hacc⟩
      have htime : t - (ms.playerAcc - playerStep) = t - ms.playerAcc + playerStep := by ring
      show ((ms.tick playerStep).motion pid).Near start (t - (ms.playerAcc - playerStep))
      rw [htime]
      refine iteInduction (motive := fun m : Motion K => m.Near start _) (fun hpid => ?_)
        fun _ => h.mono (by linarith)
      exact Motion.Near.tick h (hs.moveState pid hpid) hstep ms.worldTime
    · exact h

theorem Paid.frame (h : ms.Paid pid start t) (hs : ms.Steady) (policy : List K → Fin 5 → K)
    (dt : K) : (ms.frame dt).Paid pid start (t + (FieldAction.updateWorld policy dt).seconds) := by
  unfold Motions.frame FieldAction.seconds
  simp only
  split
  · rw [ExactScalar.lit_zero, add_zero]
    exact h
  · rename_i hdt
    rw [ExactScalar.lit_zero, not_le] at hdt
    have hready : Motions.Steady
        { ms with worldTime := ms.worldTime + dt, playerAcc := ms.playerAcc + dt } :=
      ⟨hs.moveState, add_nonneg hs.playerAcc hdt.le⟩
    have hpaid : Motions.Paid { ms with
        worldTime := ms.worldTime + dt, playerAcc := ms.playerAcc + dt } pid start (t + dt) := by
      show (ms.motion pid).Near start (t + dt - (ms.playerAcc + dt))
      rw [add_sub_add_right_eq_sub]
      exact h
    exact hpaid.playerLoop hready 5

/-- Inputs turn a player, they do not move it. -/
theorem input_pos (m : Motion K) (worldTime : K) (d : Vec2 K) :
    (m.input worldTime d).pos = m.pos := by
  unfold Motion.input
  simp only
  split
  · split <;> rfl
  · rfl

theorem Paid.step (h : ms.Paid pid start t) (hs : ms.Steady) {a : FieldAction K}
    (ha : ∀ p, a ≠ .addPlayer pid p) : (ms.step a).Paid pid start (t + a.seconds) := by
  cases a with
  | updateWorld policy dt => exact h.frame hs policy dt
  | addPlayer i p =>
    have hi : pid ≠ i := fun he => ha p (by rw [he])
    simpa [Paid, Motions.step, setMotion, hi, FieldAction.seconds] using h
  | moveInput session entityId dir =>
    have hsame : ∀ d, Motion.Near (Function.update ms.motion entityId
        ((ms.motion entityId).input ms.worldTime d) pid) start (t - ms.playerAcc) := by
      intro d
      by_cases hi : pid = entityId
      · subst hi
        rw [Function.update_self, Motion.Near, input_pos]
        exact h
      · rw [Function.update_of_ne hi]
        exact h
    unfold Motions.step
    simp only [FieldAction.seconds, ExactScalar.lit_zero, add_zero]
    split
    · exact h
    · exact hsame _
  | removePlayer i => simpa [Paid, Motions.step, FieldAction.seconds] using h
  | skill session targetId => simpa [Motions.step, FieldAction.seconds] using h
  | setSession i online => simpa [Motions.step, FieldAction.seconds] using h
  | setRegistered i registered => simpa [Motions.step, FieldAction.seconds] using h

end Motions

/-- What a player has moved in a window of a run is paid for by the frame
time of the window and the accumulator before it. -/
theorem motionSystem_paid [ExactRoots K] {l₂ l₁ : List (Motions K × FieldAction K)}
    {ms ms' : Motions K} {a : FieldAction K} (r : Run motionSystem (l₂ ++ (ms, a) :: l₁) ms')
    (hl : ∀ e ∈ l₂ ++ (ms, a) :: l₁, e.2.Steady) {pid : EntityId}
    (hstay : ∀ e ∈ l₂, ∀ p, e.2 ≠ .addPlayer pid p) :
    ms'.Paid pid ((ms.step a).motion pid).pos (frameTime l₂ + (ms.step a).playerAcc) := by
  induction l₂ generalizing ms' with
  | nil =>
    cases r with
    | step r h =>
      obtain rfl : ms' = ms.step a := h
      simpa [Motions.Paid, Motion.Near, frameTime] using Reach.zero
  | cons e l₂ ih =>
    cases r with
    | step r h =>
      rename_i ms₁ a₁
      obtain rfl : ms' = ms₁.step a₁ := h
      have hl' := (List.forall_mem_cons.mp hl).2
      obtain ⟨hstay₁, hstay⟩ := List.forall_mem_cons.mp hstay
      have hnext := (ih r hl' hstay).step (motionSystem_steady r hl') hstay₁
      rw [frameTime, elapsed_cons, add_assoc, add_comm]
      exact hnext

/-- **Speed bound.** Between the end of one frame and the end of a later
one, whatever the inputs and the lengths of the frames: a player moves no
further than its speed takes it in the frame time that has come in and the
frame time the first frame left in the accumulator. If that is less than
a `PlayerStep`, the distance is at most `4.5 * (dt + ... + PlayerStep)`. -/
theorem speed_bound [ExactRoots K] (cfg : FieldConfig K) (redisRtWriter : Bool)
    (policy : List K → Fin 5 → K) (dt : K) (fw fw' : FieldWorker K)
    (l₂ l₁ : List (FieldWorker K × FieldAction K))
    (r : Run (fieldSystem cfg redisRtWriter) (l₂ ++ (fw, .updateWorld policy dt) :: l₁) fw')
    (hl : ∀ e ∈ l₂ ++ (fw, .updateWorld policy dt) :: l₁, e.2.Steady) (pid : EntityId)
    (hstay : ∀ e ∈ l₂, ∀ p, e.2 ≠ .addPlayer pid p) :
    ((fw.updateWorld cfg policy dt).player pid).pos.dist (fw'.player pid).pos ≤
      4.5 * (frameTime l₂ + (fw.updateWorld cfg policy dt).playerAcc) ∧
    ((fw.updateWorld cfg policy dt).playerAcc < playerStep →
      ((fw.updateWorld cfg policy dt).player pid).pos.dist (fw'.player pid).pos ≤
        4.5 * (frameTime l₂ + playerStep)) := by
  have rm := fieldSystem_motions r
  have hsteady : ∀ e ∈ (l₂ ++ (fw, FieldAction.updateWorld policy dt) :: l₁).map
      fun e => (e.1.motions, e.2), e.2.Steady := List.forall_mem_map.mpr hl
  have hstay' : ∀ e ∈ l₂.map fun e => (e.1.motions, e.2), ∀ p, e.2 ≠ .addPlayer pid p :=
    List.forall_mem_map.mpr hstay
  rw [List.map_append, List.map_cons] at rm hsteady
  have hpaid := motionSystem_paid rm hsteady hstay'
  rw [← FieldWorker.step_motions cfg fw (.updateWorld policy dt)] at hpaid
  have hacc : 0 ≤ fw'.playerAcc := (motionSystem_steady rm hsteady).playerAcc
  have htime : frameTime (l₂.map fun e => (e.1.motions, e.2)) = frameTime l₂ := by
    simp [frameTime, elapsed, Function.comp_def]
  rw [htime] at hpaid
  have hnear : Reach (4.5 * (frameTime l₂ + (fw.updateWorld cfg policy dt).playerAcc))
      ((fw'.player pid).pos.x - ((fw.updateWorld cfg policy dt).player pid).pos.x)
      ((fw'.player pid).pos.y - ((fw.updateWorld cfg policy dt).player pid).pos.y) :=
    Motion.Near.mono hpaid (sub_le_self _ hacc)
  have hdist := ExactScalar.root_le
    (add_nonneg (mul_self_nonneg _) (mul_self_nonneg _)) hnear.nonneg hnear.sq_le
  refine ⟨hdist, fun hleft => hdist.trans ?_⟩
  linarith

/-! ## A stall is paid out later -/

/-- While there is frame time, every pass of a frame moves a player that
is heard of. -/
theorem Motions.playerLoop_moves {ms : Motions K} {pid : EntityId} (hpid : pid ∈ ms.players)
    (hmoving : (ms.motion pid).moveState.moving = true)
    (hheard : ms.worldTime - (ms.motion pid).moveState.lastInputTime ≤ 0.5) {loops : Nat}
    (hacc : loops * playerStep ≤ ms.playerAcc) :
    ((ms.playerLoop loops).motion pid).pos =
      ⟨(ms.motion pid).pos.x +
          loops * ((ms.motion pid).moveState.dir.x * (ms.motion pid).moveState.speed * playerStep),
        (ms.motion pid).pos.y +
          loops *
            ((ms.motion pid).moveState.dir.y * (ms.motion pid).moveState.speed * playerStep)⟩ := by
  induction loops generalizing ms with
  | zero => simp [playerLoop]
  | succ loops ih =>
    push_cast at hacc
    have hstep : (0 : K) ≤ playerStep := by
      rw [playerStep, ExactScalar.lit_eq]
      norm_num
    have hone : playerStep ≤ ms.playerAcc := by
      have := mul_nonneg (Nat.cast_nonneg (α := K) loops) hstep
      linarith
    have hpass : ms.pass.motion pid = (ms.motion pid).advance playerStep := by
      show (if pid ∈ ms.players then _ else _ : Motion K) = _
      have hlate :
          ¬ (Scalar.lit 0.5 : K) < ms.worldTime - (ms.motion pid).moveState.lastInputTime := by
        rw [ExactScalar.lit_eq, not_lt]
        norm_num at hheard ⊢
        exact hheard
      simp only [hpid, if_true, Motion.tick, hmoving, hlate, and_false, if_false]
    have hrest := @ih ms.pass hpid (by rw [hpass]; exact hmoving) (by rw [hpass]; exact hheard)
      (by simp only [pass]; linarith)
    unfold playerLoop
    rw [if_pos hone, hrest, hpass]
    simp only [Motion.advance, Vec2.mk.injEq]
    push_cast
    constructor <;> ring

/-- A player as the game worker puts it into a field. -/
def walker : Player ℝ where
  pos := ⟨0, 0⟩
  moveState := { dir := ⟨0, 0⟩, moving := false, speed := 5, lastInputTime := 0 }
  stat := {}
  lastDirtyMarkTime := 0

noncomputable def realConfig : FieldConfig ℝ where
  floor := Int.floor
  aoiOrder := sortedConfig.aoiOrder
  playerOrder := sortedConfig.playerOrder

/-- The walker enters, and the next frame comes ten seconds late. -/
noncomputable def entered : FieldWorker ℝ :=
  (FieldWorker.construct realConfig (fun _ => walker) false []).addPlayer realConfig 1 walker

noncomputable def stalled : FieldWorker ℝ := entered.updateWorld realConfig (fun _ _ => 0) 10

/-- Now the client sends a direction, and one short frame follows. -/
noncomputable def turned : FieldWorker ℝ := stalled.onClientMoveInput (some 1) 1 (some ⟨1, 0⟩)

noncomputable def burst : FieldWorker ℝ :=
  turned.updateWorld realConfig (fun _ _ => 0) (1 / 20)

noncomputable def historyOfBurst : List (FieldWorker ℝ × FieldAction ℝ) :=
  [(turned, .updateWorld (fun _ _ => 0) (1 / 20)), (stalled, .moveInput (some 1) 1 (some ⟨1, 0⟩)),
    (entered, .updateWorld (fun _ _ => 0) 10),
    (FieldWorker.construct realConfig (fun _ => walker) false [], .addPlayer 1 walker)]

theorem run_burst : Run (fieldSystem realConfig false) historyOfBurst burst := by
  have r₀ : Run (fieldSystem realConfig false) []
      (FieldWorker.construct realConfig (fun _ => walker) false []) :=
    .start ⟨_, [], List.nodup_nil, rfl⟩
  exact (((r₀.next (.addPlayer 1 walker) ⟨List.not_mem_nil, rfl⟩).next
    (.updateWorld _ 10) ⟨trivial, rfl⟩).next (.moveInput _ 1 _) ⟨trivial, rfl⟩).next
    (.updateWorld _ (1 / 20)) ⟨trivial, rfl⟩

theorem motions_entered : entered.motions =
    { players := {1}, motion := fun _ => walker.motion, worldTime := 0, playerAcc := 0 } := by
  unfold entered
  rw [FieldWorker.motions_addPlayer, FieldWorker.motions_construct]
  simp [Motions.setMotion, FieldWorker.construct]

theorem motions_stalled : stalled.motions =
    { players := {1}, motion := fun _ => walker.motion, worldTime := 10, playerAcc := 9.75 } := by
  unfold stalled
  rw [FieldWorker.motions_updateWorld, motions_entered]
  norm_num [Motions.frame, Motions.playerLoop, Motions.pass, Motions.tick, Motion.tick, walker,
    playerStep]

theorem motions_turned : turned.motions = stalled.motions.setMotion 1
    ⟨⟨0, 0⟩, { dir := ⟨1, 0⟩, moving := true, speed := 4.5, lastInputTime := 10 }⟩ := by
  unfold turned
  rw [FieldWorker.motions_onClientMoveInput, motions_stalled]
  norm_num [Motions.step, Motions.accepted, Motions.setMotion, Motion.input, walker,
    Player.motion, ExactScalar.root]

/-- Five ticks, in a frame of the length of one. -/
theorem burst_pos : (burst.player 1).pos = ⟨1.125, 0⟩ := by
  have hframe : burst.motions = turned.motions.frame (1 / 20) :=
    FieldWorker.motions_updateWorld realConfig _ (1 / 20) turned
  show (burst.motions.motion 1).pos = _
  rw [hframe, motions_turned, motions_stalled, Motions.frame, if_neg (by norm_num),
    Motions.playerLoop_moves] <;> norm_num [Motions.setMotion, playerStep]

theorem stalled_pos : (stalled.player 1).pos = ⟨0, 0⟩ := by
  show (stalled.motions.motion 1).pos = _
  rw [motions_stalled]
  rfl

theorem dist_burst : (stalled.player 1).pos.dist (burst.player 1).pos = 1.125 := by
  rw [stalled_pos, burst_pos]
  show Real.sqrt _ = _
  rw [Real.sqrt_eq_iff_mul_self_eq (add_nonneg (mul_self_nonneg _) (mul_self_nonneg _))
    (by norm_num)]
  norm_num

theorem frameTime_burst : frameTime [(turned, FieldAction.updateWorld (fun _ _ => 0) (1 / 20)),
    (stalled, .moveInput (some 1) 1 (some ⟨1, 0⟩))] = (1 / 20 : ℝ) := by
  norm_num [frameTime, elapsed, FieldAction.seconds]

/-- After the stall the walker moves 1.125 in a frame of a twentieth of a
second: more than `4.5 * (dt + PlayerStep)`. -/
theorem speed_stall : ¬ ∀ (cfg : FieldConfig ℝ) (redisRtWriter : Bool)
    (policy : List ℝ → Fin 5 → ℝ) (dt : ℝ) (fw fw' : FieldWorker ℝ)
    (l₂ l₁ : List (FieldWorker ℝ × FieldAction ℝ)),
    Run (fieldSystem cfg redisRtWriter) (l₂ ++ (fw, .updateWorld policy dt) :: l₁) fw' →
    (∀ e ∈ l₂ ++ (fw, .updateWorld policy dt) :: l₁, e.2.Steady ∧
      ∀ policy dt, e.2 = .updateWorld policy dt → 0 < dt) →
    ∀ pid, (∀ e ∈ l₂, ∀ p, e.2 ≠ .addPlayer pid p) →
      ((fw.updateWorld cfg policy dt).player pid).pos.dist (fw'.player pid).pos ≤
        4.5 * (frameTime l₂ + playerStep) := by
  intro h
  have hburst := h realConfig false (fun _ _ => 0) 10 entered burst
    [(turned, .updateWorld (fun _ _ => 0) (1 / 20)),
      (stalled, .moveInput (some 1) 1 (some ⟨1, 0⟩))]
    [(FieldWorker.construct realConfig (fun _ => walker) false [], .addPlayer 1 walker)]
    run_burst ?_ 1 (by simp)
  · change (stalled.player 1).pos.dist (burst.player 1).pos ≤ _ at hburst
    rw [frameTime_burst, dist_burst] at hburst
    norm_num [playerStep] at hburst
  · simp [FieldAction.Steady, PlayerMoveState.Steady, walker]

/-- The same run within the bound: ten seconds are in the accumulator. -/
theorem speed_bound_burst :
    (stalled.player 1).pos.dist (burst.player 1).pos ≤ 4.5 * (1 / 20 + 9.75) := by
  have h := (speed_bound realConfig false (fun _ _ => 0) 10 entered burst
    [(turned, .updateWorld (fun _ _ => 0) (1 / 20)),
      (stalled, .moveInput (some 1) 1 (some ⟨1, 0⟩))]
    [(FieldWorker.construct realConfig (fun _ => walker) false [], .addPlayer 1 walker)]
    run_burst (by simp [FieldAction.Steady, PlayerMoveState.Steady, walker]) 1 (by simp)).1
  have hacc : stalled.playerAcc = 9.75 := congrArg Motions.playerAcc motions_stalled
  rw [frameTime_burst] at h
  rw [← hacc]
  exact h

end MmorpgServer.Worker
