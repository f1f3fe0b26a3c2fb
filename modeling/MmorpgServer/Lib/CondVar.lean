/-
MmorpgServer.Lib.CondVar — one thread that waits on a condition variable
until a flag is set, and one that sets the flag and notifies.

The waiter tests its predicate with the mutex held and, if it is false,
releases the mutex and blocks: between the test and the block it is
`falling`. A notification reaches a thread that is blocked and no other.
The flag may be stored without the mutex, so the store and the
notification may both come while the waiter is falling: that notification
is lost. `not_waiting` says that it is the only one that can be, and
`not_waiting_of_passed` that none is lost by a setter that takes the mutex
once between the store and the notification.
-/
import MmorpgServer.Lib.TransitionSystem

namespace MmorpgServer.Lib

/-- Where the waiting thread is. -/
inductive Waiter where
  /-- not in the wait -/
  | away
  /-- the predicate was false; the mutex is still held -/
  | falling
  /-- blocked, without the mutex -/
  | asleep
  deriving DecidableEq, Repr

/-- How far the thread is that sets the flag. -/
inductive Setter where
  | before
  | stored
  /-- it has held the mutex since the store -/
  | passed
  | notified
  deriving DecidableEq, Repr

/-- A condition variable with its two threads. -/
@[ext] structure CondVar where
  waiter : Waiter := .away
  setter : Setter := .before
  deriving DecidableEq, Repr

inductive CondVarAction where
  | fall
  | sleep
  | wake
  | store
  | pass
  | notifyAll
  | rearm
  deriving DecidableEq, Repr

namespace CondVar

/-- What a notification does to the waiter. -/
def wakeUp (c : CondVar) : CondVar :=
  if c.waiter = .asleep then { c with waiter := .away } else c

/-- The steps. With the flag set the predicate is true. A blocked thread
may wake at any time. The flag is taken back only while nobody waits. -/
inductive Step (c : CondVar) : CondVarAction → CondVar → Prop
  | fall (h : c.waiter = .away) (hflag : c.setter = .before) :
    Step c .fall { c with waiter := .falling }
  | sleep (h : c.waiter = .falling) : Step c .sleep { c with waiter := .asleep }
  | wake (h : c.waiter = .asleep) : Step c .wake { c with waiter := .away }
  | store (h : c.setter = .before) : Step c .store { c with setter := .stored }
  | pass (h : c.setter = .stored) (hfree : c.waiter ≠ .falling) :
    Step c .pass { c with setter := .passed }
  | notifyAll (h : c.setter = .stored ∨ c.setter = .passed) :
    Step c .notifyAll { c.wakeUp with setter := .notified }
  | rearm (h : c.waiter = .away) : Step c .rearm { c with setter := .before }

/-- The waiter and the setter, in any order. -/
def system : System CondVar CondVarAction where
  init c := c = {}
  step := Step

/-- The notification that reaches nobody. -/
def Lost (c : CondVar) (a : CondVarAction) : Prop := a = .notifyAll ∧ c.waiter = .falling

/-- The flag is set, everybody has been notified, and the waiter does not
wait. -/
theorem not_waiting_step {c c' : CondVar} {a : CondVarAction}
    (h : c.setter = .notified → c.waiter = .away) (hlost : ¬ c.Lost a) (hstep : Step c a c') :
    c'.setter = .notified → c'.waiter = .away := by
  cases hstep with
  | fall _ hflag => simp [hflag]
  | sleep hw =>
    intro hn
    simp [hw] at h
    exact absurd hn h
  | wake _ => simp
  | store _ => simp
  | pass _ _ => simp
  | notifyAll _ =>
    have hfalling : c.waiter ≠ .falling := fun hw => hlost ⟨rfl, hw⟩
    intro _
    unfold wakeUp
    split
    · rfl
    · rename_i hasleep
      cases hw : c.waiter <;> simp_all
  | rearm hw => simp

/-- **No wake-up is lost but in the gap**: if no notification was sent
while the waiter was falling, it does not wait once the flag is set and
the notification sent. -/
theorem not_waiting {l : List (CondVar × CondVarAction)} {c : CondVar} (r : Run system l c)
    (hlost : ∀ p ∈ l, ¬ p.1.Lost p.2) : c.setter = .notified → c.waiter = .away := by
  refine r.invariant_of_steps (I := fun c => c.setter = .notified → c.waiter = .away)
    (P := fun c a => ¬ c.Lost a) ?_ ?_ hlost
  · rintro c rfl
    simp
  · intro c a c' h hlost hstep
    exact not_waiting_step h hlost hstep

/-- After the setter has held the mutex, the waiter does not fall. -/
theorem passed_not_falling {l : List (CondVar × CondVarAction)} {c : CondVar}
    (r : Run system l c) : c.setter = .passed → c.waiter ≠ .falling := by
  refine r.invariant (I := fun c => c.setter = .passed → c.waiter ≠ .falling) ?_ ?_
  · rintro c rfl
    simp
  · intro c a c' h hstep
    cases hstep with
    | fall _ hflag => simp [hflag]
    | sleep _ => simp
    | wake _ => simp
    | store _ => simp
    | pass _ hfree => exact fun _ => hfree
    | notifyAll _ => simp
    | rearm _ => simp

/-- A setter that notifies only after it has held the mutex loses no
wake-up. -/
theorem not_waiting_of_passed {l : List (CondVar × CondVarAction)} {c : CondVar}
    (r : Run system l c) (hpassed : ∀ p ∈ l, p.2 = .notifyAll → p.1.setter = .passed) :
    c.setter = .notified → c.waiter = .away := by
  refine not_waiting r fun p hp hlost => ?_
  obtain ⟨l', t', r', -⟩ := r.source p hp
  exact passed_not_falling r' (hpassed p hp hlost.1) hlost.2

end CondVar

end MmorpgServer.Lib
