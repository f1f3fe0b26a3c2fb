/-
MmorpgServer.Storage.DbWorkerCvTheorems — when the shutdown of `DBWorker`
hangs.

`stop()` stores `running_` without the mutex. If the worker has tested its
predicate before the store and blocks after the `notify_all`, nobody wakes
it again. `view` shows the worker and the caller of `stop()` as the two
threads of a condition variable, for which `Lib.CondVar` says that this is
the only way a wake-up is lost. `toDBWorker_run` takes every run here to
one of `Storage.DbWorker`.
-/
import MmorpgServer.Lib.CondVar
import MmorpgServer.Storage.DbWorkerCv
import MmorpgServer.Storage.DbWorkerTheorems

namespace MmorpgServer.Storage

open MmorpgServer.Lib

universe u

variable {J : Type u}

namespace DBWorkerCv

/-! ## The steps -/

/-- The worker wakes if it is asleep; nothing else happens. -/
theorem wakeUp_cases (w : DBWorkerCv J) :
    w.Asleep ∧ w.wakeUp = { w with pc := .waiting } ∨ ¬ w.Asleep ∧ w.wakeUp = w := by
  unfold wakeUp Asleep
  cases hpc : w.pc <;> cases hf : w.falling <;> simp

/-- The test either passes or finds an empty queue and no `stop()`. -/
theorem test_cases (w : DBWorkerCv J) :
    w.test = { w with pc := .passed, falling := false } ∨
      w.running = true ∧ w.test = { w with pc := .blocked, falling := true } := by
  unfold test DBWorker.wait
  cases hcond : (!w.q.isEmpty || !w.running) with
  | true => simp
  | false =>
    have hrun : w.running = true := by simp at hcond; exact hcond.2
    simp [hrun]

@[simp] theorem tryPush_pc (w : DBWorkerCv J) (job : J) : (w.tryPush job).pc = w.pc := by
  rcases w.toDBWorker.tryPush_cases job with he | he <;> simp [tryPush, he]

@[simp] theorem tryPush_running (w : DBWorkerCv J) (job : J) :
    (w.tryPush job).running = w.running := by
  rcases w.toDBWorker.tryPush_cases job with he | he <;> simp [tryPush, he]

/-- After the wait the worker is out of the loop or has a job, unless it
waits for something that cannot come. -/
theorem next_fields (w : DBWorker J) :
    w.next.running = w.running ∧ (w.pc = .passed → w.next.pc ≠ .blocked) := by
  unfold DBWorker.next
  split
  · exact ⟨rfl, by simp⟩
  · split
    · exact ⟨rfl, fun h => by simp [h]⟩
    · exact ⟨rfl, by simp⟩

/-- Only a worker inside the wait is between test and block. -/
theorem falling_blocked {w w' : DBWorkerCv J} {a : DBWorkerCvAction J}
    (h : w.falling = true → w.pc = .blocked) (hstep : DBWorkerCvStep w a w') :
    w'.falling = true → w'.pc = .blocked := by
  cases hstep with
  | tryPush job _ =>
    intro hf
    rw [tryPush_pc]
    exact h hf
  | notifyOne _ =>
    rcases w.wakeUp_cases with ⟨hasleep, he⟩ | ⟨-, he⟩
    · simp [notifyOne, he, hasleep.2]
    · simpa [notifyOne, he] using h
  | start hpc =>
    intro hf
    simp [hpc] at h
    exact absurd (h ▸ hf) (by simp)
  | storeStop _ => exact h
  | notifyAll _ =>
    rcases w.wakeUp_cases with ⟨hasleep, he⟩ | ⟨-, he⟩
    · simp [notifyAll, he, hasleep.2]
    · simpa [notifyAll, he] using h
  | run hrun =>
    cases hrun with
    | test _ => rcases w.test_cases with he | ⟨-, he⟩ <;> simp [he]
    | block _ => simp
    | onStart hpc | next hpc | handle hpc | onStop hpc =>
      intro hf
      have hblocked := h hf
      rw [hpc] at hblocked
      cases hblocked
  | spurious hasleep =>
    rcases w.wakeUp_cases with ⟨-, he⟩ | ⟨hno, -⟩
    · simp [he, hasleep.2]
    · exact absurd hasleep hno

/-! ## The two threads of a condition variable -/

/-- The worker as the waiter, the caller of `stop()` as the setter: the
flag is set while `running_` is false. -/
def view (w : DBWorkerCv J) : CondVar where
  waiter :=
    match w.pc, w.falling with
    | .blocked, true => .falling
    | .blocked, false => .asleep
    | _, _ => .away
  setter :=
    if w.running then .before
    else match w.stopPc with
      | .notCalled => .before
      | .stored => .stored
      | .returned => .notified

/-- `notify_all` comes between the worker's test and its block, with
`running_` false. -/
def LosesNotify (w : DBWorkerCv J) (a : DBWorkerCvAction J) : Prop :=
  a matches .notifyAll ∧ w.falling = true ∧ w.running = false

/-- `stop()` has returned, and the worker is blocked with nobody left to
notify it. -/
structure Stuck (w : DBWorkerCv J) : Prop where
  asleep : w.Asleep
  running : w.running = false
  returned : w.stopPc = .returned
  nobody : w.notifying = 0

theorem view_away {w : DBWorkerCv J} (h : w.pc ≠ .blocked) : w.view.waiter = .away := by
  unfold view
  cases hpc : w.pc <;> simp_all

theorem view_asleep {w : DBWorkerCv J} (h : w.Asleep) : w.view.waiter = .asleep := by
  simp [view, h.1, h.2]

theorem view_falling {w : DBWorkerCv J} (hpc : w.pc = .blocked) (hf : w.falling = true) :
    w.view.waiter = .falling := by
  simp [view, hpc, hf]

/-- What the view is made of. -/
theorem view_congr {w w' : DBWorkerCv J} (hpc : w'.pc = w.pc) (hf : w'.falling = w.falling)
    (hrun : w'.running = w.running) (hstop : w'.stopPc = w.stopPc) : w'.view = w.view := by
  unfold view
  rw [hpc, hf, hrun, hstop]

/-- Outside the wait, only `running_` and `stop()` are seen. -/
theorem view_outside {w w' : DBWorkerCv J} (h : w.pc ≠ .blocked) (h' : w'.pc ≠ .blocked)
    (hrun : w'.running = w.running) (hstop : w'.stopPc = w.stopPc) : w'.view = w.view := by
  have hsetter : w'.view.setter = w.view.setter := by
    unfold view
    rw [hrun, hstop]
  have hwaiter := (view_away h').trans (view_away h).symm
  exact CondVar.ext hwaiter hsetter

/-- A notification, in the view: a step of its own, or nothing. -/
theorem view_wakeUp (w : DBWorkerCv J) :
    w.wakeUp.view = w.view.wakeUp ∧
      (w.wakeUp.view = w.view ∨ CondVar.Step w.view .wake w.wakeUp.view) := by
  rcases w.wakeUp_cases with ⟨hasleep, he⟩ | ⟨hno, he⟩
  · have haway : w.wakeUp.view = { w.view with waiter := .away } := by
      rw [he]
      exact CondVar.ext (view_away (by simp)) rfl
    rw [haway]
    refine ⟨by simp [CondVar.wakeUp, view_asleep hasleep], .inr ?_⟩
    exact .wake (view_asleep hasleep)
  · have hwaiter : w.view.waiter ≠ .asleep := by
      unfold view
      unfold Asleep at hno
      cases hpc : w.pc <;> cases hf : w.falling <;> simp_all
    rw [he]
    exact ⟨by simp [CondVar.wakeUp, hwaiter], .inl rfl⟩

/-- `running_` is false, in the view. -/
theorem view_setter {w : DBWorkerCv J} (hrun : w.running = false) :
    w.view.setter =
      match w.stopPc with
      | .notCalled => .before
      | .stored => .stored
      | .returned => .notified := by
  simp [view, hrun]

theorem view_setter_running {w : DBWorkerCv J} (hrun : w.running = true) :
    w.view.setter = .before := by
  simp [view, hrun]

/-- `notify_all` is the notification of the condition variable if
`running_` is false, and wakes for nothing otherwise. -/
theorem notifyAll_view {w : DBWorkerCv J} (h : w.stopPc = .stored) :
    w.notifyAll.view = w.view ∨ CondVar.Step w.view .wake w.notifyAll.view ∨
      w.running = false ∧ CondVar.Step w.view .notifyAll w.notifyAll.view := by
  have hkeeps : w.wakeUp.running = w.running := by
    rcases w.wakeUp_cases with ⟨-, he⟩ | ⟨-, he⟩ <;> rw [he]
  have hwaiter : w.notifyAll.view.waiter = w.wakeUp.view.waiter := rfl
  cases hrun : w.running with
  | true =>
    have hsame : w.notifyAll.view = w.wakeUp.view := by
      refine CondVar.ext hwaiter ?_
      rw [view_setter_running (hkeeps.trans hrun)]
      exact view_setter_running (hkeeps.trans hrun)
    rw [hsame]
    rcases w.view_wakeUp.2 with hidle | hwake
    · exact .inl hidle
    · exact .inr (.inl hwake)
  | false =>
    have hstored : w.view.setter = .stored := by rw [view_setter hrun, h]
    have hview : w.notifyAll.view = { w.view.wakeUp with setter := .notified } := by
      refine CondVar.ext ?_ ?_
      · rw [hwaiter, w.view_wakeUp.1]
      · exact view_setter (hkeeps.trans hrun)
    rw [hview]
    exact .inr (.inr ⟨rfl, .notifyAll (.inl hstored)⟩)

/-- A step of `run()`, in the view. -/
theorem run_view {w w' : DBWorkerCv J} (h : w.falling = true → w.pc = .blocked)
    (hstep : w.RunStep w') :
    w'.view = w.view ∨ CondVar.Step w.view .fall w'.view ∨ CondVar.Step w.view .sleep w'.view := by
  cases hstep with
  | test hpc =>
    rcases w.test_cases with he | ⟨hrun, he⟩
    · rw [he]
      exact .inl (view_outside (by simp [hpc]) (by simp) rfl rfl)
    · have haway : w.view.waiter = .away := view_away (by simp [hpc])
      have hfall : w.test.view = { w.view with waiter := .falling } := by
        rw [he]
        exact CondVar.ext (view_falling rfl rfl) rfl
      rw [hfall]
      exact .inr (.inl (.fall haway (view_setter_running hrun)))
  | block hf =>
    have hsleep : ({ w with falling := false } : DBWorkerCv J).view =
        { w.view with waiter := .asleep } :=
      CondVar.ext (view_asleep ⟨h hf, rfl⟩) rfl
    rw [hsleep]
    exact .inr (.inr (.sleep (view_falling (h hf) hf)))
  | onStart hpc => exact .inl (view_outside (by simp [hpc]) (by simp) rfl rfl)
  | next hpc =>
    obtain ⟨hrun, hnext⟩ := next_fields w.toDBWorker
    exact .inl (view_outside (by simp [hpc]) (hnext hpc) hrun rfl)
  | handle hpc => exact .inl (view_outside (by simp [hpc]) (by simp [DBWorker.handle]) rfl rfl)
  | onStop hpc => exact .inl (view_outside (by simp [hpc]) (by simp) rfl rfl)

/-- **Every step is one of the condition variable**, or nothing happens
there; it is the lost notification only if `LosesNotify` says so. -/
theorem step_view {w w' : DBWorkerCv J} {a : DBWorkerCvAction J}
    (h : w.falling = true → w.pc = .blocked) (hlost : ¬ w.LosesNotify a)
    (hstep : DBWorkerCvStep w a w') :
    w'.view = w.view ∨ ∃ b, ¬ w.view.Lost b ∧ CondVar.Step w.view b w'.view := by
  have hwake (hkeeps : w'.view = w.wakeUp.view) :
      w'.view = w.view ∨ ∃ b, ¬ w.view.Lost b ∧ CondVar.Step w.view b w'.view := by
    rw [hkeeps]
    rcases w.view_wakeUp.2 with hidle | hwake
    · exact .inl hidle
    · exact .inr ⟨.wake, by simp [CondVar.Lost], hwake⟩
  cases hstep with
  | tryPush job _ =>
    have hstop : (w.tryPush job).stopPc = w.stopPc := rfl
    exact .inl (view_congr (w.tryPush_pc job) rfl (w.tryPush_running job) hstop)
  | notifyOne _ => exact hwake rfl
  | start hpc =>
    have haway : w.view.waiter = .away := view_away (by simp [hpc])
    have hrearm : ({ w with toDBWorker := w.toDBWorker.start } : DBWorkerCv J).view =
        { w.view with setter := .before } := by
      refine CondVar.ext ?_ (view_setter_running rfl)
      rw [haway]
      exact view_away (by simp [DBWorker.start])
    rw [hrearm]
    exact .inr ⟨.rearm, by simp [CondVar.Lost], .rearm haway⟩
  | storeStop hcalled =>
    have hbefore : w.view.setter = .before := by
      cases hrun : w.running with
      | true => exact view_setter_running hrun
      | false => rw [view_setter hrun, hcalled]
    have hstore : w.storeStop.view = { w.view with setter := .stored } :=
      CondVar.ext rfl (view_setter rfl)
    rw [hstore]
    exact .inr ⟨.store, by simp [CondVar.Lost], .store hbefore⟩
  | notifyAll hstored =>
    rcases notifyAll_view hstored with hidle | hwake | ⟨hrun, hall⟩
    · exact .inl hidle
    · exact .inr ⟨.wake, by simp [CondVar.Lost], hwake⟩
    · refine .inr ⟨.notifyAll, fun hl => hlost ⟨rfl, ?_, hrun⟩, hall⟩
      -- the waiter falls in the view only between the test and the block
      have hfalling := hl.2
      unfold view at hfalling
      cases hf : w.falling with
      | true => rfl
      | false => cases hpc : w.pc <;> simp [hf, hpc] at hfalling
  | run hrun =>
    rcases run_view h hrun with hidle | hfall | hsleep
    · exact .inl hidle
    · exact .inr ⟨.fall, by simp [CondVar.Lost], hfall⟩
    · exact .inr ⟨.sleep, by simp [CondVar.Lost], hsleep⟩
  | spurious _ => exact hwake rfl

/-! ## Runs -/

theorem falling_blocked_run {l : List (DBWorkerCv J × DBWorkerCvAction J)} {w : DBWorkerCv J}
    (r : Run (dbWorkerCvSystem J) l w) : w.falling = true → w.pc = .blocked := by
  refine r.invariant (I := fun w => w.falling = true → w.pc = .blocked) ?_ ?_
  · rintro w rfl
    simp
  · intro w a w' h hstep
    exact falling_blocked h hstep

/-- Whether `stop()` has been called, in both models. -/
theorem stopped_step {w w' : DBWorkerCv J} {a : DBWorkerCvAction J}
    (h : w.stopPc = .notCalled → w.stopped = false) (hstep : DBWorkerCvStep w a w') :
    w'.stopPc = .notCalled → w'.stopped = false := by
  have hwake : w.wakeUp.stopPc = w.stopPc ∧ w.wakeUp.stopped = w.stopped := by
    rcases w.wakeUp_cases with ⟨-, he⟩ | ⟨-, he⟩ <;> simp [he]
  cases hstep with
  | tryPush job _ =>
    rcases w.toDBWorker.tryPush_cases job with he | he <;> simpa [tryPush, he] using h
  | notifyOne _ => simpa [notifyOne, hwake.1, hwake.2] using h
  | start _ => exact h
  | storeStop _ => simp [storeStop]
  | notifyAll _ => simp [notifyAll]
  | run hrun =>
    cases hrun with
    | test _ => rcases w.test_cases with he | ⟨-, he⟩ <;> simpa [he] using h
    | next _ =>
      have hnext : w.toDBWorker.next.stopped = w.stopped := by
        unfold DBWorker.next
        split
        · rfl
        · split <;> rfl
      simpa [hnext] using h
    | onStart _ | block _ | handle _ | onStop _ => exact h
  | spurious _ => simpa [hwake.1, hwake.2] using h

/-- A step of this model is a step of `Storage.DbWorker`, or nothing
there. -/
theorem step_toDBWorker {w w' : DBWorkerCv J} {a : DBWorkerCvAction J}
    (h : w.stopPc = .notCalled → w.stopped = false) (hstep : DBWorkerCvStep w a w') :
    w'.toDBWorker = w.toDBWorker ∨ ∃ b, DBWorkerStep w.toDBWorker b w'.toDBWorker := by
  have hwake (hsame : w'.toDBWorker = w.wakeUp.toDBWorker) :
      w'.toDBWorker = w.toDBWorker ∨ ∃ b, DBWorkerStep w.toDBWorker b w'.toDBWorker := by
    rcases w.wakeUp_cases with ⟨hasleep, he⟩ | ⟨-, he⟩
    · rw [hsame, he]
      exact .inr ⟨.run, .run (.wake hasleep.1)⟩
    · rw [hsame, he]
      exact .inl rfl
  cases hstep with
  | tryPush job hfree => exact .inr ⟨.tryPush job, .tryPush job hfree.1⟩
  | notifyOne _ => exact hwake rfl
  | start hpc => exact .inr ⟨.start, .start hpc⟩
  | storeStop hcalled => exact .inr ⟨.stop, .stop (h hcalled)⟩
  | notifyAll _ => exact hwake rfl
  | run hrun =>
    cases hrun with
    | onStart hpc => exact .inr ⟨.run, .run (.onStart hpc)⟩
    | test hpc => exact .inr ⟨.run, .run (.wait hpc)⟩
    | block _ => exact .inl rfl
    | next hpc => exact .inr ⟨.run, .run (.next hpc)⟩
    | handle hpc => exact .inr ⟨.run, .run (.handle hpc)⟩
    | onStop hpc => exact .inr ⟨.run, .run (.onStop hpc)⟩
  | spurious _ => exact hwake rfl

/-- With the steps of its wait told apart, `DBWorker` does what it does in
`Storage.DbWorker`. -/
theorem toDBWorker_run {l : List (DBWorkerCv J × DBWorkerCvAction J)} {w : DBWorkerCv J}
    (r : Run (dbWorkerCvSystem J) l w) : ∃ l', Run (dbWorkerSystem J) l' w.toDBWorker := by
  have hstopped : ∀ p ∈ l, p.1.stopPc = .notCalled → p.1.stopped = false := by
    intro p hp
    obtain ⟨l', t', r', -⟩ := r.source p hp
    refine r'.invariant (I := fun w => w.stopPc = .notCalled → w.stopped = false) ?_ ?_
    · rintro w rfl
      simp
    · intro w a w' h hstep
      exact stopped_step h hstep
  refine (r.restrict (Q := fun w _ => w.stopPc = .notCalled → w.stopped = false)
    hstopped).simulate DBWorkerCv.toDBWorker ?_ ?_
  · rintro w rfl
    rfl
  · rintro w a w' ⟨h, hstep⟩
    exact step_toDBWorker h hstep

/-- If no notification is lost, the worker is not stuck. -/
theorem not_stuck {l : List (DBWorkerCv J × DBWorkerCvAction J)} {w : DBWorkerCv J}
    (r : Run (dbWorkerCvSystem J) l w) (hlost : ∀ p ∈ l, ¬ p.1.LosesNotify p.2) :
    ¬ w.Stuck := by
  have hsteps : ∀ p ∈ l, (p.1.falling = true → p.1.pc = .blocked) ∧ ¬ p.1.LosesNotify p.2 := by
    intro p hp
    obtain ⟨l', t', r', -⟩ := r.source p hp
    exact ⟨falling_blocked_run r', hlost p hp⟩
  have hview : ∃ l', Run (CondVar.system.restrict fun c b => ¬ c.Lost b) l' w.view := by
    refine (r.restrict (Q := fun w a =>
      (w.falling = true → w.pc = .blocked) ∧ ¬ w.LosesNotify a) hsteps).simulate view ?_ ?_
    · rintro w rfl
      rfl
    · rintro w a w' ⟨⟨h, hlost⟩, hstep⟩
      exact step_view h hlost hstep
  obtain ⟨l', r'⟩ := hview
  obtain ⟨r', hnone⟩ := r'.of_restrict
  intro hstuck
  have hnotified : w.view.setter = .notified := by rw [view_setter hstuck.running, hstuck.returned]
  have haway := CondVar.not_waiting r' hnone hnotified
  rw [view_asleep hstuck.asleep] at haway
  cases haway

/-- From a stuck worker on, it is a push or a spurious wake-up, or
nothing happens. -/
theorem Stuck.step {w w' : DBWorkerCv J} {a : DBWorkerCvAction J} (h : w.Stuck)
    (hstep : DBWorkerCvStep w a w') : a = .spurious ∨ ∃ job, a = .tryPush job := by
  obtain ⟨⟨hpc, hf⟩, hrun, hreturned, hnobody⟩ := h
  cases hstep with
  | tryPush job _ => exact .inr ⟨job, rfl⟩
  | notifyOne hsome => omega
  | start hpc' => simp [hpc] at hpc'
  | storeStop hcalled => simp [hreturned] at hcalled
  | notifyAll hstored => simp [hreturned] at hstored
  | run hstep =>
    cases hstep with
    | block hf' => simp [hf] at hf'
    | onStart hpc' | test hpc' | next hpc' | handle hpc' | onStop hpc' => simp [hpc] at hpc'
  | spurious _ => exact .inl rfl

/-- The pending `notify_one` calls do nothing for a worker that still
holds the mutex. -/
theorem notify_while_falling {l : List (DBWorkerCv J × DBWorkerCvAction J)} {w : DBWorkerCv J}
    (r : Run (dbWorkerCvSystem J) l w) (hf : w.falling = true) :
    ∃ l₂, Run (dbWorkerCvSystem J) (l₂ ++ l) { w with notifying := 0 } := by
  generalize hn : w.notifying = n
  induction n generalizing l w with
  | zero => exact ⟨[], by simpa [← hn] using r⟩
  | succ n ih =>
    have hsame : w.notifyOne = { w with notifying := n } := by
      rcases w.wakeUp_cases with ⟨hasleep, -⟩ | ⟨-, he⟩
      · exact absurd (hasleep.2.symm.trans hf) (by simp)
      · simp [notifyOne, he, hn]
    have hstep : DBWorkerCvStep w .notifyOne { w with notifying := n } :=
      hsame ▸ .notifyOne (by omega)
    obtain ⟨l₂, r'⟩ := ih (r.step hstep) hf rfl
    exact ⟨l₂ ++ [(w, .notifyOne)], by simpa using r'⟩

/-- A lost notification can be followed by steps that leave the worker
stuck. -/
theorem stuck_of_lost {l : List (DBWorkerCv J × DBWorkerCvAction J)} {w w' : DBWorkerCv J}
    {a : DBWorkerCvAction J} (r : Run (dbWorkerCvSystem J) l w) (hlost : w.LosesNotify a)
    (hstep : DBWorkerCvStep w a w') :
    ∃ l₂ w₂, Run (dbWorkerCvSystem J) (l₂ ++ (w, a) :: l) w₂ ∧ w₂.Stuck := by
  obtain ⟨hall, hf, hrun⟩ := hlost
  cases hstep with
  | notifyAll hstored =>
    have hsame : w.notifyAll = { w with stopPc := .returned } := by
      rcases w.wakeUp_cases with ⟨hasleep, -⟩ | ⟨-, he⟩
      · exact absurd (hasleep.2.symm.trans hf) (by simp)
      · simp [notifyAll, he]
    have hfall : w.notifyAll.falling = true := by rw [hsame]; exact hf
    have r' := r.next .notifyAll (.notifyAll hstored)
    obtain ⟨l₂, r₂⟩ := notify_while_falling r' hfall
    have hpc := falling_blocked_run r hf
    refine ⟨(_, .run) :: l₂, _, r₂.next .run (.run (.block hfall)), ⟨?_, ?_⟩, ?_, ?_, ?_⟩
    · simpa [hsame] using hpc
    · rfl
    · simpa [hsame] using hrun
    · simp [hsame]
    · rfl
  | tryPush | notifyOne | start | storeStop | run | spurious => simp at hall

/-- **When the shutdown does not hang.** In a run in which `notify_all` of
`stop()` does not come between the worker's test and its block, no state
reached has the worker blocked after `stop()` with nobody to notify it;
and any run whose next step is such a `notify_all` can go on to one that
has. -/
theorem shutdown_does_not_hang {l : List (DBWorkerCv J × DBWorkerCvAction J)} {w : DBWorkerCv J}
    (r : Run (dbWorkerCvSystem J) l w) :
    ((∀ p ∈ l, ¬ p.1.LosesNotify p.2) → (∀ p ∈ l, ¬ p.1.Stuck) ∧ ¬ w.Stuck) ∧
      ∀ a w', w.LosesNotify a → DBWorkerCvStep w a w' →
        ∃ l₂ w₂, Run (dbWorkerCvSystem J) (l₂ ++ (w, a) :: l) w₂ ∧ w₂.Stuck := by
  refine ⟨fun hlost => ?_, fun a w' hlost hstep => stuck_of_lost r hlost hstep⟩
  exact r.throughout (P := fun w a => ¬ w.LosesNotify a) (G := fun w => ¬ w.Stuck)
    (fun l t r h => not_stuck r h) hlost

/-- A worker that is blocked when `stop()` comes is woken. -/
theorem shutdown_does_not_hang_asleep :
    ∃ w : DBWorkerCv DbJob, w.stopPc = .returned ∧ w.pc = .waiting ∧ ¬ w.Stuck := by
  have r : Run (dbWorkerCvSystem DbJob) [] {} := .start rfl
  have r := (r.next .start (.start rfl)).next .run (.run (.onStart rfl))
  have r := (r.next .run (.run (.test rfl))).next .run (.run (.block rfl))
  have r := (r.next .storeStop (.storeStop rfl)).next .notifyAll (.notifyAll rfl)
  refine ⟨_, rfl, rfl, ((shutdown_does_not_hang r).1 ?_).2⟩
  simp only [List.forall_mem_cons]
  refine ⟨?_, ?_, ?_, ?_, ?_, ?_, ?_⟩ <;>
    simp [LosesNotify, storeStop, DBWorkerCv.test, DBWorker.wait]

/-- The worker tests its predicate, `stop()` stores and notifies, and the
worker blocks: no notification is left, and `join()` waits for it. -/
theorem shutdown_hangs :
    ∃ (l : List (DBWorkerCv DbJob × DBWorkerCvAction DbJob)) (w : DBWorkerCv DbJob),
      Run (dbWorkerCvSystem DbJob) l w ∧
        l.reverse.map Prod.snd = [.start, .run, .run, .storeStop, .notifyAll, .run] ∧
        w.Stuck := by
  have r : Run (dbWorkerCvSystem DbJob) [] {} := .start rfl
  have r := (r.next .start (.start rfl)).next .run (.run (.onStart rfl))
  have r := (r.next .run (.run (.test rfl))).next .storeStop (.storeStop rfl)
  have r := (r.next .notifyAll (.notifyAll rfl)).next .run (.run (.block rfl))
  exact ⟨_, _, r, rfl, ⟨rfl, rfl⟩, rfl, rfl, rfl⟩

end DBWorkerCv

end MmorpgServer.Storage
