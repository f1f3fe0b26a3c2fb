/-
MmorpgServer.Worker.CoreWorkerTheorems — what `core::Worker` does with the
messages pushed to it.

`Conserved` accounts for the messages: what was pushed is what was
handled, then the message in hand, then the queue. The loop has two
exits. The test behind the wait leaves with an empty queue only; the outer
`while` looks at `running_` alone, and what is queued then is never
handled. `AbandonsTail` is that step, and `stop_loses_no_message` says
that it is all that matters. No wake-up is lost: `stop()` takes the mutex
before it notifies.
-/
import Mathlib.Data.List.Nodup
import MmorpgServer.Lib.CondVar
import MmorpgServer.Worker.CoreWorker

namespace MmorpgServer.Core

open MmorpgServer.Lib

universe u

variable {M : Type u}

namespace Worker

/-! ## The steps -/

/-- A blocked thread wakes; nothing else happens. -/
theorem wakeUp_cases (w : Worker M) :
    w.pc = .asleep ∧ w.wakeUp = { w with pc := .locking } ∨ w.pc ≠ .asleep ∧ w.wakeUp = w := by
  unfold wakeUp
  cases hpc : w.pc <;> simp

/-- The outer `while` goes on exactly while the worker runs. -/
theorem test_cases (w : Worker M) :
    w.running = true ∧ w.test = { w with pc := .locking } ∨
      w.running = false ∧ w.test = { w with pc := .finished } := by
  unfold test
  cases hrun : w.running <;> simp

/-- The wait is passed with a message in the queue or a stopped worker,
and entered otherwise. -/
theorem wait_cases (w : Worker M) :
    (w.queue ≠ [] ∨ w.running = false) ∧ w.wait = { w with pc := .passed } ∨
      w.queue = [] ∧ w.running = true ∧ w.wait = { w with pc := .falling } := by
  unfold wait
  cases hrun : w.running <;> cases hq : w.queue <;> simp

/-- Behind the wait: out of the loop with an empty queue, or the front of
the queue. -/
theorem next_cases {w : Worker M} (h : w.queue ≠ [] ∨ w.running = false) :
    w.queue = [] ∧ w.running = false ∧ w.next = { w with pc := .finished } ∨
      ∃ msg queue, w.queue = msg :: queue ∧ w.next = { w with queue, pc := .handling msg } := by
  unfold next
  cases hq : w.queue with
  | nil =>
    have hrun : w.running = false := h.resolve_left (by simp [hq])
    simp [hrun]
  | cons msg queue => simp

/-- `stop()` stops a running worker and does nothing to another one. -/
theorem stop_cases (w : Worker M) :
    w.running = true ∧ w.stop = { w with running := false, stopPc := .stored } ∨
      w.running = false ∧ w.stop = { w with stopPc := .ignored } := by
  unfold stop
  cases hrun : w.running <;> simp

/-! ## The invariant -/

/-- The message popped and not handed over yet. -/
def inHand (w : Worker M) : List (Ticket M) :=
  match w.pc with
  | .handling msg => [msg]
  | _ => []

/-- Every message pushed is handled, in hand or queued, in this order. -/
def Conserved (w : Worker M) : Prop := w.pushed = w.handled ++ w.inHand ++ w.queue

/-- The number of a message is its place among those pushed. -/
def Numbered (w : Worker M) : Prop := w.pushed.map Prod.fst = List.range w.pushed.length

/-- Where `start()`, `stop()` and the loop stand. -/
structure Shutdown (w : Worker M) : Prop where
  onMessage : w.onMessage = true
  started : w.running = true → w.pc ≠ .notStarted
  inTime : w.pushedInTime <+: w.pushed
  open' : w.stopPc = .notCalled → w.pushedInTime = w.pushed
  called : w.pc ≠ .notStarted → w.running = false → w.stopPc ≠ .notCalled
  passed : w.pc = .passed → w.queue ≠ [] ∨ w.running = false
  finished : w.pc = .finished → w.running = false
  returned : w.stopPc = .returned → w.pc = .finished

/-- What every run keeps. -/
structure Inv (w : Worker M) : Prop where
  conserved : w.Conserved
  numbered : w.Numbered
  shutdown : w.Shutdown

theorem inv_init : ({ onMessage := true } : Worker M).Inv := by
  refine ⟨rfl, rfl, ?_⟩
  constructor <;> simp

/-- Neither the messages nor `stop()` see where the loop is, unless it has
a message in hand. -/
theorem Inv.wakeUp {w : Worker M} (h : w.Inv) : w.wakeUp.Inv := by
  rcases w.wakeUp_cases with ⟨hpc, he⟩ | ⟨-, he⟩
  · have hc := h.conserved
    obtain ⟨h₁, h₂, h₃, h₄, h₅, h₆, h₇, h₈⟩ := h.shutdown
    rw [he]
    refine ⟨by simpa [Conserved, inHand, hpc] using hc, h.numbered, ?_⟩
    constructor <;> simp_all
  · rw [he]
    exact h

theorem Inv.push {w : Worker M} (h : w.Inv) (msg : M) (hfree : w.MutexFree) :
    (w.push msg).Inv := by
  have hc := h.conserved
  have hn := h.numbered
  obtain ⟨h₁, h₂, h₃, h₄, h₅, h₆, h₇, h₈⟩ := h.shutdown
  refine ⟨?_, ?_, ?_⟩
  · unfold Conserved at hc
    change w.pushed ++ _ = w.handled ++ w.inHand ++ (w.queue ++ _)
    rw [hc, List.append_assoc _ w.queue]
  · unfold Numbered at hn
    simp [Numbered, Worker.push, hn, List.range_succ]
  · refine ⟨h₁, h₂, ?_, ?_, h₅, fun hpc => absurd hpc hfree.2, h₇, h₈⟩
    · cases hs : w.stopPc with
      | notCalled => simp [Worker.push, hs, h₄ hs]
      | _ => simpa [Worker.push, hs] using h₃.trans (List.prefix_append _ _)
    · intro hs
      have hs' : w.stopPc = .notCalled := hs
      simp [Worker.push, hs', h₄ hs']

theorem Inv.stop {w : Worker M} (h : w.Inv) : w.stop.Inv := by
  obtain ⟨h₁, h₂, h₃, h₄, h₅, h₆, h₇, h₈⟩ := h.shutdown
  rcases w.stop_cases with ⟨-, he⟩ | ⟨hrun, he⟩ <;> rw [he]
  · refine ⟨h.conserved, h.numbered, ?_⟩
    exact ⟨h₁, by simp, h₃, by simp, by simp, fun _ => .inr rfl, fun _ => rfl, by simp⟩
  · refine ⟨h.conserved, h.numbered, ?_⟩
    exact ⟨h₁, h₂, h₃, by simp, by simp, h₆, h₇, by simp⟩

theorem Inv.loop {w w' : Worker M} (h : w.Inv) (hstep : w.LoopStep w') : w'.Inv := by
  have hc := h.conserved
  unfold Conserved inHand at hc
  obtain ⟨h₁, h₂, h₃, h₄, h₅, h₆, h₇, h₈⟩ := h.shutdown
  cases hstep with
  | test hpc =>
    rcases w.test_cases with ⟨hrun, he⟩ | ⟨hrun, he⟩ <;> rw [he]
    · refine ⟨by simpa [Conserved, inHand, hpc] using hc, h.numbered, ?_⟩
      constructor <;> simp_all
    · refine ⟨by simpa [Conserved, inHand, hpc] using hc, h.numbered, ?_⟩
      constructor <;> simp_all
  | wait hpc =>
    rcases w.wait_cases with ⟨hpass, he⟩ | ⟨-, hrun, he⟩ <;> rw [he]
    · refine ⟨by simpa [Conserved, inHand, hpc] using hc, h.numbered, ?_⟩
      constructor <;> simp_all
    · refine ⟨by simpa [Conserved, inHand, hpc] using hc, h.numbered, ?_⟩
      constructor <;> simp_all
  | block hpc =>
    refine ⟨by simpa [Conserved, inHand, hpc] using hc, h.numbered, ?_⟩
    constructor <;> simp_all
  | next hpc =>
    rcases next_cases (h₆ hpc) with ⟨hq, hrun, he⟩ | ⟨msg, queue, hq, he⟩ <;> rw [he]
    · refine ⟨by simpa [Conserved, inHand, hpc] using hc, h.numbered, ?_⟩
      constructor <;> simp_all
    · refine ⟨by simpa [Conserved, inHand, hpc, hq] using hc, h.numbered, ?_⟩
      constructor <;> simp_all
  | handle hpc =>
    refine ⟨by simpa [Conserved, inHand, hpc, Worker.handle, h₁] using hc, h.numbered, ?_⟩
    constructor <;> simp_all [Worker.handle]

theorem Inv.step {w w' : Worker M} {a : WorkerAction M} (h : w.Inv)
    (hstep : WorkerStep w a w') : w'.Inv := by
  obtain ⟨h₁, h₂, h₃, h₄, h₅, h₆, h₇, h₈⟩ := h.shutdown
  cases hstep with
  | push msg hfree => exact h.push msg hfree
  | notifyOne _ =>
    obtain ⟨hc, hn, hs⟩ := h.wakeUp
    exact ⟨hc, hn, ⟨hs.1, hs.2, hs.3, hs.4, hs.5, hs.6, hs.7, hs.8⟩⟩
  | start hpc =>
    have hrun : w.running = false := by
      cases hrun : w.running with
      | true => exact absurd hpc (h₂ hrun)
      | false => rfl
    have hc := h.conserved
    unfold Conserved inHand at hc
    have he : w.start = { w with running := true, pc := .testing } := by simp [Worker.start, hrun]
    rw [he]
    refine ⟨by simpa [Conserved, inHand, hpc] using hc, h.numbered, ?_⟩
    constructor <;> simp_all
  | stop _ => exact h.stop
  | pass hs _ =>
    refine ⟨h.conserved, h.numbered, ?_⟩
    constructor <;> simp_all
  | notifyAll hs =>
    obtain ⟨hc, hn, hk⟩ := h.wakeUp
    exact ⟨hc, hn, ⟨hk.1, hk.2, hk.3, by simp [Worker.notifyAll], by simp [Worker.notifyAll], hk.6,
      hk.7, by simp [Worker.notifyAll]⟩⟩
  | join hs hdone =>
    refine ⟨h.conserved, h.numbered, ?_⟩
    constructor <;> simp_all
  | loop hstep => exact h.loop hstep
  | spurious _ => exact h.wakeUp

theorem inv_run {l : List (Worker M × WorkerAction M)} {w : Worker M}
    (r : Run (workerSystem M) l w) : w.Inv := by
  refine r.invariant (I := Inv) ?_ ?_
  · rintro w rfl
    exact inv_init
  · intro w a w' h hstep
    exact h.step hstep

theorem Inv.nodup {w : Worker M} (h : w.Inv) : w.pushed.Nodup := by
  refine List.Nodup.of_map Prod.fst ?_
  rw [h.numbered]
  exact List.nodup_range

theorem Inv.handled_prefix {w : Worker M} (h : w.Inv) : w.handled <+: w.pushed := by
  rw [h.conserved, List.append_assoc]
  exact List.prefix_append _ _

/-! ## No wake-up is lost -/

/-- The loop as the waiter of a condition variable, the caller of `stop()`
as its setter. -/
def view (w : Worker M) : CondVar where
  waiter :=
    match w.pc with
    | .falling => .falling
    | .asleep => .asleep
    | _ => .away
  setter :=
    if w.running then .before
    else match w.stopPc with
      | .notCalled | .ignored => .before
      | .stored => .stored
      | .passed => .passed
      | .notified | .returned => .notified

theorem view_away {w : Worker M} (hf : w.pc ≠ .falling) (ha : w.pc ≠ .asleep) :
    w.view.waiter = .away := by
  unfold view
  cases hpc : w.pc <;> simp_all

theorem view_running {w : Worker M} (hrun : w.running = true) : w.view.setter = .before := by
  simp [view, hrun]

/-- A notification, in the view: a step of its own, or nothing. -/
theorem view_wakeUp (w : Worker M) :
    w.wakeUp.view = w.view.wakeUp ∧
      (w.wakeUp.view = w.view ∨ CondVar.Step w.view .wake w.wakeUp.view) := by
  rcases w.wakeUp_cases with ⟨hpc, he⟩ | ⟨hpc, he⟩
  · have hasleep : w.view.waiter = .asleep := by simp [view, hpc]
    have haway : w.wakeUp.view = { w.view with waiter := .away } := by
      rw [he]
      exact CondVar.ext (view_away (by simp) (by simp)) rfl
    rw [haway]
    exact ⟨by simp [CondVar.wakeUp, hasleep], .inr (.wake hasleep)⟩
  · have hnot : w.view.waiter ≠ .asleep := by
      unfold view
      cases hpc' : w.pc <;> simp_all
    rw [he]
    exact ⟨by simp [CondVar.wakeUp, hnot], .inl rfl⟩

/-- A step of `loop()`, in the view. -/
theorem loop_view {w w' : Worker M} (h : w.Inv) (hstep : w.LoopStep w') :
    w'.view = w.view ∨ CondVar.Step w.view .fall w'.view ∨ CondVar.Step w.view .sleep w'.view := by
  cases hstep with
  | test hpc => rcases w.test_cases with ⟨-, he⟩ | ⟨-, he⟩ <;> simp [he, view, hpc]
  | wait hpc =>
    rcases w.wait_cases with ⟨-, he⟩ | ⟨-, hrun, he⟩
    · simp [he, view, hpc]
    · have haway : w.view.waiter = .away := view_away (by simp [hpc]) (by simp [hpc])
      have hfall : w.wait.view = { w.view with waiter := .falling } := by rw [he]; rfl
      rw [hfall]
      exact .inr (.inl (.fall haway (view_running hrun)))
  | block hpc =>
    have hfalling : w.view.waiter = .falling := by simp [view, hpc]
    exact .inr (.inr (.sleep hfalling))
  | next hpc =>
    rcases next_cases (h.shutdown.passed hpc) with ⟨-, -, he⟩ | ⟨msg, queue, -, he⟩ <;>
      simp [he, view, hpc]
  | handle hpc =>
    have haway : w.view.waiter = .away := view_away (by simp [hpc]) (by simp [hpc])
    exact .inl (CondVar.ext haway.symm rfl)

/-- **Every step is one of the condition variable**, or nothing happens
there; a notification comes only after the mutex was taken. -/
theorem step_view {w w' : Worker M} {a : WorkerAction M} (h : w.Inv)
    (hstep : WorkerStep w a w') :
    w'.view = w.view ∨ ∃ b, (b = .notifyAll → w.view.setter = .passed) ∧
      CondVar.Step w.view b w'.view := by
  have hwake (hsame : w'.view = w.wakeUp.view) :
      w'.view = w.view ∨ ∃ b, (b = .notifyAll → w.view.setter = .passed) ∧
        CondVar.Step w.view b w'.view := by
    rw [hsame]
    rcases w.view_wakeUp.2 with hidle | hwake
    · exact .inl hidle
    · exact .inr ⟨.wake, by simp, hwake⟩
  cases hstep with
  | push msg _ => exact .inl rfl
  | notifyOne _ => exact hwake rfl
  | start hpc =>
    have haway : w.view.waiter = .away := view_away (by simp [hpc]) (by simp [hpc])
    have hrearm : w.start.view = { w.view with setter := .before } := by
      unfold Worker.start
      split
      · rename_i hrun
        exact CondVar.ext rfl (view_running hrun)
      · exact CondVar.ext haway.symm (view_running rfl)
    rw [hrearm]
    exact .inr ⟨.rearm, by simp, .rearm haway⟩
  | stop hs =>
    rcases w.stop_cases with ⟨hrun, he⟩ | ⟨hrun, he⟩ <;> rw [he]
    · exact .inr ⟨.store, by simp, .store (view_running hrun)⟩
    · simp [view, hrun, hs]
  | pass hs hfree =>
    by_cases hrun : w.running = true
    · simp [view, hrun]
    · have hstored : w.view.setter = .stored := by simp [view, hrun, hs]
      have hwaiter : w.view.waiter ≠ .falling := by
        unfold view
        have hnot := hfree.1
        cases hpc : w.pc <;> simp_all
      have hpass : ({ w with stopPc := .passed } : Worker M).view =
          { w.view with setter := .passed } :=
        CondVar.ext rfl (by simp [view, hrun])
      rw [hpass]
      exact .inr ⟨.pass, by simp, .pass hstored hwaiter⟩
  | notifyAll hs =>
    have hkeeps : w.wakeUp.running = w.running := by
      rcases w.wakeUp_cases with ⟨-, he⟩ | ⟨-, he⟩ <;> rw [he]
    cases hrun : w.running with
    | true =>
      refine hwake (CondVar.ext rfl ?_)
      rw [view_running (hkeeps.trans hrun)]
      exact view_running (hkeeps.trans hrun)
    | false =>
      have hpassed : w.view.setter = .passed := by simp [view, hrun, hs]
      have hview : w.notifyAll.view = { w.view.wakeUp with setter := .notified } := by
        rw [← w.view_wakeUp.1]
        exact CondVar.ext rfl (by simp [view, notifyAll, hkeeps, hrun])
      rw [hview]
      exact .inr ⟨.notifyAll, fun _ => hpassed, .notifyAll (.inr hpassed)⟩
  | join hs _ => exact .inl (by simp [view, hs])
  | loop hstep =>
    rcases loop_view h hstep with hidle | hfall | hsleep
    · exact .inl hidle
    · exact .inr ⟨.fall, by simp, hfall⟩
    · exact .inr ⟨.sleep, by simp, hsleep⟩
  | spurious _ => exact hwake rfl

/-- **`stop()` wakes the thread**: once it has notified, the thread is not
in the wait, nor does it enter it again. -/
theorem stop_wakes {l : List (Worker M × WorkerAction M)} {w : Worker M}
    (r : Run (workerSystem M) l w) (hrun : w.running = false)
    (hs : w.stopPc = .notified ∨ w.stopPc = .returned) : w.pc ≠ .falling ∧ w.pc ≠ .asleep := by
  have hinv : ∀ p ∈ l, p.1.Inv := by
    intro p hp
    obtain ⟨l', t', r', -⟩ := r.source p hp
    exact inv_run r'
  have hview : ∃ l', Run (CondVar.system.restrict fun c b =>
      b = .notifyAll → c.setter = .passed) l' w.view := by
    refine (r.restrict (Q := fun w _ => w.Inv) hinv).simulate view ?_ ?_
    · rintro w rfl
      rfl
    · rintro w a w' ⟨h, hstep⟩
      exact step_view h hstep
  obtain ⟨l', r'⟩ := hview
  obtain ⟨r', hpassed⟩ := r'.of_restrict
  have hnotified : w.view.setter = .notified := by
    rcases hs with hs | hs <;> simp [view, hrun, hs]
  have haway := CondVar.not_waiting_of_passed r' hpassed hnotified
  unfold view at haway
  constructor <;> intro hpc <;> simp [hpc] at haway

/-! ## What is left in the queue -/

/-- The outer `while` finds the worker stopped, and a message pushed
before is still queued. -/
def AbandonsTail (w : Worker M) (a : WorkerAction M) : Prop :=
  a matches .loop ∧ w.pc = .testing ∧ w.running = false ∧ ∃ x ∈ w.queue, x ∈ w.pushedInTime

/-- Every message pushed before `stop()` is handled. -/
def Drained (w : Worker M) : Prop := ∀ x ∈ w.pushedInTime, x ∈ w.handled

/-- What is pushed in time is handled, in hand or queued. -/
theorem Inv.inTime_cases {w : Worker M} (h : w.Inv) {x : Ticket M} (hx : x ∈ w.pushedInTime) :
    x ∈ w.handled ∨ x ∈ w.inHand ∨ x ∈ w.queue := by
  have hpushed := h.shutdown.inTime.subset hx
  rw [h.conserved] at hpushed
  simpa [or_assoc] using hpushed

/-- What is queued is not handled. -/
theorem Inv.queue_not_handled {w : Worker M} (h : w.Inv) {x : Ticket M} (hx : x ∈ w.queue) :
    x ∉ w.handled := by
  intro hhandled
  have hnodup := h.nodup
  rw [h.conserved] at hnodup
  exact List.disjoint_of_nodup_append hnodup (List.mem_append_left _ hhandled) hx

/-- Outside the loop nothing is handled any more, and no push is in
time. -/
theorem finished_step {w w' : Worker M} {a : WorkerAction M} (h : w.Inv) (hpc : w.pc = .finished)
    (hstep : WorkerStep w a w') :
    w'.pc = .finished ∧ w'.handled = w.handled ∧ w'.pushedInTime = w.pushedInTime := by
  have hcalled : w.stopPc ≠ .notCalled :=
    h.shutdown.called (by simp [hpc]) (h.shutdown.finished hpc)
  have hwake : w.wakeUp = w := by
    rcases w.wakeUp_cases with ⟨hasleep, -⟩ | ⟨-, he⟩
    · simp [hpc] at hasleep
    · exact he
  cases hstep with
  | push msg _ => simp [Worker.push, hpc, hcalled]
  | notifyOne _ => simp [notifyOne, hwake, hpc]
  | start hpc' => simp [hpc] at hpc'
  | stop hs => exact absurd hs hcalled
  | pass _ _ => exact ⟨hpc, rfl, rfl⟩
  | notifyAll _ => simp [notifyAll, hwake, hpc]
  | join _ _ => exact ⟨hpc, rfl, rfl⟩
  | loop hstep =>
    cases hstep with
    | test hpc' | wait hpc' | block hpc' | next hpc' | handle hpc' => simp [hpc] at hpc'
  | spurious hpc' => simp [hpc] at hpc'

/-- **The exits.** The step that leaves the loop leaves everything pushed
in time handled, unless it abandons the tail. -/
theorem drained_of_leaving {w w' : Worker M} {a : WorkerAction M} (h : w.Inv)
    (hpc : w.pc ≠ .finished) (hstep : WorkerStep w a w') (hpc' : w'.pc = .finished)
    (ha : ¬ w.AbandonsTail a) : w'.Drained := by
  have hwake : w.wakeUp.pc ≠ .finished := by
    rcases w.wakeUp_cases with ⟨-, he⟩ | ⟨-, he⟩ <;> simp [he, hpc]
  cases hstep with
  | push _ _ => exact absurd hpc' hpc
  | notifyOne _ => exact absurd hpc' hwake
  | start hnot =>
    unfold Worker.start at hpc'
    split at hpc' <;> simp_all
  | stop _ => rcases w.stop_cases with ⟨-, he⟩ | ⟨-, he⟩ <;> simp_all
  | pass _ _ => exact absurd hpc' hpc
  | notifyAll _ => exact absurd hpc' hwake
  | join _ hdone => exact absurd hdone hpc
  | spurious _ => exact absurd hpc' hwake
  | loop hstep =>
    cases hstep with
    | test htest =>
      rcases w.test_cases with ⟨-, he⟩ | ⟨hrun, he⟩
      · simp [he] at hpc'
      · rw [he]
        intro x hx
        rcases h.inTime_cases hx with hhandled | hhand | hqueue
        · exact hhandled
        · simp [inHand, htest] at hhand
        · exact absurd ⟨rfl, htest, hrun, x, hqueue, hx⟩ ha
    | wait _ => rcases w.wait_cases with ⟨-, he⟩ | ⟨-, -, he⟩ <;> simp [he] at hpc'
    | block _ => simp at hpc'
    | next hpassed =>
      rcases next_cases (h.shutdown.passed hpassed) with ⟨hq, -, he⟩ | ⟨msg, queue, -, he⟩
      · rw [he]
        intro x hx
        rcases h.inTime_cases hx with hhandled | hhand | hqueue
        · exact hhandled
        · simp [inHand, hpassed] at hhand
        · simp [hq] at hqueue
      · simp [he] at hpc'
    | handle _ => simp [Worker.handle] at hpc'

/-- The step that abandons the tail leaves the loop with a message pushed
in time unhandled. -/
theorem not_drained_of_abandons {w w' : Worker M} {a : WorkerAction M} (h : w.Inv)
    (ha : w.AbandonsTail a) (hstep : WorkerStep w a w') :
    w'.pc = .finished ∧ ¬ w'.Drained := by
  obtain ⟨hloop, hpc, hrun, x, hx, hinTime⟩ := ha
  cases hstep with
  | loop hstep =>
    cases hstep with
    | test _ =>
      rcases w.test_cases with ⟨hrun', -⟩ | ⟨-, he⟩
      · simp [hrun] at hrun'
      · rw [he]
        exact ⟨rfl, fun hdrained => h.queue_not_handled hx (hdrained x hinTime)⟩
    | wait hpc' | block hpc' | next hpc' | handle hpc' => simp [hpc] at hpc'
  | push | notifyOne | start | stop | pass | notifyAll | join | spurious => simp at hloop

/-- Along a run: once the loop is left, all that was pushed in time is
handled exactly if no step abandoned the tail. -/
theorem drained_run {l : List (Worker M × WorkerAction M)} {w : Worker M}
    (r : Run (workerSystem M) l w) :
    ((∀ p ∈ l, ¬ p.1.AbandonsTail p.2) → w.pc = .finished → w.Drained) ∧
      ((∃ p ∈ l, p.1.AbandonsTail p.2) → w.pc = .finished ∧ ¬ w.Drained) := by
  induction r with
  | start h =>
    obtain rfl := h
    simp
  | @step l w w' a r hstep ih =>
    have hinv := inv_run r
    have hkeeps (hpc : w.pc = .finished) : w'.pc = .finished ∧ (w'.Drained ↔ w.Drained) := by
      obtain ⟨hpc', hhandled, hinTime⟩ := finished_step hinv hpc hstep
      unfold Drained
      rw [hhandled, hinTime]
      exact ⟨hpc', Iff.rfl⟩
    constructor
    · intro hall hpc'
      rw [List.forall_mem_cons] at hall
      by_cases hpc : w.pc = .finished
      · exact (hkeeps hpc).2.mpr (ih.1 hall.2 hpc)
      · exact drained_of_leaving hinv hpc hstep hpc' hall.1
    · rintro ⟨p, hp, ha⟩
      rcases List.mem_cons.mp hp with rfl | hp
      · exact not_drained_of_abandons hinv ha hstep
      · obtain ⟨hpc, hnot⟩ := ih.2 ⟨p, hp, ha⟩
        exact ⟨(hkeeps hpc).1, fun hd => hnot ((hkeeps hpc).2.mp hd)⟩

/-- **When `stop()` loses a message.** In every interleaving the messages
passed to the callback are the first of those pushed, in order and each
once; and when `stop()` has returned, all that was pushed before it was
called is handled exactly if the outer `while` never found the worker
stopped with such a message still queued. -/
theorem stop_loses_no_message {l : List (Worker M × WorkerAction M)} {w : Worker M}
    (r : Run (workerSystem M) l w) :
    w.handled <+: w.pushed ∧ w.handled.Nodup ∧
      (w.stopPc = .returned →
        ((∀ x ∈ w.pushedInTime, x ∈ w.handled) ↔ ∀ p ∈ l, ¬ p.1.AbandonsTail p.2)) := by
  have hinv := inv_run r
  refine ⟨hinv.handled_prefix, hinv.nodup.sublist hinv.handled_prefix.sublist, ?_⟩
  intro hreturned
  obtain ⟨hsome, hnone⟩ := drained_run r
  constructor
  · intro hdrained p hp ha
    exact (hnone ⟨p, hp, ha⟩).2 hdrained
  · intro hall
    exact hsome hall (hinv.shutdown.returned hreturned)

/-- A worker that is blocked when the message and then `stop()` come. -/
theorem stop_loses_no_message_asleep :
    ∃ (l : List (Worker Nat × WorkerAction Nat)) (w : Worker Nat),
      Run (workerSystem Nat) l w ∧ (∀ p ∈ l, ¬ p.1.AbandonsTail p.2) ∧
        w.stopPc = .returned ∧ w.pushedInTime = [(0, 7)] ∧ w.handled = [(0, 7)] := by
  have r : Run (workerSystem Nat) [] { onMessage := true } := .start rfl
  have r := (r.next .start (.start rfl)).next .loop (.loop (.test rfl))
  have r := (r.next .loop (.loop (.wait rfl))).next .loop (.loop (.block rfl))
  have r := r.next (.push 7) (.push 7 ⟨by decide, by decide⟩)
  have r := r.next .notifyOne (.notifyOne (by decide))
  have r := (r.next .loop (.loop (.wait rfl))).next .loop (.loop (.next rfl))
  have r := (r.next .loop (.loop (.handle rfl))).next .stop (.stop rfl)
  have r := (r.next .loop (.loop (.test rfl))).next .pass (.pass rfl ⟨by decide, by decide⟩)
  have r := (r.next .notifyAll (.notifyAll rfl)).next .join (.join rfl rfl)
  have hkept := ((stop_loses_no_message r).2.2 rfl).mp fun _ hx => hx
  exact ⟨_, _, r, hkept, rfl, rfl, rfl⟩

/-- Two messages are pushed while the first is handled, then `stop()` is
called: the outer `while` leaves without the second. -/
theorem stop_loses_message :
    ∃ (l : List (Worker Nat × WorkerAction Nat)) (w : Worker Nat),
      Run (workerSystem Nat) l w ∧ w.stopPc = .returned ∧
        w.pushedInTime = [(0, 7), (1, 8)] ∧ w.handled = [(0, 7)] := by
  have r : Run (workerSystem Nat) [] { onMessage := true } := .start rfl
  have r := r.next (.push 7) (.push 7 ⟨by decide, by decide⟩)
  have r := (r.next .start (.start rfl)).next .loop (.loop (.test rfl))
  have r := (r.next .loop (.loop (.wait rfl))).next .loop (.loop (.next rfl))
  have r := r.next (.push 8) (.push 8 ⟨by decide, by decide⟩)
  have r := (r.next .loop (.loop (.handle rfl))).next .stop (.stop rfl)
  have r := (r.next .loop (.loop (.test rfl))).next .pass (.pass rfl ⟨by decide, by decide⟩)
  have r := (r.next .notifyAll (.notifyAll rfl)).next .join (.join rfl rfl)
  exact ⟨_, _, r, rfl, rfl, rfl⟩

end Worker

end MmorpgServer.Core
