/-
MmorpgServer.Storage.DbWorkerTheorems — what `DBWorker` promises whoever
pushes to it, in every interleaving.

`Conserved` accounts for the jobs: what was accepted is what was handled,
then the job in hand, then the queue. `Drained` is the side of `stop()`:
the worker leaves its loop only with an empty queue and after `stop()`,
so what was accepted before is handled by then. `Numbered` tells the
calls apart.
-/
import MmorpgServer.Storage.DbWorker
import MmorpgServer.Storage.StorageSystem

namespace MmorpgServer.Storage

open MmorpgServer.Lib

universe u

variable {J : Type u}

namespace DBWorker

/-! ## `try_push` -/

/-- The queue of `StorageSystem::Impl` takes a job exactly when the one of
its `DBWorker` does. -/
theorem tryPush_queue {F : Type} (s : Impl F) (w : DBWorker DbJob) (job : DbJob)
    (h : s.queue = w.q.map Prod.snd) :
    (s.tryPush job).1.queue = (w.tryPush job).1.q.map Prod.snd ∧
      (s.tryPush job).2 = (w.tryPush job).2 := by
  rcases Nat.lt_or_ge w.q.length 360 with hroom | hfull
  · simp [Impl.tryPush, tryPush, Storage.maxQueue, maxQueue, h, Nat.not_le.mpr hroom]
  · simp [Impl.tryPush, tryPush, Storage.maxQueue, maxQueue, h, hfull]

/-- A push is refused, or appended to the queue and to what is accepted. -/
theorem tryPush_cases (w : DBWorker J) (job : J) :
    (w.tryPush job).1 =
        { w with calls := w.calls + 1, rejected := w.rejected ++ [(w.calls, job)] } ∨
      (w.tryPush job).1 =
        { w with
          calls := w.calls + 1
          q := w.q ++ [(w.calls, job)]
          accepted := w.accepted ++ [(w.calls, job)]
          acceptedInTime :=
            if w.stopped then w.acceptedInTime else w.acceptedInTime ++ [(w.calls, job)] } := by
  unfold tryPush
  by_cases hfull : w.q.length ≥ maxQueue
  · exact Or.inl (by simp [hfull])
  · exact Or.inr (by simp [hfull])

/-! ## No job is lost -/

/-- The job popped and not handed over yet. -/
def inHand (w : DBWorker J) : List (Ticket J) :=
  match w.pc with
  | .handling job => [job]
  | _ => []

/-- Every accepted job is handled, in hand or queued, in this order. -/
def Conserved (w : DBWorker J) : Prop := w.accepted = w.handled ++ w.inHand ++ w.q

theorem Conserved.tryPush {w : DBWorker J} (h : w.Conserved) (job : J) :
    (w.tryPush job).1.Conserved := by
  rcases w.tryPush_cases job with he | he
  · rw [he]
    exact h
  · rw [he]
    change w.accepted ++ _ = w.handled ++ w.inHand ++ (w.q ++ _)
    rw [h, List.append_assoc _ w.q]

theorem Conserved.run {w w' : DBWorker J} (h : w.Conserved) (hstep : RunStep w w') :
    w'.Conserved := by
  unfold Conserved inHand at h
  cases hstep with
  | onStart hpc => simpa [Conserved, inHand, hpc] using h
  | wait hpc =>
    unfold DBWorker.wait
    split <;> simpa [Conserved, inHand, hpc] using h
  | wake hpc => simpa [Conserved, inHand, hpc] using h
  | next hpc =>
    unfold DBWorker.next
    split
    · simpa [Conserved, inHand, hpc] using h
    · cases hq : w.q with
      | nil => simpa [Conserved, inHand, hpc, hq] using h
      | cons job q => simpa [Conserved, inHand, hpc, hq] using h
  | handle hpc => simpa [Conserved, inHand, hpc, DBWorker.handle] using h
  | onStop hpc => simpa [Conserved, inHand, hpc] using h

theorem Conserved.step {w w' : DBWorker J} {a : DBWorkerAction J} (h : w.Conserved)
    (hstep : DBWorkerStep w a w') : w'.Conserved := by
  cases hstep with
  | tryPush job _ => exact h.tryPush job
  | start hpc => simpa [Conserved, inHand, hpc, DBWorker.start] using h
  | stop _ => exact h
  | run hrun => exact h.run hrun

/-! ## The queue is drained before the loop is left -/

/-- Where `stop()` and the end of the loop stand. -/
structure Drained (w : DBWorker J) : Prop where
  inTime : w.acceptedInTime <+: w.accepted
  open' : w.stopped = false → w.acceptedInTime = w.accepted
  stopped : w.pc ≠ .notStarted → w.running = false → w.stopped = true
  passed : w.pc = .passed → w.q ≠ [] ∨ w.running = false
  left : w.pc = .left ∨ w.pc = .finished → w.stopped = true ∧ w.acceptedInTime <+: w.handled

theorem Drained.tryPush {w : DBWorker J} (h : w.Drained) (job : J) :
    (w.tryPush job).1.Drained := by
  rcases w.tryPush_cases job with he | he
  · rw [he]
    exact ⟨h.inTime, h.open', h.stopped, h.passed, h.left⟩
  · rw [he]
    cases hs : w.stopped with
    | false =>
      have hopen := h.open' hs
      constructor
      · simp [hopen]
      · simp [hopen]
      · simpa [hs] using h.stopped
      · simp
      · intro hl
        have hstop := (h.left hl).1
        simp [hs] at hstop
    | true =>
      constructor
      · simpa using h.inTime.trans (List.prefix_append _ _)
      · simp
      · simp
      · simp
      · intro hl
        simpa using (h.left hl).2

/-- The two tests after the wait: out of the loop only with an empty queue
and `running_` false; the front of the queue is there otherwise. -/
theorem next_cases {w : DBWorker J} (h : w.Drained) (hpc : w.pc = .passed) :
    (w.q = [] ∧ w.running = false ∧ w.next = { w with pc := .left }) ∨
      ∃ job q, w.q = job :: q ∧ w.next = { w with q, pc := .handling job } := by
  cases hq : w.q with
  | nil =>
    have hrun : w.running = false := (h.passed hpc).resolve_left (by simp [hq])
    exact Or.inl ⟨rfl, hrun, by simp [DBWorker.next, hq, hrun]⟩
  | cons job q => exact Or.inr ⟨job, q, rfl, by simp [DBWorker.next, hq]⟩

theorem Drained.run {w w' : DBWorker J} (h : w.Drained) (hc : w.Conserved)
    (hstep : RunStep w w') : w'.Drained := by
  cases hstep with
  | onStart hpc =>
    exact ⟨h.inTime, h.open', fun _ => h.stopped (by simp [hpc]), by simp, by simp⟩
  | wait hpc =>
    have hstopped := h.stopped (by simp [hpc])
    unfold DBWorker.wait
    split
    · rename_i hcond
      have hpass : w.q ≠ [] ∨ w.running = false := by simpa using hcond
      exact ⟨h.inTime, h.open', fun _ => hstopped, fun _ => hpass, by simp⟩
    · exact ⟨h.inTime, h.open', fun _ => hstopped, by simp, by simp⟩
  | wake hpc =>
    exact ⟨h.inTime, h.open', fun _ => h.stopped (by simp [hpc]), by simp, by simp⟩
  | next hpc =>
    have hstopped := h.stopped (by simp [hpc])
    rcases next_cases h hpc with ⟨hq, hrun, he⟩ | ⟨job, q, _, he⟩
    · -- nothing in hand and nothing queued: all that was accepted is handled
      have hall : w.accepted = w.handled := by simpa [Conserved, inHand, hpc, hq] using hc
      rw [he]
      exact ⟨h.inTime, h.open', fun _ => hstopped, by simp,
        fun _ => ⟨hstopped hrun, hall ▸ h.inTime⟩⟩
    · rw [he]
      exact ⟨h.inTime, h.open', fun _ => hstopped, by simp, by simp⟩
  | handle hpc =>
    exact ⟨h.inTime, h.open', fun _ => h.stopped (by simp [hpc]), by simp [DBWorker.handle],
      by simp [DBWorker.handle]⟩
  | onStop hpc =>
    exact ⟨h.inTime, h.open', fun _ => h.stopped (by simp [hpc]), by simp,
      fun _ => h.left (Or.inl hpc)⟩

theorem Drained.step {w w' : DBWorker J} {a : DBWorkerAction J} (h : w.Drained)
    (hc : w.Conserved) (hstep : DBWorkerStep w a w') : w'.Drained := by
  cases hstep with
  | tryPush job _ => exact h.tryPush job
  | start _ => exact ⟨h.inTime, h.open', by simp [DBWorker.start], by simp [DBWorker.start],
      by simp [DBWorker.start]⟩
  | stop hs =>
    refine ⟨h.inTime, by simp [DBWorker.stop], by simp [DBWorker.stop], fun _ => Or.inr rfl,
      fun hl => ?_⟩
    have hstop := (h.left hl).1
    simp [hs] at hstop
  | run hrun => exact h.run hc hrun

/-! ## The calls have different numbers -/

/-- Numbers grow in the order of acceptance, and no number is both
accepted and rejected. -/
structure Numbered (w : DBWorker J) : Prop where
  accepted : ∀ x ∈ w.accepted, x.1 < w.calls
  rejected : ∀ x ∈ w.rejected, x.1 < w.calls
  ordered : w.accepted.Pairwise fun x y => x.1 < y.1
  disjoint : ∀ x ∈ w.accepted, ∀ y ∈ w.rejected, x.1 ≠ y.1

theorem Numbered.tryPush {w : DBWorker J} (h : w.Numbered) (job : J) :
    (w.tryPush job).1.Numbered := by
  have hlt {l : List (Ticket J)} (hl : ∀ x ∈ l, x.1 < w.calls) :
      (∀ x ∈ l, x.1 < w.calls + 1) ∧ ∀ x ∈ l ++ [(w.calls, job)], x.1 < w.calls + 1 := by
    simp only [List.mem_append, List.mem_singleton]
    grind
  rcases w.tryPush_cases job with he | he
  · rw [he]
    refine ⟨(hlt h.accepted).1, (hlt h.rejected).2, h.ordered, ?_⟩
    intro x hx y hy
    rcases List.mem_append.mp hy with hy | hy
    · exact h.disjoint x hx y hy
    · obtain rfl := List.mem_singleton.mp hy
      have hlt := h.accepted x hx
      omega
  · rw [he]
    refine ⟨(hlt h.accepted).2, (hlt h.rejected).1, ?_, ?_⟩
    · simpa [List.pairwise_append, h.ordered] using h.accepted
    · intro x hx y hy
      rcases List.mem_append.mp hx with hx | hx
      · exact h.disjoint x hx y hy
      · obtain rfl := List.mem_singleton.mp hx
        have hlt := h.rejected y hy
        omega

theorem Numbered.step {w w' : DBWorker J} {a : DBWorkerAction J} (h : w.Numbered)
    (hstep : DBWorkerStep w a w') : w'.Numbered := by
  cases hstep with
  | tryPush job _ => exact h.tryPush job
  | start _ => exact ⟨h.accepted, h.rejected, h.ordered, h.disjoint⟩
  | stop _ => exact ⟨h.accepted, h.rejected, h.ordered, h.disjoint⟩
  | run hrun =>
    cases hrun with
    | wait _ => unfold DBWorker.wait; split <;> exact ⟨h.accepted, h.rejected, h.ordered, h.disjoint⟩
    | next _ =>
      unfold DBWorker.next
      split
      · exact ⟨h.accepted, h.rejected, h.ordered, h.disjoint⟩
      · split <;> exact ⟨h.accepted, h.rejected, h.ordered, h.disjoint⟩
    | _ => exact ⟨h.accepted, h.rejected, h.ordered, h.disjoint⟩

theorem Numbered.nodup {w : DBWorker J} (h : w.Numbered) : w.accepted.Nodup :=
  h.ordered.imp fun hlt he => by simp [he] at hlt

/-! ## Runs -/

theorem run_inv {l : List (DBWorker J × DBWorkerAction J)} {w : DBWorker J}
    (r : Run (dbWorkerSystem J) l w) : w.Conserved ∧ w.Drained ∧ w.Numbered := by
  refine r.invariant (I := fun w => w.Conserved ∧ w.Drained ∧ w.Numbered) ?_ ?_
  · rintro w rfl
    exact ⟨rfl, ⟨List.prefix_rfl, fun _ => rfl, by simp, by simp, by simp⟩,
      ⟨by simp, by simp, List.Pairwise.nil, by simp⟩⟩
  · rintro w a w' ⟨hc, hd, hn⟩ hstep
    exact ⟨hc.step hstep, hd.step hc hstep, hn.step hstep⟩

/-- **Exactly once, in order.** In every interleaving the handled jobs are
the first of the accepted ones; once the loop is left, all that was
accepted before `stop()` is handled; nothing is handled twice, and
nothing refused is handled. -/
theorem jobs_handled_once_in_order {l : List (DBWorker J × DBWorkerAction J)} {w : DBWorker J}
    (r : Run (dbWorkerSystem J) l w) :
    w.handled <+: w.accepted ∧
      (w.pc = .left ∨ w.pc = .finished → ∀ x ∈ w.acceptedInTime, x ∈ w.handled) ∧
      w.handled.Nodup ∧ ∀ x ∈ w.rejected, x ∉ w.handled := by
  obtain ⟨hc, hd, hn⟩ := run_inv r
  have hearlier : w.handled <+: w.accepted := by
    rw [hc, List.append_assoc]
    exact List.prefix_append _ _
  refine ⟨hearlier, fun hleft x hx => (hd.left hleft).2.subset hx,
    hn.nodup.sublist hearlier.sublist, fun x hx hhandled => ?_⟩
  exact hn.disjoint x (hearlier.subset hhandled) x hx rfl

/-- A worker that is stopped between two pushes, after the first of which
it had gone to sleep: it handles both and leaves. -/
theorem jobs_handled_once_in_order_two :
    ∃ w : DBWorker Nat, w.pc = .left ∧ w.handled = [(0, 7), (1, 8)] ∧
      ∀ x ∈ w.acceptedInTime, x ∈ w.handled := by
  have r : Run (dbWorkerSystem Nat) [] {} := .start rfl
  have r := ((r.next .start (.start rfl)).next .run (.run (.onStart rfl))).next .run
    (.run (.wait rfl))
  have r := (r.next (.tryPush 7) (.tryPush 7 (by decide))).next .run (.run (.wake rfl))
  have r := (r.next .run (.run (.wait rfl))).next .run (.run (.next rfl))
  have r := (r.next (.tryPush 8) (.tryPush 8 (by decide))).next .stop (.stop rfl)
  have r := (r.next .run (.run (.handle rfl))).next .run (.run (.wait rfl))
  have r := (r.next .run (.run (.next rfl))).next .run (.run (.handle rfl))
  have r := (r.next .run (.run (.wait rfl))).next .run (.run (.next rfl))
  exact ⟨_, rfl, rfl, (jobs_handled_once_in_order r).2.1 (Or.inl rfl)⟩

end DBWorker

end MmorpgServer.Storage
