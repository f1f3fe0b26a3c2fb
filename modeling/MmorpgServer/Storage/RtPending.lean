/-
MmorpgServer.Storage.RtPending — `rt_q_` and the counter `rt_pending_` of
`storage/StorageSystem.cpp`.

* `enqueue_rt_write` pushes under `rt_mu_` and adds 1 to the counter
  afterwards: two steps, of any number of threads at a time.
* `flush_rt_writes` swaps the queue out under `rt_mu_` and subtracts its
  length afterwards: two steps of the worker. What it does then, with
  Redis, reads neither the queue nor the counter.
* `on_timer` reads the counter, without a lock, when it has stolen no
  user. It is `Tick.timer`, one tick after the other; any `try_push` may
  fail.
-/
import MmorpgServer.Storage.Tick

namespace MmorpgServer.Storage

open MmorpgServer.Lib

/-- The storage system, and which calls are between their two steps. -/
structure RtPending (F : Type) where
  impl : Impl F := {}
  tick : Tick := {}
  /-- the calls of `enqueue_rt_write` that have pushed and not counted -/
  calls : Finset Nat := ∅
  /-- `flush_rt_writes` has swapped and not subtracted -/
  swapped : Bool := false

/-- A step of a call of `enqueue_rt_write`, of `flush_rt_writes`, of
`mark_dirty` or of `on_timer`. -/
inductive RtPendingAction (F : Type) where
  | push (call : Nat) (snapshot : UserSnapshot F)
  | count (call : Nat)
  | swap
  | subtract
  | mark (uid : Uid)
  | timer (order : Enumeration Uid) (taken : Bool)

namespace RtPending

variable {F : Type}

/-- `on_timer` goes on, or fires again. -/
def timer (maxBatchUids : UInt64) (order : Enumeration Uid) (taken : Bool) (s : RtPending F) :
    Tick :=
  if s.tick.pc = .done then { dirty := s.tick.dirty }
  else s.tick.timer (max 1 maxBatchUids) order (s.impl.rtPending > 0) taken

/-- When a step may be taken. -/
def Enabled (s : RtPending F) : RtPendingAction F → Prop
  | .push call _ => call ∉ s.calls
  | .count call => call ∈ s.calls
  | .swap => s.swapped = false
  | .subtract => s.swapped = true
  | .mark _ => True
  | .timer _ _ => True

instance (s : RtPending F) : (a : RtPendingAction F) → Decidable (s.Enabled a)
  | .push call _ => inferInstanceAs (Decidable (call ∉ s.calls))
  | .count call => inferInstanceAs (Decidable (call ∈ s.calls))
  | .swap => inferInstanceAs (Decidable (s.swapped = false))
  | .subtract => inferInstanceAs (Decidable (s.swapped = true))
  | .mark _ => .isTrue trivial
  | .timer _ _ => .isTrue trivial

/-- The step. -/
def next (maxBatchUids : UInt64) (s : RtPending F) : RtPendingAction F → RtPending F
  | .push call snapshot =>
    { s with impl := s.impl.enqueuePush snapshot, calls := insert call s.calls }
  | .count call => { s with impl := s.impl.enqueueCount, calls := s.calls.erase call }
  -- an empty queue is left alone, and `flush_rt_writes` returns
  | .swap => { s with impl := s.impl.flushSwap, swapped := !s.impl.rtQ.isEmpty }
  | .subtract => { s with impl := s.impl.flushSubtract, swapped := false }
  | .mark uid => { s with tick := s.tick.mark uid }
  | .timer order taken => { s with tick := s.timer maxBatchUids order taken }

/-- The snapshots swapped out and not yet subtracted. -/
def swappedOut (s : RtPending F) : List (UserSnapshot F) :=
  if s.swapped then s.impl.rtLocal else []

/-- No call is between its two steps, and the length of the queue fits
the counter. -/
structure Quiet (s : RtPending F) : Prop where
  calls : s.calls = ∅
  swapped : s.swapped = false
  length : s.impl.rtQ.length < 2 ^ 32

end RtPending

/-- The queue and its counter, from the construction of the storage
system on. -/
def rtPendingSystem (F : Type) (maxBatchUids : UInt64) :
    System (RtPending F) (RtPendingAction F) :=
  .ofFn {} RtPending.Enabled (RtPending.next maxBatchUids)

end MmorpgServer.Storage
