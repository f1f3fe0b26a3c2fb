/-
MmorpgServer.Worker.CoreWorker — `core::Worker` of `worker/worker.h` and
`worker/worker.cpp`: a queue that any thread pushes to and one thread
drains.

* `LoopPc` — where the thread is in `loop()`. `running_` is read by the
  outer `while`, by the predicate of the wait and by the test behind it,
  each time anew.
* `StopPc` — where the thread is that calls `stop()`: the exchange of
  `running_`, the mutex taken and released, `notify_all`, `join`.
* `workerSystem` — every interleaving of pushes, the steps of `loop()`,
  `start()` and one `stop()`. The callback is set before, as the
  constructor of `FieldWorker` does.

Each call of `push` has a number, which its message carries along: two
calls may push equal messages.
-/
import MmorpgServer.Lib.TransitionSystem

namespace MmorpgServer.Core

open MmorpgServer.Lib

universe u

/-! ## The worker -/

/-- A message and the number of the `push` call it came with. -/
abbrev Ticket (M : Type u) := Nat × M

/-- Where the thread of `loop()` is. -/
inductive LoopPc (M : Type u) where
  /-- before `start()` -/
  | notStarted
  /-- before the test of the outer `while` -/
  | testing
  /-- before the mutex is taken and the predicate of the wait evaluated -/
  | locking
  /-- the predicate was false; the mutex is not released yet -/
  | falling
  /-- inside the wait, without the mutex -/
  | asleep
  /-- the wait is over, the mutex held -/
  | passed
  /-- the message is popped, `on_message_` not called yet -/
  | handling (msg : Ticket M)
  /-- `loop()` has returned -/
  | finished
  deriving DecidableEq

/-- Where the thread is that calls `stop()`. -/
inductive StopPc where
  | notCalled
  /-- it has returned at once: the worker was not running -/
  | ignored
  /-- `running_` is false -/
  | stored
  /-- the mutex has been taken and released -/
  | passed
  /-- before `join()` -/
  | notified
  /-- the thread is joined -/
  | returned
  deriving DecidableEq, Repr

/-- `Worker`. The fields from `pushed` on are not part of the program:
they record what was asked of it and what it did. -/
structure Worker (M : Type u) where
  running : Bool := false
  queue : List (Ticket M) := []
  /-- whether `on_message_` is set -/
  onMessage : Bool := false
  pc : LoopPc M := .notStarted
  stopPc : StopPc := .notCalled
  /-- the number of `push` calls before their `notify_one` -/
  notifying : Nat := 0
  /-- the messages pushed, in the order of the calls -/
  pushed : List (Ticket M) := []
  /-- those of them pushed before `stop()` was called -/
  pushedInTime : List (Ticket M) := []
  /-- the messages passed to `on_message_`, in this order -/
  handled : List (Ticket M) := []

namespace Worker

variable {M : Type u}

/-- The mutex is not held by the thread of `loop()`. -/
def MutexFree (w : Worker M) : Prop := w.pc ≠ .falling ∧ w.pc ≠ .passed

/-- What a notification does: a blocked thread is before the mutex
again. -/
def wakeUp (w : Worker M) : Worker M :=
  match w.pc with
  | .asleep => { w with pc := .locking }
  | _ => w

/-- `push`, up to the end of its section under the mutex. -/
def push (w : Worker M) (msg : M) : Worker M :=
  let x : Ticket M := (w.pushed.length, msg)
  { w with
    queue := w.queue ++ [x]
    notifying := w.notifying + 1
    pushed := w.pushed ++ [x]
    pushedInTime := if w.stopPc = .notCalled then w.pushedInTime ++ [x] else w.pushedInTime }

/-- `cv_.notify_one()` of `push`. -/
def notifyOne (w : Worker M) : Worker M := { w.wakeUp with notifying := w.notifying - 1 }

/-- `start()`. -/
def start (w : Worker M) : Worker M :=
  if w.running then w else { w with running := true, pc := .testing }

/-- The exchange of `running_` in `stop()`. -/
def stop (w : Worker M) : Worker M :=
  if w.running then { w with running := false, stopPc := .stored }
  else { w with stopPc := .ignored }

/-- `cv_.notify_all()` of `stop()`. -/
def notifyAll (w : Worker M) : Worker M := { w.wakeUp with stopPc := .notified }

/-- The test of the outer `while`. -/
def test (w : Worker M) : Worker M :=
  if w.running then { w with pc := .locking } else { w with pc := .finished }

/-- The mutex is taken and the predicate of the wait evaluated. -/
def wait (w : Worker M) : Worker M :=
  if !w.running || !w.queue.isEmpty then { w with pc := .passed } else { w with pc := .falling }

/-- What follows the wait: `break`, or the front of the queue. -/
def next (w : Worker M) : Worker M :=
  if !w.running && w.queue.isEmpty then { w with pc := .finished }
  else match w.queue with
    | [] => w
    | msg :: queue => { w with queue, pc := .handling msg }

/-- `on_message_(msg)`. -/
def handle (w : Worker M) (msg : Ticket M) : Worker M :=
  { w with
    handled := if w.onMessage then w.handled ++ [msg] else w.handled
    pc := .testing }

end Worker

/-! ## The system -/

/-- The steps of the threads. -/
inductive WorkerAction (M : Type u) where
  | push (msg : M)
  | notifyOne
  | start
  | stop
  /-- `stop()` takes the mutex and releases it -/
  | pass
  | notifyAll
  | join
  /-- the next step of `loop()` -/
  | loop
  /-- the wait returns without a notification -/
  | spurious

/-- One step of `loop()`. -/
inductive Worker.LoopStep {M : Type u} (w : Worker M) : Worker M → Prop
  | test (h : w.pc = .testing) : LoopStep w w.test
  | wait (h : w.pc = .locking) : LoopStep w w.wait
  | block (h : w.pc = .falling) : LoopStep w { w with pc := .asleep }
  | next (h : w.pc = .passed) : LoopStep w w.next
  | handle {msg : Ticket M} (h : w.pc = .handling msg) : LoopStep w (w.handle msg)

/-- One step of any thread. -/
inductive WorkerStep {M : Type u} (w : Worker M) : WorkerAction M → Worker M → Prop
  | push (msg : M) (h : w.MutexFree) : WorkerStep w (.push msg) (w.push msg)
  | notifyOne (h : 0 < w.notifying) : WorkerStep w .notifyOne w.notifyOne
  | start (h : w.pc = .notStarted) : WorkerStep w .start w.start
  | stop (h : w.stopPc = .notCalled) : WorkerStep w .stop w.stop
  | pass (h : w.stopPc = .stored) (hfree : w.MutexFree) :
    WorkerStep w .pass { w with stopPc := .passed }
  | notifyAll (h : w.stopPc = .passed) : WorkerStep w .notifyAll w.notifyAll
  | join (h : w.stopPc = .notified) (hdone : w.pc = .finished) :
    WorkerStep w .join { w with stopPc := .returned }
  | loop {w' : Worker M} (h : w.LoopStep w') : WorkerStep w .loop w'
  | spurious (h : w.pc = .asleep) : WorkerStep w .spurious w.wakeUp

/-- A worker with a callback, from its construction on. -/
def workerSystem (M : Type u) : System (Worker M) (WorkerAction M) where
  init w := w = { onMessage := true }
  step := WorkerStep

end MmorpgServer.Core
