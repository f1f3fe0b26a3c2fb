/-
MmorpgServer.Storage.DbWorker — `DBWorker` of `storage/DBWorker.h` and
`storage/DBWorker.cpp`: a bounded queue that any thread pushes to and one
thread drains.

* `DBWorker.tryPush` — `try_push`, a section under the mutex.
* `Pc` — where the worker thread is in `run()`. The predicate of the wait
  and the test after it read `running_` one after the other with the mutex
  held, while `stop()` writes it without: they are two steps.
* `dbWorkerSystem` — every interleaving of pushes, the steps of `run()`,
  `start()` and one `stop()`. A wait on a condition variable may return at
  any time, so a notification allows nothing that is not allowed anyway.

Each call of `try_push` has a number, which its job carries along: two
calls may push equal jobs.
-/
import MmorpgServer.Lib.TransitionSystem

namespace MmorpgServer.Storage

open MmorpgServer.Lib

universe u

/-! ## The worker -/

/-- A job and the number of the `try_push` call it came with. -/
abbrev Ticket (J : Type u) := Nat × J

/-- Where the worker thread is. -/
inductive Pc (J : Type u) where
  /-- before `start()` -/
  | notStarted
  /-- before `on_start_` -/
  | starting
  /-- before the mutex is taken and the predicate of the wait evaluated -/
  | waiting
  /-- inside the wait, without the mutex -/
  | blocked
  /-- the wait is over, the mutex held -/
  | passed
  /-- the job is popped, `handler_` not called yet -/
  | handling (job : Ticket J)
  /-- out of the loop, before `on_stop_` -/
  | left
  /-- `run()` has returned -/
  | finished
  deriving DecidableEq

/-- `DBWorker`. The fields from `calls` on are not part of the program:
they record what was asked of it and what it did. -/
structure DBWorker (J : Type u) where
  q : List (Ticket J) := []
  running : Bool := false
  pc : Pc J := .notStarted
  calls : Nat := 0
  /-- whether `stop()` has been called -/
  stopped : Bool := false
  /-- the jobs `try_push` returned true for, in the order of the calls -/
  accepted : List (Ticket J) := []
  /-- those of them accepted before `stop()` -/
  acceptedInTime : List (Ticket J) := []
  /-- the jobs `try_push` returned false for -/
  rejected : List (Ticket J) := []
  /-- the jobs passed to `handler_`, in this order -/
  handled : List (Ticket J) := []

namespace DBWorker

variable {J : Type u}

/-- `max_queue_`. -/
def maxQueue : Nat := 360

/-- `try_push`, with its result. -/
def tryPush (w : DBWorker J) (job : J) : DBWorker J × Bool :=
  let x : Ticket J := (w.calls, job)
  let w := { w with calls := w.calls + 1 }
  if w.q.length ≥ maxQueue then ({ w with rejected := w.rejected ++ [x] }, false)
  else
    ({ w with
        q := w.q ++ [x]
        accepted := w.accepted ++ [x]
        acceptedInTime := if w.stopped then w.acceptedInTime else w.acceptedInTime ++ [x] },
      true)

/-- `start()`. -/
def start (w : DBWorker J) : DBWorker J := { w with running := true, pc := .starting }

/-- `stop()`. -/
def stop (w : DBWorker J) : DBWorker J := { w with running := false, stopped := true }

/-- The mutex is taken and the predicate of the wait evaluated. -/
def wait (w : DBWorker J) : DBWorker J :=
  if !w.q.isEmpty || !w.running then { w with pc := .passed } else { w with pc := .blocked }

/-- What follows the wait: `break`, or the front of the queue. -/
def next (w : DBWorker J) : DBWorker J :=
  if !w.running && w.q.isEmpty then { w with pc := .left }
  else match w.q with
    | [] => w
    | job :: q => { w with q, pc := .handling job }

/-- `handler_(job)`. -/
def handle (w : DBWorker J) (job : Ticket J) : DBWorker J :=
  { w with handled := w.handled ++ [job], pc := .waiting }

end DBWorker

/-! ## The system -/

/-- The steps of the threads. -/
inductive DBWorkerAction (J : Type u) where
  | tryPush (job : J)
  | start
  | stop
  /-- the worker thread's next step -/
  | run

/-- One step of `run()`. -/
inductive RunStep {J : Type u} (w : DBWorker J) : DBWorker J → Prop
  | onStart (h : w.pc = .starting) : RunStep w { w with pc := .waiting }
  | wait (h : w.pc = .waiting) : RunStep w w.wait
  | wake (h : w.pc = .blocked) : RunStep w { w with pc := .waiting }
  | next (h : w.pc = .passed) : RunStep w w.next
  | handle {job : Ticket J} (h : w.pc = .handling job) : RunStep w (w.handle job)
  | onStop (h : w.pc = .left) : RunStep w { w with pc := .finished }

/-- One step of any thread. `try_push` needs the mutex, `start()` and
`stop()` are called once. -/
inductive DBWorkerStep {J : Type u} (w : DBWorker J) : DBWorkerAction J → DBWorker J → Prop
  | tryPush (job : J) (h : w.pc ≠ .passed) : DBWorkerStep w (.tryPush job) (w.tryPush job).1
  | start (h : w.pc = .notStarted) : DBWorkerStep w .start w.start
  | stop (h : w.stopped = false) : DBWorkerStep w .stop w.stop
  | run {w' : DBWorker J} (h : RunStep w w') : DBWorkerStep w .run w'

/-- A worker from its construction on. -/
def dbWorkerSystem (J : Type u) : System (DBWorker J) (DBWorkerAction J) where
  init w := w = {}
  step w a w' := DBWorkerStep w a w'

end MmorpgServer.Storage
