/-
MmorpgServer.Storage.DbWorkerCv — `DBWorker` with its condition variable,
`cv_` of `storage/DBWorker.h`.

`Storage.DbWorker` lets a blocked worker go on at any time. Here it goes
on when it is notified: the wait of `run()` is cut into the test of the
predicate and the block, between which the mutex is still held, `stop()`
into its store and its `notify_all`, and `try_push` into the section under
the mutex and its `notify_one`. A wait may return without a notification
as well (`spurious`); what is proved of all runs is proved of those
without it.
-/
import MmorpgServer.Storage.DbWorker

namespace MmorpgServer.Storage

open MmorpgServer.Lib

universe u

/-- Where the thread that calls `stop()` is. -/
inductive StopPc where
  | notCalled
  /-- `running_` is false, `notify_all` not called yet -/
  | stored
  | returned
  deriving DecidableEq, Repr

/-- `DBWorker` and what its condition variable needs to know. -/
structure DBWorkerCv (J : Type u) extends DBWorker J where
  /-- the predicate of the wait was false; the mutex is not released yet -/
  falling : Bool := false
  stopPc : StopPc := .notCalled
  /-- the number of `try_push` calls before their `notify_one` -/
  notifying : Nat := 0

namespace DBWorkerCv

variable {J : Type u}

/-- The worker is blocked, without the mutex. -/
def Asleep (w : DBWorkerCv J) : Prop := w.pc = .blocked ∧ w.falling = false

instance (w : DBWorkerCv J) [DecidableEq J] : Decidable w.Asleep :=
  inferInstanceAs (Decidable (_ ∧ _))

/-- The mutex is not held by the worker. -/
def MutexFree (w : DBWorkerCv J) : Prop := w.pc ≠ .passed ∧ w.falling = false

/-- What a notification does: a blocked worker is before the mutex
again. -/
def wakeUp (w : DBWorkerCv J) : DBWorkerCv J :=
  match w.pc, w.falling with
  | .blocked, false => { w with pc := .waiting }
  | _, _ => w

/-- `try_push`, up to the end of its section under the mutex. -/
def tryPush (w : DBWorkerCv J) (job : J) : DBWorkerCv J :=
  let r := w.toDBWorker.tryPush job
  { w with toDBWorker := r.1, notifying := if r.2 then w.notifying + 1 else w.notifying }

/-- `cv_.notify_one()` of `try_push`. -/
def notifyOne (w : DBWorkerCv J) : DBWorkerCv J :=
  { w.wakeUp with notifying := w.notifying - 1 }

/-- `running_.store(false)`. -/
def storeStop (w : DBWorkerCv J) : DBWorkerCv J :=
  { w with toDBWorker := w.toDBWorker.stop, stopPc := .stored }

/-- `cv_.notify_all()` of `stop()`. -/
def notifyAll (w : DBWorkerCv J) : DBWorkerCv J := { w.wakeUp with stopPc := .returned }

/-- The mutex is taken and the predicate tested. -/
def test (w : DBWorkerCv J) : DBWorkerCv J :=
  { w with
    toDBWorker := w.toDBWorker.wait
    falling := !(!w.q.isEmpty || !w.running) }

end DBWorkerCv

inductive DBWorkerCvAction (J : Type u) where
  | tryPush (job : J)
  | notifyOne
  | start
  | storeStop
  | notifyAll
  | run
  | spurious

/-- One step of `run()`. -/
inductive DBWorkerCv.RunStep {J : Type u} (w : DBWorkerCv J) : DBWorkerCv J → Prop
  | onStart (h : w.pc = .starting) : RunStep w { w with pc := .waiting }
  | test (h : w.pc = .waiting) : RunStep w w.test
  | block (h : w.falling = true) : RunStep w { w with falling := false }
  | next (h : w.pc = .passed) : RunStep w { w with toDBWorker := w.toDBWorker.next }
  | handle {job : Ticket J} (h : w.pc = .handling job) :
    RunStep w { w with toDBWorker := w.toDBWorker.handle job }
  | onStop (h : w.pc = .left) : RunStep w { w with pc := .finished }

/-- One step of any thread. -/
inductive DBWorkerCvStep {J : Type u} (w : DBWorkerCv J) :
    DBWorkerCvAction J → DBWorkerCv J → Prop
  | tryPush (job : J) (h : w.MutexFree) : DBWorkerCvStep w (.tryPush job) (w.tryPush job)
  | notifyOne (h : 0 < w.notifying) : DBWorkerCvStep w .notifyOne w.notifyOne
  | start (h : w.pc = .notStarted) :
    DBWorkerCvStep w .start { w with toDBWorker := w.toDBWorker.start }
  | storeStop (h : w.stopPc = .notCalled) : DBWorkerCvStep w .storeStop w.storeStop
  | notifyAll (h : w.stopPc = .stored) : DBWorkerCvStep w .notifyAll w.notifyAll
  | run {w' : DBWorkerCv J} (h : w.RunStep w') : DBWorkerCvStep w .run w'
  | spurious (h : w.Asleep) : DBWorkerCvStep w .spurious w.wakeUp

/-- A worker and its condition variable from their construction on. -/
def dbWorkerCvSystem (J : Type u) : System (DBWorkerCv J) (DBWorkerCvAction J) where
  init w := w = {}
  step := DBWorkerCvStep

end MmorpgServer.Storage
