/-
MmorpgServer.Storage.Shutdown — `StorageSystem::Impl::stop` over the
threads of `Storage.Threads`.

`stop()` runs on the loop thread, so `on_timer` is not in progress; it
stops the timer and then the database worker, which goes on until its
queue is empty, and returns when the worker has left its loop. The
producers are done before. Every Redis and MySQL call succeeds.
-/
import MmorpgServer.Storage.Threads

namespace MmorpgServer.Storage

open MmorpgServer.Lib

/-- Where `stop()` is. -/
inductive ShutdownPhase where
  | running
  /-- the timer is stopped and `running_` of the worker false; inside
  `db.join()` -/
  | stopping
  | returned
  deriving DecidableEq, Repr

/-- The storage system and the caller of `stop()`. -/
structure Shutdown (F : Type) where
  state : State F
  phase : ShutdownPhase := .running

inductive ShutdownAction (F : Type) where
  | thread (a : Action F)
  | stop
  | join

/-- The steps. After `stop()` has been called only the worker moves; it
leaves its loop when it finds the queue empty. -/
inductive ShutdownStep {F : Type} (libc : Libc F) (service : RedisService)
    (sp : UserTable F → List (UserSnapshot F) → UserTable F) (maxBatchUids : Nat)
    (s : Shutdown F) : ShutdownAction F → Shutdown F → Prop
  | thread (a : Action F) (hphase : s.phase = .running) (h : s.state.Enabled a) :
    ShutdownStep libc service sp maxBatchUids s (.thread a)
      { s with state := s.state.next libc service sp maxBatchUids a }
  | drain (hphase : s.phase = .stopping) :
    ShutdownStep libc service sp maxBatchUids s (.thread .worker)
      { s with state := s.state.next libc service sp maxBatchUids .worker }
  | stop (hphase : s.phase = .running) (htimer : s.state.timer = .idle)
    (hproducers : ∀ uid, s.state.producer uid = .idle) :
    ShutdownStep libc service sp maxBatchUids s .stop { s with phase := .stopping }
  | join (hphase : s.phase = .stopping) (hworker : s.state.worker = .waiting)
    (hqueue : s.state.impl.queue = []) :
    ShutdownStep libc service sp maxBatchUids s .join { s with phase := .returned }

/-- The storage system from its start to the return of `stop()`. -/
def shutdownSystem {F : Type} (libc : Libc F) (service : RedisService)
    (sp : UserTable F → List (UserSnapshot F) → UserTable F) (maxBatchUids : Nat) :
    System (Shutdown F) (ShutdownAction F) where
  init s := s.state.Initial ∧ s.phase = .running
  step := ShutdownStep libc service sp maxBatchUids

namespace State

variable {F : Type}

/-- The newest snapshot of a user is in MySQL, or will be when the worker
has drained its queue: the user is in a queued job, or in the job at hand
and its newest snapshot is not behind the worker in `rt_q_`. -/
def Covered (s : State F) (uid : Uid) : Prop :=
  s.impl.table.version uid = s.last uid ∨ (∃ job ∈ s.impl.queue, uid ∈ job.uids) ∨
    match s.worker with
    | .waiting => False
    | .swap job => uid ∈ job.uids
    | .subtract job | .write job =>
      uid ∈ job.uids ∧ (s.last uid ≤ redisVersion s.impl.redis uid ∨
        ∃ x ∈ s.impl.rtLocal, x.uid = uid ∧ s.last uid ≤ x.version)
    | .fetch job => uid ∈ job.uids ∧ s.last uid ≤ redisVersion s.impl.redis uid
    | .upsert _ snap => ∃ x ∈ snap, x.uid = uid ∧ x.version = s.last uid

/-- What a graceful stop leaves: the row of every marked user is its last
snapshot, and nothing in `DirtyHub` or `rt_q_` is newer than MySQL. -/
structure Persisted (s : State F) : Prop where
  marked : ∀ uid, s.marks uid ≠ [] → s.impl.table.version uid = s.last uid
  dirty : ∀ uid, s.impl.dirty.Has uid → s.impl.table.version uid = s.last uid
  rtQ : ∀ x ∈ s.impl.rtQ, x.version ≤ s.impl.table.version x.uid

end State

end MmorpgServer.Storage
