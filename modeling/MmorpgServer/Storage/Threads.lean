/-
MmorpgServer.Storage.Threads — the threads of the write-back path, every
hand-off a step of its own.

* A producer of a user pushes a snapshot (under the lock of `rt_q_`),
  counts it, and marks the user: three steps.
* `on_timer` clears the 64 shards one after another, then cuts the stolen
  users into jobs; each push, each re-mark of a refused job is a step.
* The worker pops a job and goes through `handle_db_job`: swap, subtract,
  write, fetch, upsert. Every Redis and MySQL call succeeds here.

`Action` names the thread that moves, `State.next` is its move, and
`threadSystem` lets the threads interleave in any way.

Not part of the program are the versions: `last` is the newest version
pushed for a user, `marks` the versions marked so far, and a stolen list
remembers in `marks` which of them were marked before the steal.
-/
import MmorpgServer.Lib.Enumeration
import MmorpgServer.Lib.TransitionSystem
import MmorpgServer.Storage.StorageSystem

namespace MmorpgServer.Storage

open MmorpgServer.Lib

/-- Where the producer of one user stands in `enqueue_rt_write` and
`mark_dirty`. -/
inductive Producer where
  | idle
  | pushed (version : Nat)
  | counted (version : Nat)
  deriving DecidableEq

/-- The list `on_timer` has stolen. -/
structure Stolen where
  uids : List Uid := []
  marks : Uid → List Nat := fun _ => []

/-- Where the timer stands in `on_timer`: which shard comes next, where the
current batch begins, which of its users is marked again next. -/
inductive Timer where
  | idle
  | stealing (shard : Nat) (out : Stolen)
  | checkPending
  | pushEmpty
  | batching (uids : Stolen) (i : Nat)
  | remarking (uids : Stolen) (i k : Nat)

/-- Where the worker stands in `handle_db_job`. -/
inductive Worker (F : Type) where
  | waiting
  | swap (job : DbJob)
  | subtract (job : DbJob)
  | write (job : DbJob)
  | fetch (job : DbJob)
  | upsert (job : DbJob) (snap : List (UserSnapshot F))

/-- The job being handled. -/
def Worker.job {F : Type} : Worker F → Option DbJob
  | .waiting => none
  | .swap job | .subtract job | .write job | .fetch job | .upsert job _ => some job

/-- The storage system with its threads. -/
structure State (F : Type) where
  impl : Impl F := {}
  timer : Timer := .idle
  worker : Worker F := .waiting
  producer : Uid → Producer := fun _ => .idle
  last : Uid → Nat := fun _ => 0
  marks : Uid → List Nat := fun _ => []

/-- A thread and what it decides: a producer which snapshot it pushes, the
timer in which order a shard is copied. -/
inductive Action (F : Type) where
  | push (snapshot : UserSnapshot F)
  | count (uid : Uid)
  | mark (uid : Uid)
  | timer (order : Enumeration Uid)
  | worker

namespace State

variable {F : Type}

/-- Slice `[i, i + maxBatch)` of the stolen users. -/
def slice (uids : Stolen) (i maxBatch : Nat) : DbJob where
  uids := (uids.uids.drop i).take maxBatch
  marks := uids.marks

/-- One step of `on_timer`; `idle` is the moment before it fires. -/
def timerNext (maxBatch : Nat) (order : Enumeration Uid) (s : State F) : State F :=
  match s.timer with
  | .idle => { s with timer := .stealing 0 {} }
  | .stealing k out =>
    if h : k < kShards then
      let shard := s.impl.dirty ⟨k, h⟩
      let out' : Stolen :=
        { uids := out.uids ++ order.list shard
          marks := fun uid => if uid ∈ shard then s.marks uid else out.marks uid }
      { s with
        impl := { s.impl with dirty := s.impl.dirty.clearShard ⟨k, h⟩ }
        timer := .stealing (k + 1) out' }
    else if out.uids.isEmpty then { s with timer := .checkPending }
    else { s with timer := .batching out 0 }
  | .checkPending =>
    if s.impl.rtPending > 0 then { s with timer := .pushEmpty } else { s with timer := .idle }
  | .pushEmpty => { s with impl := (s.impl.tryPush {}).1, timer := .idle }
  | .batching uids i =>
    if i < uids.uids.length then
      let r := s.impl.tryPush (slice uids i maxBatch)
      { s with
        impl := r.1
        timer := if r.2 then .batching uids (i + maxBatch) else .remarking uids i 0 }
    else { s with timer := .idle }
  | .remarking uids i k =>
    match (slice uids i maxBatch).uids[k]? with
    | some uid => { s with impl := s.impl.markDirty uid, timer := .remarking uids i (k + 1) }
    | none => { s with timer := .batching uids (i + maxBatch) }

/-- One step of the worker. A job without users ends after the flush, one
whose users have no row after the fetch. -/
def workerNext (libc : Libc F) (service : RedisService)
    (sp : UserTable F → List (UserSnapshot F) → UserTable F)
    (s : State F) : State F :=
  match s.worker with
  | .waiting =>
    match s.impl.queue with
    | [] => s
    | job :: queue => { s with impl := { s.impl with queue }, worker := .swap job }
  | .swap job =>
    { s with
      impl := s.impl.flushSwap
      worker := if s.impl.rtQ.isEmpty then .fetch job else .subtract job }
  | .subtract job => { s with impl := s.impl.flushSubtract, worker := .write job }
  | .write job =>
    { s with
      impl :=
        { s.impl with
          redis := (writeUsersRtOnly libc (.allOk service) s.impl.redis s.impl.rtLocal).1 }
      worker := .fetch job }
  | .fetch job =>
    if job.uids.isEmpty then { s with worker := .waiting }
    else
      let snap := fetchUsers libc (.allOk service) s.impl.redis job.uids
      { s with
        impl := { s.impl with snap }
        worker := if snap.isEmpty then .waiting else .upsert job snap }
  | .upsert _ snap =>
    { s with impl := { s.impl with table := sp s.impl.table snap }, worker := .waiting }

/-- When a thread may move. Versions of a user are pushed in increasing
order, by one thread. -/
def Enabled (s : State F) : Action F → Prop
  | .push snapshot => s.producer snapshot.uid = .idle ∧ s.last snapshot.uid < snapshot.version
  | .count uid => ∃ v, s.producer uid = .pushed v
  | .mark uid => ∃ v, s.producer uid = .counted v
  | .timer _ => True
  | .worker => True

/-- The move of a thread. -/
def next (libc : Libc F) (service : RedisService)
    (sp : UserTable F → List (UserSnapshot F) → UserTable F)
    (maxBatchUids : Nat) (s : State F) : Action F → State F
  | .push snapshot =>
    { s with
      impl := s.impl.enqueuePush snapshot
      producer := Function.update s.producer snapshot.uid (.pushed snapshot.version)
      last := Function.update s.last snapshot.uid snapshot.version }
  | .count uid =>
    match s.producer uid with
    | .pushed v =>
      { s with
        impl := s.impl.enqueueCount
        producer := Function.update s.producer uid (.counted v) }
    | _ => s
  | .mark uid =>
    match s.producer uid with
    | .counted v =>
      { s with
        impl := s.impl.markDirty uid
        producer := Function.update s.producer uid .idle
        marks := Function.update s.marks uid (v :: s.marks uid) }
    | _ => s
  | .timer order => s.timerNext (max 1 maxBatchUids) order
  | .worker => s.workerNext libc service sp

/-- The rows there are before the threads start carry no version yet, and
no key holds anything but a hash (no command fails). -/
structure Initial (s : State F) : Prop where
  threads : s.timer = .idle ∧ s.worker = .waiting ∧ ∀ uid, s.producer uid = .idle
  empty : s.impl.queue = [] ∧ s.impl.rtQ = [] ∧ (∀ uid, ¬ s.impl.dirty.Has uid) ∧
    ∀ uid, s.marks uid = []
  typed : ∀ uid, ¬ WrongType s.impl.redis uid
  unversioned : ∀ uid, s.last uid = 0 ∧ redisVersion s.impl.redis uid = 0 ∧
    s.impl.table.version uid = 0

end State

/-- Producers, timer and worker, interleaved. -/
def threadSystem {F : Type} (libc : Libc F) (service : RedisService)
    (sp : UserTable F → List (UserSnapshot F) → UserTable F) (maxBatchUids : Nat) :
    System (State F) (Action F) where
  init := State.Initial
  step s a t := s.Enabled a ∧ t = s.next libc service sp maxBatchUids a

end MmorpgServer.Storage
