/-
MmorpgServer.Storage.StorageSystem — the write-back path of
`storage/StorageSystem.cpp`, `storage/DirtyHub.h` and
`storage/DBWorker.cpp`.

A producer puts a snapshot on `rt_q_` and marks its user in the
`DirtyHub`. The timer steals the marked users and queues them as jobs for
the database worker. The worker drains `rt_q_` into Redis, reads the rows
of the job's users back and upserts them into MySQL.

`Impl` is the state of `StorageSystem::Impl` with the two stores behind
it. `handleDbJob` is one job from start to end, with an `Outcomes` that
says which of its steps fail. The threads themselves — every hand-off of
producers, timer and worker a step of its own — are the subject of
`Storage.Threads`.
-/
import MmorpgServer.Storage.RedisUserCache

namespace MmorpgServer.Storage

/-! ## `DirtyHub` -/

/-- `DirtyHub::kShards`. -/
def kShards : Nat := 64

/-- `DirtyHub`: the set of each shard. -/
abbrev DirtyHub := Fin kShards → Finset Uid

namespace DirtyHub

def empty : DirtyHub := fun _ => ∅

/-- The shard of a user, `uid & (kShards - 1)`. -/
def shardOf (uid : Uid) : Fin kShards := ⟨uid % kShards, Nat.mod_lt _ (by decide)⟩

/-- `DirtyHub::mark_dirty`. -/
def markDirty (hub : DirtyHub) (uid : Uid) : DirtyHub :=
  Function.update hub (shardOf uid) (insert uid (hub (shardOf uid)))

/-- The `s.set.clear()` of `steal_all`, for one shard. -/
def clearShard (hub : DirtyHub) (k : Fin kShards) : DirtyHub := Function.update hub k ∅

/-- `uid` is in one of the shards. -/
def Has (hub : DirtyHub) (uid : Uid) : Prop := ∃ k, uid ∈ hub k

instance (hub : DirtyHub) (uid : Uid) : Decidable (hub.Has uid) :=
  inferInstanceAs (Decidable (∃ k, uid ∈ hub k))

theorem has_markDirty (hub : DirtyHub) (uid u : Uid) :
    (hub.markDirty uid).Has u ↔ u = uid ∨ hub.Has u := by
  unfold Has markDirty
  constructor
  · rintro ⟨k, hk⟩
    by_cases hkk : k = shardOf uid
    · subst hkk
      rw [Function.update_self, Finset.mem_insert] at hk
      rcases hk with rfl | hk
      · exact Or.inl rfl
      · exact Or.inr ⟨_, hk⟩
    · rw [Function.update_of_ne hkk] at hk
      exact Or.inr ⟨k, hk⟩
  · rintro (rfl | ⟨k, hk⟩)
    · exact ⟨shardOf u, by simp⟩
    · refine ⟨k, ?_⟩
      by_cases hkk : k = shardOf uid
      · subst hkk
        rw [Function.update_self]
        exact Finset.mem_insert_of_mem hk
      · rw [Function.update_of_ne hkk]
        exact hk

theorem has_clearShard (hub : DirtyHub) (k : Fin kShards) (u : Uid) :
    hub.Has u → (hub.clearShard k).Has u ∨ u ∈ hub k := by
  rintro ⟨k', hk'⟩
  by_cases hkk : k' = k
  · subst hkk
    exact Or.inr hk'
  · refine Or.inl ⟨k', ?_⟩
    rw [clearShard, Function.update_of_ne hkk]
    exact hk'

end DirtyHub

/-! ## The state -/

/-- `DbJob`. `marks` is not part of the program: it holds, for each user,
the versions that had been marked when the user was stolen. -/
structure DbJob where
  uids : List Uid := []
  marks : Uid → List Nat := fun _ => []

/-- `StorageSystem::Impl`, and the stores it writes to. -/
structure Impl (F : Type) where
  dirty : DirtyHub := DirtyHub.empty
  queue : List DbJob := []
  redisCtx : Bool := false
  mysql : Bool := false
  snap : List (UserSnapshot F) := []
  rtQ : List (UserSnapshot F) := []
  rtLocal : List (UserSnapshot F) := []
  rtPending : UInt32 := 0
  redis : RedisStore := fun _ => none
  table : UserTable F := fun _ => none

/-- The length of `DBWorker`'s queue from which a push is refused. -/
def maxQueue : Nat := 360

namespace Impl

variable {F : Type}

/-- `DBWorker::try_push`. -/
def tryPush (s : Impl F) (job : DbJob) : Impl F × Bool :=
  if s.queue.length ≥ maxQueue then (s, false)
  else ({ s with queue := s.queue ++ [job] }, true)

/-- `dirty.mark_dirty`. -/
def markDirty (s : Impl F) (uid : Uid) : Impl F := { s with dirty := s.dirty.markDirty uid }

/-- The first half of `enqueue_rt_write`: push under the lock. -/
def enqueuePush (s : Impl F) (snapshot : UserSnapshot F) : Impl F :=
  { s with rtQ := s.rtQ ++ [snapshot] }

/-- The second half: `rt_pending_.fetch_add(1)`. -/
def enqueueCount (s : Impl F) : Impl F := { s with rtPending := s.rtPending + 1 }

/-! ## Connections -/

/-- What becomes of one `connect_db`. -/
structure ConnectOutcome where
  redisConnect : Bool
  mysqlInit : Bool
  mysqlConnect : Bool

/-- `disconnect_db`. -/
def disconnectDb (s : Impl F) : Impl F := { s with redisCtx := false, mysql := false }

/-- `connect_db`. -/
def connectDb (o : ConnectOutcome) (s : Impl F) : Impl F :=
  if s.redisCtx && s.mysql then s
  else if !o.redisConnect then { s with redisCtx := false }
  else
    let s := { s with redisCtx := true }
    if !o.mysqlInit then s.disconnectDb
    else
      let s := { s with mysql := true }
      if !o.mysqlConnect then s.disconnectDb
      else s

/-- `ensure_connected`. -/
def ensureConnected (o : ConnectOutcome) (s : Impl F) : Impl F × Bool :=
  if s.redisCtx && s.mysql then (s, true)
  else
    let s := connectDb o s.disconnectDb
    (s, s.redisCtx && s.mysql)

/-! ## One job -/

/-- The lock section of `flush_rt_writes`: `rt_q_` swapped for the
cleared `rt_local_`, unless it is empty. -/
def flushSwap (s : Impl F) : Impl F :=
  let s := { s with rtLocal := [] }
  if s.rtQ.isEmpty then s else { s with rtLocal := s.rtQ, rtQ := [] }

/-- `rt_pending_.fetch_sub((uint32_t)rt_local_.size())`. -/
def flushSubtract (s : Impl F) : Impl F :=
  { s with rtPending := s.rtPending - UInt32.ofNat s.rtLocal.length }

/-- What becomes of the stored-procedure call: it is not carried out, it
is but the answer is lost, or it is. -/
inductive SpOutcome where
  | notRun
  | answerLost
  | ok
  deriving DecidableEq

/-- What becomes of each step of `handle_db_job`. -/
structure Outcomes where
  connect : ConnectOutcome
  write : WriteOutcome
  reconnect : ConnectOutcome
  fetch : FetchOutcome
  sp : SpOutcome

/-- A job in which nothing fails and nothing is refused. -/
def Outcomes.allOk (service : RedisService) : Outcomes where
  connect := ⟨true, true, true⟩
  write := .allOk service
  reconnect := ⟨true, true, true⟩
  fetch := .allOk service
  sp := .ok

/-- What one job did: the snapshots it drained from `rt_q_`, each with
whether Redis took it, and the rows MySQL took. -/
structure Report (F : Type) where
  drained : List (UserSnapshot F × Bool) := []
  upserted : List (UserSnapshot F) := []

section

variable (libc : Libc F) (sp : UserTable F → List (UserSnapshot F) → UserTable F)

/-- `flush_rt_writes`. -/
def flushRtWrites (o : WriteOutcome) (s : Impl F) : Impl F × Report F :=
  if s.rtQ.isEmpty then ({ s with rtLocal := [] }, {})
  else
    let s := s.flushSwap.flushSubtract
    if !s.redisCtx then (s, { drained := s.rtLocal.map fun x => (x, false) })
    else
      let r := writeUsersRtOnly libc o s.redis s.rtLocal
      let s := { s with redis := r.1 }
      (if !r.2.2 then s.disconnectDb else s, { drained := r.2.1 })

/-- `CallSpUpsertUserStateBatch`: the table, the rows it took, and the
result. -/
def callSpUpsertUserStateBatch (o : SpOutcome) (table : UserTable F)
    (snap : List (UserSnapshot F)) : UserTable F × List (UserSnapshot F) × Bool :=
  match o with
  | .notRun => (table, [], false)
  | .answerLost => (sp table snap, snap, false)
  | .ok => (sp table snap, snap, true)

/-- `handle_db_job`. -/
def handleDbJob (o : Outcomes) (s : Impl F) (job : DbJob) : Impl F × Report F :=
  let c := s.ensureConnected o.connect
  if !c.2 then (c.1, {})
  else
    let f := c.1.flushRtWrites libc o.write
    let c := f.1.ensureConnected o.reconnect
    if !c.2 then (c.1, f.2)
    else if job.uids.isEmpty then (c.1, f.2)
    else if !o.fetch.replies then (c.1.disconnectDb, f.2)
    else
      let s := { c.1 with snap := fetchUsers libc o.fetch c.1.redis job.uids }
      if s.snap.isEmpty then (s, f.2)
      else
        let r := callSpUpsertUserStateBatch sp o.sp s.table s.snap
        let s := { s with table := r.1 }
        (if !r.2.2 then s.disconnectDb else s, { f.2 with upserted := r.2.1 })

end

end Impl

end MmorpgServer.Storage
