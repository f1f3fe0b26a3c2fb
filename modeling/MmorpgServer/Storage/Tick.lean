/-
MmorpgServer.Storage.Tick — one call of `on_timer`, with its index
arithmetic.

`Storage.Threads` cuts the stolen users into jobs by their positions as
natural numbers. Here `i`, `end`, `k` and the batch size are the 64-bit
`size_t` of the source, `max_batch_uids` has any value, and each
`try_push` succeeds or fails as it likes. Users are marked at any time.

* `TickPc` — where `on_timer` is: which shard is next, which batch, which
  of its users is marked again.
* `Tick.timer` — its next step.
* `tickSystem` — one tick, from any set of marked users, interleaved with
  `mark_dirty`.
-/
import MmorpgServer.Lib.Enumeration
import MmorpgServer.Lib.TransitionSystem
import MmorpgServer.Storage.StorageSystem

namespace MmorpgServer.Storage

open MmorpgServer.Lib

/-- Where `on_timer` is. -/
inductive TickPc where
  /-- the timer has not fired -/
  | idle
  /-- inside `steal_all`, before this shard -/
  | stealing (shard : Nat)
  /-- nothing is stolen, `rt_pending_` not read yet -/
  | checkPending
  /-- before the `try_push` of the job without users -/
  | pushEmpty
  /-- before the test `i < uids.size()` -/
  | test (i : UInt64)
  /-- the job from `i` to `end` is made, before its `try_push` -/
  | push (i stop : UInt64)
  /-- the job is refused, before the test `k < end` -/
  | remark (i stop k : UInt64)
  | done
  deriving DecidableEq, Repr

/-- `on_timer` and the `DirtyHub`. The fields from `early` on are not part
of the program: they record what becomes of the users. -/
structure Tick where
  dirty : DirtyHub := DirtyHub.empty
  pc : TickPc := .idle
  /-- `out` of `steal_all`, then `uids` -/
  uids : List Uid := []
  /-- the users marked before `steal_all` visits their shard -/
  early : List Uid := []
  /-- the users marked after that -/
  late : List Uid := []
  /-- the jobs of the loop that `try_push` has taken -/
  pushed : List (List Uid) := []
  /-- the users of the other jobs, marked again -/
  remarked : List Uid := []
  /-- whether the job without users was taken -/
  flushed : Bool := false
  /-- the steps of `on_timer` so far -/
  steps : Nat := 0

namespace Tick

/-- `steal_all` has emptied the shard of `uid`. -/
def Visited (t : Tick) (uid : Uid) : Prop :=
  match t.pc with
  | .idle => False
  | .stealing k => (DirtyHub.shardOf uid).val < k
  | _ => True

instance (t : Tick) (uid : Uid) : Decidable (t.Visited uid) := by
  unfold Visited
  split <;> infer_instance

/-- `mark_dirty`. -/
def mark (t : Tick) (uid : Uid) : Tick :=
  { t with
    dirty := t.dirty.markDirty uid
    early := if t.Visited uid then t.early else t.early ++ [uid]
    late := if t.Visited uid then t.late ++ [uid] else t.late }

/-- `uids.size()`. -/
def size (t : Tick) : UInt64 := UInt64.ofNat t.uids.length

/-- `job.uids.assign(uids.begin() + i, uids.begin() + end)`. -/
def job (t : Tick) (i stop : UInt64) : List Uid :=
  (t.uids.drop i.toNat).take (stop.toNat - i.toNat)

/-- The next step of `on_timer`: `order` is the order in which the shard is
copied, `pending` whether `rt_pending_` is positive, `taken` the result of
the `try_push`. -/
def timer (maxBatch : UInt64) (order : Enumeration Uid) (pending taken : Bool) (t : Tick) : Tick :=
  let t := { t with steps := t.steps + 1 }
  match t.pc with
  | .idle => { t with pc := .stealing 0 }
  | .stealing k =>
    if h : k < kShards then
      { t with
        dirty := t.dirty.clearShard ⟨k, h⟩
        uids := t.uids ++ order.list (t.dirty ⟨k, h⟩)
        pc := .stealing (k + 1) }
    else if t.uids.isEmpty then { t with pc := .checkPending }
    else { t with pc := .test 0 }
  | .checkPending => if pending then { t with pc := .pushEmpty } else { t with pc := .done }
  | .pushEmpty => { t with flushed := taken, pc := .done }
  | .test i =>
    if i < t.size then { t with pc := .push i (min t.size (i + maxBatch)) }
    else { t with pc := .done }
  | .push i stop =>
    if taken then { t with pushed := t.pushed ++ [t.job i stop], pc := .test (i + maxBatch) }
    else { t with pc := .remark i stop i }
  | .remark i stop k =>
    if k < stop then
      match t.uids[k.toNat]? with
      | some uid =>
        { t with
          dirty := t.dirty.markDirty uid
          remarked := t.remarked ++ [uid]
          pc := .remark i stop (k + 1) }
      -- a read behind the end of `uids`
      | none => t
    else { t with pc := .test (i + maxBatch) }
  | .done => t

end Tick

/-- A producer marks a user, or `on_timer` goes on. -/
inductive TickAction where
  | mark (uid : Uid)
  | timer (order : Enumeration Uid) (pending taken : Bool)

/-- One step of any thread, for the batch size
`std::max<std::size_t>(1, max_batch_uids)`. -/
def Tick.next (maxBatchUids : UInt64) (t : Tick) : TickAction → Tick
  | .mark uid => t.mark uid
  | .timer order pending taken => t.timer (max 1 maxBatchUids) order pending taken

/-- One tick; the users marked before it fires are there when it does. -/
def tickSystem (maxBatchUids : UInt64) : System Tick TickAction :=
  .ofFn {} (fun t a => match a with
    | .mark _ => True
    | .timer _ _ _ => t.pc ≠ .done) (Tick.next maxBatchUids)

end MmorpgServer.Storage
