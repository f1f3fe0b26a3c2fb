/-
MmorpgServer.Worker.WriteBack — a field worker and the storage behind it.

The program that wires the parts of the server is not in the repository.
Here `StorageSystem::enqueue_rt_write` is the writer a field worker calls,
where it has one: the snapshots an action writes are queued in their
order, and a database job may run between any two actions, whatever fails
in it.

Everything that comes from outside a run — the players that enter, the
monsters that are spawned, the rows earlier runs have left in Redis — has
coordinates in `P`.
-/
import MmorpgServer.Storage.RowTheorems
import MmorpgServer.Worker.ClosedTheorems

namespace MmorpgServer.Worker

open MmorpgServer.Lib MmorpgServer.Field MmorpgServer.Storage Scalar

variable {K : Type}

/-- A field worker and the storage its snapshots go to. -/
structure WriteBack (K : Type) where
  field : FieldWorker K
  storage : Impl K

inductive WriteBackAction (K : Type) where
  | field (a : FieldAction K)
  | job (o : Impl.Outcomes) (job : DbJob)

/-- The snapshots handed to the writer. -/
def writtenSnapshots (log : List (Effect K)) : List (UserSnapshot K) :=
  log.filterMap fun e =>
    match e with
    | .redisRtWrite snap => some snap
    | _ => none

/-- `enqueue_rt_write`, for one snapshot after another. -/
def enqueueAll (s : Impl K) (snaps : List (UserSnapshot K)) : Impl K :=
  snaps.foldl (fun s snap => (s.enqueuePush snap).enqueueCount) s

variable [Scalar K]

namespace WriteBack

def step (cfg : FieldConfig K) (libc : Libc K)
    (sp : UserTable K → List (UserSnapshot K) → UserTable K) (st : WriteBack K) :
    WriteBackAction K → WriteBack K
  | .field a =>
    let field := st.field.step cfg a
    { field
      storage := enqueueAll st.storage (writtenSnapshots (field.log.drop st.field.log.length)) }
  | .job o job => { st with storage := (st.storage.handleDbJob libc sp o job).1 }

end WriteBack

/-- What the worker is asked to do is sane, and players enter in `P`. -/
def WriteBackAction.Allowed (P : K → Prop) (st : WriteBack K) : WriteBackAction K → Prop
  | .field (.addPlayer pid p) => (FieldAction.addPlayer pid p).Sane st.field ∧ p.motion.In P
  | .field a => a.Sane st.field
  | .job _ _ => True

/-- The two together, from the construction of the worker on. -/
def writeBackSystem (P : K → Prop) (cfg : FieldConfig K) (libc : Libc K)
    (sp : UserTable K → List (UserSnapshot K) → UserTable K) (redisRtWriter : Bool) :
    System (WriteBack K) (WriteBackAction K) where
  init st :=
    (∃ player spawns, (spawns.map FieldWorker.MonsterSpawn.id).Nodup ∧
      (∀ sp ∈ spawns, P sp.x ∧ P sp.y) ∧
      st.field = FieldWorker.construct cfg player redisRtWriter spawns) ∧
    ∃ redis table, RowsIn libc P redis ∧ st.storage = { redis, table }
  step st a st' := a.Allowed P st ∧ st' = st.step cfg libc sp a

end MmorpgServer.Worker
