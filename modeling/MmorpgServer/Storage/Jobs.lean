/-
MmorpgServer.Storage.Jobs — database jobs that may fail anywhere, with
producers at work in between.

`handleDbJob` is one job from start to end. Here it is two steps, so that
snapshots may be pushed while a job is under way: `begin` goes as far as
`flush_rt_writes`, `finish` does the rest. A step of the job fails or not
as its `Outcomes` say.

The list of what has been pushed is not part of the program. It gives
every snapshot its place as its version.
-/
import MmorpgServer.Lib.TransitionSystem
import MmorpgServer.Storage.StorageSystemTheorems

namespace MmorpgServer.Storage

open MmorpgServer.Lib

/-- The storage, the job it is half through with, and all that has been
pushed. -/
structure JobState (F : Type) where
  impl : Impl F
  underway : Option (Impl.Outcomes × DbJob) := none
  pushed : List (UserSnapshot F) := []

inductive JobAction (F : Type) where
  | push (x : UserSnapshot F)
  | begin (o : Impl.Outcomes) (job : DbJob)
  | finish

namespace JobState

variable {F : Type} (libc : Libc F) (sp : UserTable F → List (UserSnapshot F) → UserTable F)

/-- A snapshot, with the place it gets as its version. -/
def stamp (st : JobState F) (x : UserSnapshot F) : UserSnapshot F :=
  { x with version := st.pushed.length + 1 }

/-- `enqueue_rt_write`. -/
def push (st : JobState F) (x : UserSnapshot F) : JobState F :=
  { st with
    impl := (st.impl.enqueuePush (st.stamp x)).enqueueCount
    pushed := st.pushed ++ [st.stamp x] }

/-- `handle_db_job`, up to `flush_rt_writes`. -/
def begin (st : JobState F) (o : Impl.Outcomes) (job : DbJob) : JobState F :=
  let c := st.impl.ensureConnected o.connect
  if !c.2 then { st with impl := c.1 }
  else { st with impl := (c.1.flushRtWrites libc o.write).1, underway := some (o, job) }

/-- The rest of `handle_db_job`. -/
def finish (st : JobState F) : JobState F :=
  match st.underway with
  | none => st
  | some (o, job) =>
    { st with impl := (Impl.finishJob libc sp o st.impl {} job).1, underway := none }

def step (st : JobState F) : JobAction F → JobState F
  | .push x => st.push x
  | .begin o job => st.begin libc o job
  | .finish => st.finish libc sp

/-- Jobs follow one another. -/
def Allowed (st : JobState F) : JobAction F → Prop
  | .begin _ _ => st.underway = none
  | _ => True

/-- Nothing is queued, and the rows there are carry no version. -/
structure Initial (st : JobState F) : Prop where
  idle : st.underway = none ∧ st.pushed = [] ∧ st.impl.rtQ = []
  unversioned : ∀ uid, redisVersion st.impl.redis uid = 0 ∧ st.impl.table.version uid = 0

end JobState

/-- Jobs and pushes, in any order. -/
def jobSystem {F : Type} (libc : Libc F)
    (sp : UserTable F → List (UserSnapshot F) → UserTable F) :
    System (JobState F) (JobAction F) where
  init := JobState.Initial
  step st a st' := st.Allowed a ∧ st' = st.step libc sp a

end MmorpgServer.Storage
