/-
MmorpgServer.Storage.JobsTheorems — what failing jobs can do to the rows,
and what they cannot.

`no_loss_iff` says when a failing job loses what it was to store. Here is
what no failure can bring about: the row of a user, in Redis or in MySQL,
is never put together from two snapshots, never somebody else's, and
never older than it was.

* `handleDbJob_eq_steps` — the two steps of a job are `handleDbJob`.
* `Whole` — the invariant; `whole_begin` and `whole_finish` are its step
  lemmas.
* `rows_are_whole` — over every run.
-/
import MmorpgServer.Storage.Jobs
import MmorpgServer.Storage.RowTheorems
import MmorpgServer.Storage.ThreadsTheorems

namespace MmorpgServer.Storage

open MmorpgServer.Lib

variable {F : Type} {libc : Libc F} {sp : UserTable F → List (UserSnapshot F) → UserTable F}

/-! ## The two steps -/

/-- What was drained before does not matter to the second half. -/
theorem finishJob_fst (o : Impl.Outcomes) (s : Impl F) (rep : Impl.Report F) (job : DbJob) :
    (Impl.finishJob libc sp o s rep job).1 = (Impl.finishJob libc sp o s {} job).1 := by
  unfold Impl.finishJob
  simp only
  split
  · rfl
  · split
    · rfl
    · split
      · rfl
      · split <;> rfl

/-- With nothing pushed in between, the two steps are `handleDbJob`. -/
theorem handleDbJob_eq_steps (st : JobState F) (hidle : st.underway = none) (o : Impl.Outcomes)
    (job : DbJob) : ((st.begin libc o job).finish libc sp).impl =
      (st.impl.handleDbJob libc sp o job).1 := by
  unfold JobState.begin
  cases hgo : (st.impl.ensureConnected o.connect).2 with
  | false => simp [JobState.finish, hidle, Impl.handleDbJob, hgo]
  | true =>
    have hbegins : st.impl.Begins o := (Impl.ensureConnected_spec o.connect st.impl).2.1.mp hgo
    rw [Impl.handleDbJob_eq libc sp hbegins, finishJob_fst]
    simp [JobState.finish, hgo]

/-! ## One pipeline -/

/-- A command, sent or not, leaves a user's version or makes it that of the
snapshot. -/
theorem redisVersion_writeOne (libc : Libc F) (o : WriteOutcome) (store : RedisStore) (i : Nat)
    (s : UserSnapshot F) (u : Uid) :
    redisVersion (writeOne libc o store i s).1 u = redisVersion store u ∨
      u = s.uid ∧ redisVersion (writeOne libc o store i s).1 u = s.version := by
  unfold writeOne
  split
  · by_cases hu : u = s.uid
    · subst hu
      by_cases htype : WrongType store s.uid
      · simp only [hset_wrongType o.service htype, true_or]
      · exact .inr ⟨rfl, (hset_complete libc o.service s htype).2⟩
    · unfold redisVersion
      simp only [hset_fst_of_ne o.service hu, true_or]
  · exact .inl rfl

/-- Snapshots on their way to Redis are in order, and no older than what is
there. -/
structure InOrder (store : RedisStore) (snaps : List (UserSnapshot F)) : Prop where
  ordered : Ordered snaps
  newer : ∀ x ∈ snaps, redisVersion store x.uid ≤ x.version

/-- **A pipeline takes no version back**, whichever of its commands are
carried out. -/
theorem InOrder.writeFrom (libc : Libc F) (o : WriteOutcome) {store : RedisStore}
    {snaps : List (UserSnapshot F)} (h : InOrder store snaps) (i : Nat) (u : Uid) :
    redisVersion store u ≤ redisVersion (writeFrom libc o store i snaps).1 u ∧
      (redisVersion (writeFrom libc o store i snaps).1 u = redisVersion store u ∨
        ∃ x ∈ snaps, x.uid = u ∧
          redisVersion (writeFrom libc o store i snaps).1 u = x.version) := by
  induction snaps generalizing store i with
  | nil => exact ⟨le_refl _, .inl rfl⟩
  | cons s snaps ih =>
    obtain ⟨hs, hordered⟩ := List.pairwise_cons.mp h.ordered
    have hself := h.newer s List.mem_cons_self
    have hone := redisVersion_writeOne libc o store i s
    have hrest : InOrder (writeOne libc o store i s).1 snaps := by
      refine ⟨hordered, fun x hx => ?_⟩
      rcases hone x.uid with heq | ⟨huid, heq⟩
      · rw [heq]
        exact h.newer x (List.mem_cons_of_mem s hx)
      · rw [heq]
        exact hs x hx huid.symm
    rw [writeFrom_cons]
    obtain ⟨hle, hfrom⟩ := ih hrest (i + 1)
    have hgrow : redisVersion store u ≤ redisVersion (writeOne libc o store i s).1 u := by
      rcases hone u with heq | ⟨rfl, heq⟩
      · rw [heq]
      · rw [heq]
        exact hself
    refine ⟨hgrow.trans hle, ?_⟩
    rcases hfrom with heq | ⟨x, hx, hxu, heq⟩
    · rcases hone u with heq' | ⟨hu, heq'⟩
      · exact .inl (heq.trans heq')
      · exact .inr ⟨s, List.mem_cons_self, hu.symm, heq.trans heq'⟩
    · exact .inr ⟨x, List.mem_cons_of_mem s hx, hxu, heq⟩

/-! ## Whole rows -/

/-- A snapshot as it comes back from Redis: printed and read. -/
def UserSnapshot.image (libc : Libc F) (s : UserSnapshot F) : UserSnapshot F :=
  { s with
    x := libc.strtof (libc.printFloat s.x), z := libc.strtof (libc.printFloat s.z)
    hp := libc.atoi (libc.printInt s.hp), sp := libc.atoi (libc.printInt s.sp) }

/-- A row that carries a version is one of the snapshots, all of it. -/
def FromOne (libc : Libc F) (pushed : List (UserSnapshot F)) (uid : Uid) (row : UserSnapshot F) :
    Prop :=
  0 < row.version → ∃ x ∈ pushed, x.uid = uid ∧ row = x.image libc

/-- Every row of Redis is one of the snapshots. -/
def WholeRows (libc : Libc F) (pushed : List (UserSnapshot F)) (store : RedisStore) : Prop :=
  ∀ uid row, storedRow libc store uid = some row → FromOne libc pushed uid row

theorem WholeRows.writeOne {pushed : List (UserSnapshot F)} {store : RedisStore}
    (h : WholeRows libc pushed store) (o : WriteOutcome) (i : Nat) {s : UserSnapshot F}
    (hs : s ∈ pushed) : WholeRows libc pushed (writeOne libc o store i s).1 := by
  unfold Storage.writeOne
  split
  · intro uid row hrow hv
    by_cases huid : uid = s.uid
    · subst huid
      by_cases htype : WrongType store s.uid
      · rw [hset_wrongType o.service htype] at hrow
        exact h s.uid row hrow hv
      · rw [storedRow_hset libc o.service s htype] at hrow
        exact ⟨s, hs, rfl, (Option.some.inj hrow).symm⟩
    · rw [storedRow_congr libc (hset_fst_of_ne o.service huid _ _)] at hrow
      exact h uid row hrow hv
  · exact h

theorem WholeRows.writeFrom {pushed : List (UserSnapshot F)} (o : WriteOutcome)
    {snaps : List (UserSnapshot F)} (hsnaps : ∀ s ∈ snaps, s ∈ pushed) {store : RedisStore}
    (h : WholeRows libc pushed store) (i : Nat) :
    WholeRows libc pushed (writeFrom libc o store i snaps).1 := by
  induction snaps generalizing store i with
  | nil => exact h
  | cons s snaps ih =>
    rw [List.forall_mem_cons] at hsnaps
    rw [writeFrom_cons]
    exact ih hsnaps.2 (h.writeOne o i hsnaps.1) (i + 1)

/-! ## The invariant -/

/-- The rows are whole, and versions grow from MySQL over Redis to what is
queued. -/
structure Whole (libc : Libc F) (st : JobState F) : Prop where
  stamped : ∀ x ∈ st.pushed, x.version ≤ st.pushed.length
  rows : WholeRows libc st.pushed st.impl.redis
  table : ∀ uid row, st.impl.table uid = some row → FromOne libc st.pushed uid row
  queued : ∀ x ∈ st.impl.rtQ, x ∈ st.pushed
  inOrder : InOrder st.impl.redis st.impl.rtQ
  known : ∀ uid, redisVersion st.impl.redis uid ≤ st.pushed.length
  tableLe : ∀ uid, st.impl.table.version uid ≤ redisVersion st.impl.redis uid

/-- Neither store takes a version back. -/
def Grows (s s' : Impl F) : Prop :=
  ∀ uid, s.table.version uid ≤ s'.table.version uid ∧
    redisVersion s.redis uid ≤ redisVersion s'.redis uid

theorem Grows.refl (s : Impl F) : Grows s s := fun _ => ⟨le_refl _, le_refl _⟩

theorem Grows.trans {s s' s'' : Impl F} (h : Grows s s') (h' : Grows s' s'') : Grows s s'' :=
  fun uid => ⟨(h uid).1.trans (h' uid).1, (h uid).2.trans (h' uid).2⟩

variable {st : JobState F}

/-! ## The steps -/

theorem FromOne.append {pushed : List (UserSnapshot F)} {uid : Uid} {row : UserSnapshot F}
    (h : FromOne libc pushed uid row) (more : List (UserSnapshot F)) :
    FromOne libc (pushed ++ more) uid row := by
  intro hv
  obtain ⟨y, hy, hrest⟩ := h hv
  exact ⟨y, List.mem_append_left _ hy, hrest⟩

/-- What is pushed is newer than all there is. -/
theorem whole_push (h : Whole libc st) (x : UserSnapshot F) : Whole libc (st.push x) := by
  have hlen : (st.pushed ++ [st.stamp x]).length = st.pushed.length + 1 := by simp
  constructor
  · intro y hy
    change y.version ≤ (st.pushed ++ [st.stamp x]).length
    rw [hlen]
    rcases List.mem_append.mp hy with hy | hy
    · exact (h.stamped y hy).trans (Nat.le_succ _)
    · rw [List.mem_singleton.mp hy]
      exact le_refl _
  · exact fun uid row hrow => (h.rows uid row hrow).append _
  · exact fun uid row hrow => (h.table uid row hrow).append _
  · intro y hy
    rcases List.mem_append.mp hy with hy | hy
    · exact List.mem_append_left _ (h.queued y hy)
    · exact List.mem_append_right _ hy
  · constructor
    · refine List.pairwise_append.mpr ⟨h.inOrder.ordered, List.pairwise_singleton _ _, ?_⟩
      intro y hy z hz _
      rw [List.mem_singleton.mp hz]
      exact (h.stamped y (h.queued y hy)).trans (Nat.le_succ _)
    · intro y hy
      rcases List.mem_append.mp hy with hy | hy
      · exact h.inOrder.newer y hy
      · rw [List.mem_singleton.mp hy]
        exact (h.known _).trans (Nat.le_succ _)
  · intro uid
    change _ ≤ (st.pushed ++ [st.stamp x]).length
    rw [hlen]
    exact (h.known uid).trans (Nat.le_succ _)
  · exact h.tableLe

/-- Connections and what a job has in hand do not matter. -/
theorem Whole.congr (h : Whole libc st) {st' : JobState F} (hpushed : st'.pushed = st.pushed)
    (hrtQ : st'.impl.rtQ = st.impl.rtQ) (hredis : st'.impl.redis = st.impl.redis)
    (htable : st'.impl.table = st.impl.table) : Whole libc st' := by
  constructor
  · rw [hpushed]
    exact h.stamped
  · rw [hpushed, hredis]
    exact h.rows
  · rw [hpushed, htable]
    exact h.table
  · rw [hpushed, hrtQ]
    exact h.queued
  · rw [hredis, hrtQ]
    exact h.inOrder
  · rw [hpushed, hredis]
    exact h.known
  · rw [hredis, htable]
    exact h.tableLe

/-- `flush_rt_writes`, as the stores see it: the queue is gone and a part
of it may be in Redis. -/
theorem flushRtWrites_cases (libc : Libc F) (o : WriteOutcome) (s : Impl F) :
    (s.flushRtWrites libc o).1.table = s.table ∧ (s.flushRtWrites libc o).1.rtQ = [] ∧
      ((s.flushRtWrites libc o).1.redis = s.redis ∨
        (s.flushRtWrites libc o).1.redis = (writeFrom libc o s.redis 0 s.rtQ).1) := by
  unfold Impl.flushRtWrites
  cases hq : s.rtQ with
  | nil => simp
  | cons x q =>
    cases hctx : s.redisCtx with
    | false => simp [Impl.flushSwap, Impl.flushSubtract, hq, hctx]
    | true =>
      cases hreplies : o.replies <;>
        simp [Impl.flushSwap, Impl.flushSubtract, hq, hctx, writeUsersRtOnly, Impl.disconnectDb,
          hreplies]

/-- The first half of a job, as the stores see it: nothing, or a flush. -/
theorem begin_cases (libc : Libc F) (st : JobState F) (o : Impl.Outcomes) (job : DbJob) :
    (st.begin libc o job).pushed = st.pushed ∧
      (st.begin libc o job).impl.table = st.impl.table ∧
      ((st.begin libc o job).impl.rtQ = st.impl.rtQ ∧
          (st.begin libc o job).impl.redis = st.impl.redis ∨
        (st.begin libc o job).impl.rtQ = [] ∧
          ((st.begin libc o job).impl.redis = st.impl.redis ∨
            (st.begin libc o job).impl.redis =
              (writeFrom libc o.write st.impl.redis 0 st.impl.rtQ).1)) := by
  obtain ⟨⟨c, m, hs⟩, -⟩ := Impl.ensureConnected_spec o.connect st.impl
  simp only [JobState.begin]
  cases (st.impl.ensureConnected o.connect).2 with
  | false => simp [hs]
  | true =>
    have hflush := flushRtWrites_cases libc o.write (st.impl.ensureConnected o.connect).1
    rw [hs] at hflush
    simp only [hs, Bool.not_true, Bool.false_eq_true, if_false]
    exact ⟨trivial, hflush.1, .inr hflush.2⟩

/-- **The first half of a job** keeps the rows whole: a pipeline that
breaks off has written whole snapshots, and none it did not get to. -/
theorem whole_begin (h : Whole libc st) (o : Impl.Outcomes) (job : DbJob) :
    Whole libc (st.begin libc o job) ∧ Grows st.impl (st.begin libc o job).impl := by
  obtain ⟨hpushed, htable, hcases⟩ := begin_cases libc st o job
  rcases hcases with ⟨hrtQ, hredis⟩ | ⟨hrtQ, hredis⟩
  · exact ⟨h.congr hpushed hrtQ hredis htable, fun uid => by rw [htable, hredis]; simp⟩
  · have hpipeline := h.inOrder.writeFrom libc o.write 0
    have hgrow : ∀ uid, redisVersion st.impl.redis uid ≤
        redisVersion (st.begin libc o job).impl.redis uid := by
      intro uid
      rcases hredis with heq | heq
      · rw [heq]
      · rw [heq]
        exact (hpipeline uid).1
    refine ⟨?_, fun uid => ⟨by rw [htable], hgrow uid⟩⟩
    constructor
    · rw [hpushed]
      exact h.stamped
    · rw [hpushed]
      rcases hredis with heq | heq
      · rw [heq]
        exact h.rows
      · rw [heq]
        exact h.rows.writeFrom o.write h.queued 0
    · rw [hpushed, htable]
      exact h.table
    · simp [hrtQ]
    · rw [hrtQ]
      exact ⟨List.Pairwise.nil, by simp⟩
    · intro uid
      rw [hpushed]
      rcases hredis with heq | heq
      · rw [heq]
        exact h.known uid
      · rw [heq]
        rcases (hpipeline uid).2 with hsame | ⟨x, hx, -, hver⟩
        · rw [hsame]
          exact h.known uid
        · rw [hver]
          exact h.stamped x (h.queued x hx)
    · intro uid
      rw [htable]
      exact (h.tableLe uid).trans (hgrow uid)

/-- The second half of a job, as the stores see it: nothing, or the rows
of its users have been handed to the procedure. -/
theorem finishJob_cases (libc : Libc F)
    (sp : UserTable F → List (UserSnapshot F) → UserTable F) (o : Impl.Outcomes) (s : Impl F)
    (rep : Impl.Report F) (job : DbJob) :
    (Impl.finishJob libc sp o s rep job).1.rtQ = s.rtQ ∧
      (Impl.finishJob libc sp o s rep job).1.redis = s.redis ∧
      ((Impl.finishJob libc sp o s rep job).1.table = s.table ∨
        (Impl.finishJob libc sp o s rep job).1.table =
          sp s.table (fetchUsers libc o.fetch s.redis job.uids)) := by
  obtain ⟨⟨c, m, hs⟩, -⟩ := Impl.ensureConnected_spec o.reconnect s
  simp only [Impl.finishJob, hs]
  cases (s.ensureConnected o.reconnect).2 with
  | false => simp
  | true =>
    cases job.uids.isEmpty with
    | true => simp
    | false =>
      cases o.fetch.replies with
      | false => simp [Impl.disconnectDb]
      | true =>
        cases (fetchUsers libc o.fetch s.redis job.uids).isEmpty with
        | true => simp
        | false => cases o.sp <;> simp [Impl.callSpUpsertUserStateBatch, Impl.disconnectDb]

/-- A batch of rows read from Redis: what it puts in the table is what was
read, or what was there. -/
theorem upserted_row (hsp : UpsertsBatch sp) (table : UserTable F) (o : FetchOutcome)
    (store : RedisStore) (uids : List Uid) (uid : Uid) :
    sp table (fetchUsers libc o store uids) uid = table uid ∨
      ∃ row, storedRow libc store uid = some row ∧
        sp table (fetchUsers libc o store uids) uid = some row := by
  by_cases hbatch : ∃ r ∈ fetchUsers libc o store uids, r.uid = uid
  · obtain ⟨r, hr, rfl⟩ := hbatch
    obtain ⟨row, hrow, huid, hsome⟩ := hsp.inBatch table _ r hr
    have hfetch := (mem_fetchUsers hrow).2.1
    rw [huid] at hfetch
    exact .inr ⟨row, hfetch, hsome⟩
  · simp only [not_exists, not_and] at hbatch
    exact .inl (hsp.outside table _ uid hbatch)

/-- **The second half of a job** keeps the rows whole. -/
theorem whole_finish (hsp : UpsertsBatch sp) (h : Whole libc st) :
    Whole libc (st.finish libc sp) ∧ Grows st.impl (st.finish libc sp).impl := by
  unfold JobState.finish
  cases st.underway with
  | none => exact ⟨h, .refl _⟩
  | some oj =>
    obtain ⟨o, job⟩ := oj
    obtain ⟨hrtQ, hredis, htable⟩ := finishJob_cases libc sp o st.impl {} job
    have hrow : ∀ uid, (Impl.finishJob libc sp o st.impl {} job).1.table uid =
        st.impl.table uid ∨ ∃ row, storedRow libc st.impl.redis uid = some row ∧
          (Impl.finishJob libc sp o st.impl {} job).1.table uid = some row := by
      intro uid
      rcases htable with heq | heq
      · rw [heq]
        exact .inl rfl
      · rw [heq]
        exact upserted_row hsp _ _ _ _ uid
    have hversion : ∀ uid, (Impl.finishJob libc sp o st.impl {} job).1.table.version uid =
        st.impl.table.version uid ∨
        (Impl.finishJob libc sp o st.impl {} job).1.table.version uid =
          redisVersion st.impl.redis uid := by
      intro uid
      unfold UserTable.version
      rcases hrow uid with heq | ⟨row, hfetch, heq⟩
      · rw [heq]
        exact .inl rfl
      · rw [heq]
        exact .inr (storedRow_uid hfetch).2
    refine ⟨⟨h.stamped, ?_, ?_, ?_, ?_, ?_, ?_⟩, fun uid => ⟨?_, ?_⟩⟩
    · rw [hredis]
      exact h.rows
    · intro uid row hsome
      rcases hrow uid with heq | ⟨row', hfetch, heq⟩
      · rw [heq] at hsome
        exact h.table uid row hsome
      · rw [heq] at hsome
        cases hsome
        exact h.rows uid row hfetch
    · rw [hrtQ]
      exact h.queued
    · rw [hredis, hrtQ]
      exact h.inOrder
    · rw [hredis]
      exact h.known
    · intro uid
      rw [hredis]
      rcases hversion uid with heq | heq
      · rw [heq]
        exact h.tableLe uid
      · rw [heq]
    · rcases hversion uid with heq | heq
      · rw [heq]
      · rw [heq]
        exact h.tableLe uid
    · rw [hredis]

/-! ## Every run -/

theorem whole_initial (h : st.Initial) : Whole libc st := by
  obtain ⟨⟨-, hpushed, hrtQ⟩, hzero⟩ := h
  constructor
  · simp [hpushed]
  · intro uid row hrow hv
    rw [(storedRow_uid hrow).2, (hzero uid).1] at hv
    exact absurd hv (lt_irrefl 0)
  · intro uid row hrow hv
    have htable := (hzero uid).2
    unfold UserTable.version at htable
    rw [hrow] at htable
    exact absurd htable (Nat.pos_iff_ne_zero.mp hv)
  · simp [hrtQ]
  · rw [hrtQ]
    exact ⟨List.Pairwise.nil, by simp⟩
  · exact fun uid => by simp [(hzero uid).1]
  · exact fun uid => by rw [(hzero uid).1, (hzero uid).2]

theorem whole_step (hsp : UpsertsBatch sp) (h : Whole libc st) (a : JobAction F) :
    Whole libc (st.step libc sp a) ∧ Grows st.impl (st.step libc sp a).impl := by
  cases a with
  | push x => exact ⟨whole_push h x, .refl _⟩
  | begin o job => exact whole_begin h o job
  | finish => exact whole_finish hsp h

theorem run_whole (hsp : UpsertsBatch sp) {l : List (JobState F × JobAction F)}
    (r : Run (jobSystem libc sp) l st) : Whole libc st := by
  refine r.invariant (fun _ => whole_initial) fun s a t h hstep => ?_
  obtain ⟨-, rfl⟩ := hstep
  exact (whole_step hsp h a).1

theorem run_grows (hsp : UpsertsBatch sp) {l : List (JobState F × JobAction F)}
    (r : Run (jobSystem libc sp) l st) : ∀ p ∈ l, Grows p.1.impl st.impl := by
  induction r with
  | start _ => simp
  | step r hstep ih =>
    obtain ⟨-, rfl⟩ := hstep
    have hgrow := fun a => (whole_step hsp (run_whole hsp r) a).2
    intro p hp
    rcases List.mem_cons.mp hp with rfl | hp
    · exact hgrow _
    · exact (ih p hp).trans (hgrow _)

/-- **Rows are whole whatever fails.** Over every run of jobs and pushes,
with any of a job's steps failing anywhere, a user's row in Redis or in
MySQL is one snapshot of that user, all of it; MySQL is never ahead of
Redis; and neither goes back to an older snapshot. -/
theorem rows_are_whole (hsp : UpsertsBatch sp) {l : List (JobState F × JobAction F)}
    (r : Run (jobSystem libc sp) l st) (uid : Uid) :
    (∀ row, storedRow libc st.impl.redis uid = some row → FromOne libc st.pushed uid row) ∧
      (∀ row, st.impl.table uid = some row → FromOne libc st.pushed uid row) ∧
      st.impl.table.version uid ≤ redisVersion st.impl.redis uid ∧
      ∀ p ∈ l, p.1.impl.table.version uid ≤ st.impl.table.version uid ∧
        redisVersion p.1.impl.redis uid ≤ redisVersion st.impl.redis uid := by
  have h := run_whole hsp r
  exact ⟨h.rows uid, h.table uid, h.tableLe uid, fun p hp => run_grows hsp r p hp uid⟩

/-- Nothing fails but the second command of a pipeline. -/
def secondLost : Impl.Outcomes where
  connect := ⟨true, true, true⟩
  write := { WriteOutcome.allOk plainRedis with reaches := fun i => i != 1 }
  reconnect := ⟨true, true, true⟩
  fetch := .allOk plainRedis
  sp := .ok

/-- A user with some `hp` left. -/
def withHp (hp : Int) : UserSnapshot Int := ⟨3, 5, 0, hp, 0, 0⟩

/-- Two snapshots of one user, the second of which is lost on the way: the
row is the first. -/
theorem rows_are_whole_second_lost :
    let start : JobState Int := { impl := {} }
    let pushed := (start.push (withHp 90)).push (withHp 40)
    let stored := (pushed.begin intLibc secondLost ⟨[3], fun _ => []⟩).finish intLibc
      upsertUserState
    stored.impl.table.version 3 = 1 ∧
      ∀ row, stored.impl.table 3 = some row → FromOne intLibc stored.pushed 3 row := by
  intro start pushed stored
  have r₀ : Run (jobSystem intLibc upsertUserState) [] start :=
    .start ⟨⟨rfl, rfl, rfl⟩, fun _ => ⟨rfl, rfl⟩⟩
  have r₂ := (r₀.next (.push (withHp 90)) ⟨trivial, rfl⟩).next (.push (withHp 40)) ⟨trivial, rfl⟩
  have r₃ := (r₂.next (.begin secondLost ⟨[3], fun _ => []⟩) ⟨rfl, rfl⟩).next .finish
    ⟨trivial, rfl⟩
  exact ⟨by decide +kernel, (rows_are_whole upsertUserState_upserts r₃ 3).2.1⟩

end MmorpgServer.Storage
