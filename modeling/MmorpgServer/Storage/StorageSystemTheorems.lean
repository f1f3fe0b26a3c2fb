/-
MmorpgServer.Storage.StorageSystemTheorems — what one database job loses
when a step of it fails.

`handleDbJob` takes its input destructively: the users of the job have
left the `DirtyHub` and the snapshots leave `rt_q_` before anything is
written. No exit of it puts either back, while the timer's sibling path
re-marks the users of a job that `try_push` refuses. `handleDbJob_spec`
computes what a job drains, writes and upserts for every choice of
failures, and `no_loss_iff` reads off exactly when nothing is lost.
-/
import MmorpgServer.Storage.StorageSystem

namespace MmorpgServer.Storage

variable {F : Type}

/-! ## Writing to Redis -/

/-- A command reaches the server, which takes it. -/
def Lands (o : WriteOutcome) (store : RedisStore) (i : Nat) (uid : Uid) : Prop :=
  o.reaches i = true ∧ o.refuses i = none ∧ ¬ WrongType store uid

theorem hset_wrongType (service : RedisService) {store : RedisStore} {uid : Uid}
    (h : WrongType store uid) (kvs : List (String × String)) (v : Nat) :
    (service.hset store (keyRt uid) kvs v).1 = store :=
  (service.hset_other store _ kvs v h).1

theorem hset_fst (service : RedisService) {store : RedisStore} {uid : Uid}
    (h : ¬ WrongType store uid) (kvs : List (String × String)) (v : Nat) :
    (service.hset store (keyRt uid) kvs v).1 = Function.update store (keyRt uid)
      (some (.hash (setFields (hashAt store (keyRt uid)) kvs) v)) :=
  (service.hset_hash store _ kvs v h).1

theorem hset_isError (service : RedisService) (store : RedisStore) (uid : Uid)
    (kvs : List (String × String)) (v : Nat) :
    (service.hset store (keyRt uid) kvs v).2.isError = true ↔ WrongType store uid := by
  by_cases h : WrongType store uid
  · simp [(service.hset_other store _ kvs v h).2, h]
  · simp [(service.hset_hash store _ kvs v h).2, h]

/-- A command touches no other key. -/
theorem hset_fst_of_ne (service : RedisService) {store : RedisStore} {uid u : Uid} (h : u ≠ uid)
    (kvs : List (String × String)) (v : Nat) :
    (service.hset store (keyRt uid) kvs v).1 (keyRt u) = store (keyRt u) := by
  have hkey : keyRt u ≠ keyRt uid := fun hk => h (keyRt_injective hk)
  by_cases htype : WrongType store uid
  · rw [hset_wrongType service htype]
  · rw [hset_fst service htype, Function.update_of_ne hkey]

/-- HSET leaves a key of the wrong type alone, and makes no other one so. -/
theorem wrongType_hset (service : RedisService) (store : RedisStore) (uid u : Uid)
    (kvs : List (String × String)) (v : Nat) :
    WrongType (service.hset store (keyRt uid) kvs v).1 u ↔ WrongType store u := by
  by_cases hu : u = uid
  · subst hu
    by_cases htype : WrongType store u
    · rw [hset_wrongType service htype]
    · refine iff_of_false ?_ htype
      rw [hset_fst service htype]
      simp [WrongType]
  · unfold WrongType
    rw [hset_fst_of_ne service hu]

theorem complete_setFields (libc : Libc F) (s : UserSnapshot F) (f : String → Option String) :
    ∀ k ∈ ["x", "z", "hp", "sp"], setFields f (rtFields libc s) k ≠ none := by
  intro k hk
  simp only [List.mem_cons, List.not_mem_nil, or_false] at hk
  rcases hk with rfl | rfl | rfl | rfl <;> simp [setFields, rtFields, Function.update]

/-- The row a snapshot leaves: complete, and of its version. -/
theorem hset_complete (libc : Libc F) (service : RedisService) {store : RedisStore}
    (s : UserSnapshot F) (h : ¬ WrongType store s.uid) :
    Complete (service.hset store (keyRt s.uid) (rtFields libc s) s.version).1 s.uid ∧
    redisVersion (service.hset store (keyRt s.uid) (rtFields libc s) s.version).1 s.uid =
      s.version := by
  rw [hset_fst service h]
  simp only [Complete, redisVersion, Function.update_self]
  exact ⟨⟨_, _, rfl, complete_setFields libc s _⟩, trivial⟩

theorem writeFrom_cons (libc : Libc F) (o : WriteOutcome) (store : RedisStore) (i : Nat)
    (s : UserSnapshot F) (snaps : List (UserSnapshot F)) :
    writeFrom libc o store i (s :: snaps) =
      ((writeFrom libc o (writeOne libc o store i s).1 (i + 1) snaps).1,
        (s, (writeOne libc o store i s).2) ::
          (writeFrom libc o (writeOne libc o store i s).1 (i + 1) snaps).2) := rfl

theorem writeOne_fst (libc : Libc F) {o : WriteOutcome} {store : RedisStore} {i : Nat}
    {s : UserSnapshot F} (h : Lands o store i s.uid) : (writeOne libc o store i s).1 =
      (o.service.hset store (keyRt s.uid) (rtFields libc s) s.version).1 := by
  simp [writeOne, h.1, h.2.1]

theorem wrongType_writeOne (libc : Libc F) (o : WriteOutcome) (store : RedisStore) (i : Nat)
    (s : UserSnapshot F) (u : Uid) :
    WrongType (writeOne libc o store i s).1 u ↔ WrongType store u := by
  unfold writeOne
  split
  · exact wrongType_hset _ _ _ _ _ _
  · rfl

theorem wrongType_writeFrom (libc : Libc F) (o : WriteOutcome) (store : RedisStore) (i : Nat)
    (snaps : List (UserSnapshot F)) (u : Uid) :
    WrongType (writeFrom libc o store i snaps).1 u ↔ WrongType store u := by
  induction snaps generalizing store i with
  | nil => rfl
  | cons s snaps ih => rw [writeFrom_cons, ih, wrongType_writeOne]

theorem writeOne_snd (libc : Libc F) (o : WriteOutcome) (store : RedisStore) (i : Nat)
    (s : UserSnapshot F) : (writeOne libc o store i s).2 = true ↔ Lands o store i s.uid := by
  have herror := hset_isError o.service store s.uid (rtFields libc s) s.version
  unfold writeOne Lands
  by_cases hreaches : o.reaches i = true
  · cases o.refuses i with
    | some msg => simp [hreaches]
    | none => simp [hreaches, ← herror]
  · simp [hreaches]

/-- Every snapshot of the pipeline is written exactly when every command
lands. -/
theorem writeFrom_all_written (libc : Libc F) (o : WriteOutcome) (store : RedisStore) (i : Nat)
    (snaps : List (UserSnapshot F)) :
    (∀ d ∈ (writeFrom libc o store i snaps).2, d.2 = true) ↔
      ∀ (j : Nat) (hj : j < snaps.length), Lands o store (i + j) snaps[j].uid := by
  induction snaps generalizing store i with
  | nil => simp [writeFrom]
  | cons s snaps ih =>
    rw [writeFrom_cons, List.forall_mem_cons, ih, writeOne_snd]
    simp only [Lands, wrongType_writeOne]
    constructor
    · rintro ⟨h₀, hrest⟩ j hj
      cases j with
      | zero => exact h₀
      | succ j =>
        have h := hrest j (by simpa using hj)
        rw [show i + (j + 1) = i + 1 + j by omega]
        exact h
    · intro h
      refine ⟨h 0 (by simp), fun j hj => ?_⟩
      have hj' := h (j + 1) (by simpa using hj)
      rw [show i + (j + 1) = i + 1 + j by omega] at hj'
      exact hj'

/-- The newest snapshot of a user in a list, the one written last. -/
def newest (snaps : List (UserSnapshot F)) (uid : Uid) : Option (UserSnapshot F) :=
  (snaps.filter fun s => s.uid = uid).getLast?

theorem newest_cons (s : UserSnapshot F) (snaps : List (UserSnapshot F)) (uid : Uid) :
    newest (s :: snaps) uid =
      match newest snaps uid with
      | some s' => some s'
      | none => if s.uid = uid then some s else none := by
  unfold newest
  by_cases hs : s.uid = uid
  · rw [List.filter_cons_of_pos (by simpa using hs), List.getLast?_cons]
    cases (snaps.filter fun s => s.uid = uid).getLast? with
    | none => simp [hs]
    | some s' => simp
  · rw [List.filter_cons_of_neg (by simpa using hs)]
    cases (snaps.filter fun s => s.uid = uid).getLast? <;> simp [hs]

theorem newest_eq_none {snaps : List (UserSnapshot F)} {uid : Uid} :
    newest snaps uid = none ↔ ∀ x ∈ snaps, x.uid ≠ uid := by
  simp [newest]

/-- A user's row after a pipeline whose commands all landed: its newest
snapshot, or what was there before. -/
theorem writeFrom_row (libc : Libc F) {o : WriteOutcome} {store : RedisStore} {i : Nat}
    {snaps : List (UserSnapshot F)}
    (h : ∀ d ∈ (writeFrom libc o store i snaps).2, d.2 = true) (uid : Uid) :
    match newest snaps uid with
    | some s => Complete (writeFrom libc o store i snaps).1 uid ∧
        redisVersion (writeFrom libc o store i snaps).1 uid = s.version
    | none => (writeFrom libc o store i snaps).1 (keyRt uid) = store (keyRt uid) := by
  induction snaps generalizing store i with
  | nil => rfl
  | cons s snaps ih =>
    rw [writeFrom_cons, List.forall_mem_cons] at h
    obtain ⟨h₀, hrest⟩ := h
    have hi := ih hrest
    rw [writeFrom_cons, newest_cons]
    cases hn : newest snaps uid with
    | some s' =>
      rw [hn] at hi
      exact hi
    | none =>
      rw [hn] at hi
      have hland := (writeOne_snd libc o store i s).mp h₀
      have hone := writeOne_fst libc hland
      by_cases hs : s.uid = uid
      · subst hs
        have hrow := hset_complete libc o.service s hland.2.2
        rw [← hone] at hrow
        simp only [if_true]
        unfold Complete redisVersion at hrow ⊢
        rw [hi]
        exact hrow
      · simp only [if_neg hs]
        rw [hi, hone, hset_fst_of_ne _ (Ne.symm hs)]

/-! ## One job -/

namespace Impl

/-- A `connect_db` that succeeds. -/
def ConnectOutcome.Ok (o : ConnectOutcome) : Prop :=
  o.redisConnect = true ∧ o.mysqlInit = true ∧ o.mysqlConnect = true

/-- Both connections are up. -/
def Connected (s : Impl F) : Prop := s.redisCtx = true ∧ s.mysql = true

theorem connected_iff (s : Impl F) : (s.redisCtx && s.mysql) = true ↔ s.Connected :=
  Bool.and_eq_true_iff

/-- From no connections, `connectDb` changes the connections only, and they
are up afterwards exactly when connecting succeeded. -/
theorem connectDb_spec (o : ConnectOutcome) (s : Impl F) :
    (∃ r m, s.disconnectDb.connectDb o = { s with redisCtx := r, mysql := m }) ∧
    ((s.disconnectDb.connectDb o).Connected ↔ o.Ok) := by
  obtain ⟨ro, io, mo⟩ := o
  unfold Connected ConnectOutcome.Ok
  cases ro with
  | false => exact ⟨⟨_, _, rfl⟩, by simp [connectDb, disconnectDb]⟩
  | true =>
    cases io with
    | false => exact ⟨⟨_, _, rfl⟩, by simp [connectDb, disconnectDb]⟩
    | true =>
      cases mo with
      | false => exact ⟨⟨_, _, rfl⟩, by simp [connectDb, disconnectDb]⟩
      | true => exact ⟨⟨_, _, rfl⟩, by simp [connectDb, disconnectDb]⟩

/-- `ensureConnected` changes the connections only, and they are up
afterwards exactly when it says so: when they were before, or connecting
succeeded. -/
theorem ensureConnected_spec (o : ConnectOutcome) (s : Impl F) :
    (∃ r m, (s.ensureConnected o).1 = { s with redisCtx := r, mysql := m }) ∧
    ((s.ensureConnected o).2 = true ↔ s.Connected ∨ o.Ok) ∧
    ((s.ensureConnected o).2 = true → (s.ensureConnected o).1.Connected) := by
  unfold ensureConnected
  by_cases hup : (s.redisCtx && s.mysql) = true
  · rw [if_pos hup]
    have hconnected := (connected_iff s).mp hup
    exact ⟨⟨s.redisCtx, s.mysql, rfl⟩, iff_of_true rfl (.inl hconnected), fun _ => hconnected⟩
  · rw [if_neg hup]
    have hdown : ¬ s.Connected := fun h => hup ((connected_iff s).mpr h)
    obtain ⟨hframe, hconnect⟩ := connectDb_spec o s
    refine ⟨hframe, ?_, (connected_iff _).mp⟩
    exact (connected_iff _).trans (hconnect.trans (or_iff_right hdown).symm)

/-- What `flushRtWrites` does over a connection: everything queued is
drained and sent, and the connections survive unless a reply is lost. -/
theorem flushRtWrites_spec (libc : Libc F) (o : WriteOutcome) {s : Impl F} (hc : s.Connected) :
    (s.flushRtWrites libc o).1.dirty = s.dirty ∧ (s.flushRtWrites libc o).1.rtQ = [] ∧
    (s.flushRtWrites libc o).1.redis = (writeFrom libc o s.redis 0 s.rtQ).1 ∧
    (s.flushRtWrites libc o).2 = { drained := (writeFrom libc o s.redis 0 s.rtQ).2 } ∧
    ((s.flushRtWrites libc o).1.Connected ↔ s.rtQ = [] ∨ o.replies = true) := by
  unfold flushRtWrites
  cases hq : s.rtQ with
  | nil => simpa [writeFrom, hq, Connected] using hc
  | cons x q =>
    have hr : s.redisCtx = true := hc.1
    have hne : (x :: q).isEmpty = false := rfl
    simp only [hne, flushSwap, flushSubtract, hq, Bool.false_eq_true, if_false, hr, Bool.not_true,
      writeUsersRtOnly, Bool.false_or]
    cases ho : o.replies with
    | true => simpa [Connected] using hc.2
    | false => simp [Connected, disconnectDb]

section

variable (libc : Libc F) (sp : UserTable F → List (UserSnapshot F) → UserTable F)

/-- The worker gets past the first `ensure_connected`. -/
def Begins (s : Impl F) (o : Outcomes) : Prop := s.Connected ∨ o.connect.Ok

/-- It gets past the second one too. -/
def Resumes (s : Impl F) (o : Outcomes) : Prop :=
  (s.rtQ = [] ∨ o.write.replies = true) ∨ o.reconnect.Ok

/-- A job that finds no connection touches nothing. -/
theorem handleDbJob_not_begins {s : Impl F} {o : Outcomes} (h : ¬ s.Begins o) (job : DbJob) :
    (s.handleDbJob libc sp o job).1.dirty = s.dirty ∧
    (s.handleDbJob libc sp o job).2 = {} := by
  obtain ⟨⟨r, m, hs⟩, hok, -⟩ := ensureConnected_spec o.connect s
  have hfalse : (s.ensureConnected o.connect).2 = false := by
    rw [← Bool.not_eq_true, hok]
    exact h
  simp [handleDbJob, hfalse, hs]

/-- `handleDbJob` from the second `ensure_connected` on. -/
def finishJob (o : Outcomes) (s : Impl F) (rep : Report F) (job : DbJob) : Impl F × Report F :=
  let c := s.ensureConnected o.reconnect
  if !c.2 then (c.1, rep)
  else if job.uids.isEmpty then (c.1, rep)
  else if !o.fetch.replies then (c.1.disconnectDb, rep)
  else
    let s := { c.1 with snap := fetchUsers libc o.fetch c.1.redis job.uids }
    if s.snap.isEmpty then (s, rep)
    else
      let r := callSpUpsertUserStateBatch sp o.sp s.table s.snap
      let s := { s with table := r.1 }
      (if !r.2.2 then s.disconnectDb else s, { rep with upserted := r.2.1 })

theorem handleDbJob_eq {s : Impl F} {o : Outcomes} (h : s.Begins o) (job : DbJob) :
    s.handleDbJob libc sp o job =
      finishJob libc sp o ((s.ensureConnected o.connect).1.flushRtWrites libc o.write).1
        ((s.ensureConnected o.connect).1.flushRtWrites libc o.write).2 job := by
  have hgo : (s.ensureConnected o.connect).2 = true := (ensureConnected_spec o.connect s).2.1.mpr h
  simp only [handleDbJob, hgo, Bool.not_true, Bool.false_eq_true, if_false]
  rfl

/-- The second half marks nobody, queues nothing, and upserts the complete
rows of the job's users if none of its steps fails. -/
theorem finishJob_spec (o : Outcomes) (s : Impl F) (rep : Report F) (hrep : rep.upserted = [])
    (job : DbJob) :
    (finishJob libc sp o s rep job).1.dirty = s.dirty ∧
    (finishJob libc sp o s rep job).1.rtQ = s.rtQ ∧
    (finishJob libc sp o s rep job).2.drained = rep.drained ∧
    (∀ r, r ∈ (finishJob libc sp o s rep job).2.upserted ↔
      (s.Connected ∨ o.reconnect.Ok) ∧ o.fetch.replies = true ∧ o.sp ≠ .notRun ∧
        r ∈ fetchUsers libc o.fetch s.redis job.uids) := by
  obtain ⟨⟨c, m, hs⟩, hok, -⟩ := ensureConnected_spec o.reconnect s
  rw [← hok]
  simp only [finishJob, hs]
  cases (s.ensureConnected o.reconnect).2 with
  | false => simp [hrep]
  | true =>
    cases hu : job.uids with
    | nil => simp [hrep, fetchUsers, fetchFrom]
    | cons uid uids =>
      cases o.fetch.replies with
      | false => simp [hrep, disconnectDb]
      | true =>
        cases hf : fetchUsers libc o.fetch s.redis (uid :: uids) with
        | nil => simp [hrep]
        | cons row rows => cases o.sp <;> simp [callSpUpsertUserStateBatch, disconnectDb]

/-- A job that begins drains `rt_q_`, and upserts the complete rows of its
users if it gets that far. -/
theorem handleDbJob_begins {s : Impl F} {o : Outcomes} (h : s.Begins o) (job : DbJob) :
    (s.handleDbJob libc sp o job).1.dirty = s.dirty ∧
    (s.handleDbJob libc sp o job).1.rtQ = [] ∧
    (s.handleDbJob libc sp o job).2.drained = (writeFrom libc o.write s.redis 0 s.rtQ).2 ∧
    (∀ r, r ∈ (s.handleDbJob libc sp o job).2.upserted ↔
      s.Resumes o ∧ o.fetch.replies = true ∧ o.sp ≠ .notRun ∧
        r ∈ fetchUsers libc o.fetch (writeFrom libc o.write s.redis 0 s.rtQ).1 job.uids) := by
  obtain ⟨⟨c, m, hs⟩, hok, hup⟩ := ensureConnected_spec o.connect s
  obtain ⟨hd, hq, hredis, hrep, hcon⟩ := flushRtWrites_spec libc o.write (hup (hok.mpr h))
  obtain ⟨hd', hq', hdr', hups'⟩ := finishJob_spec libc sp o
    ((s.ensureConnected o.connect).1.flushRtWrites libc o.write).1
    ((s.ensureConnected o.connect).1.flushRtWrites libc o.write).2 (by rw [hrep]) job
  rw [handleDbJob_eq libc sp h]
  rw [hs] at hd hq hredis hrep hcon hd' hq' hdr' hups' ⊢
  refine ⟨hd'.trans hd, hq'.trans hq, ?_, fun r => ?_⟩
  · rw [hdr', hrep]
  · rw [hups', hredis, hcon]
    rfl

end

/-! ## What is lost -/

/-- MySQL took a row of the user that carries the state of this flush: the
newest snapshot drained for the user, if there was one. -/
def Persisted (rep : Report F) (uid : Uid) : Prop :=
  ∃ r ∈ rep.upserted, r.uid = uid ∧
    ∀ s, newest (rep.drained.map Prod.fst) uid = some s → r.version = s.version

/-- Nothing is lost in a job: each of its users is persisted or dirty
again, and each snapshot drained was written or is queued again. -/
def NoLoss (s' : Impl F) (rep : Report F) (job : DbJob) : Prop :=
  (∀ uid ∈ job.uids, Persisted rep uid ∨ s'.dirty.Has uid) ∧
  (∀ d ∈ rep.drained, d.2 = true ∨ d.1 ∈ s'.rtQ)

/-- An HMGET of the user is answered with its fields, not with an error. -/
def Answered (o : FetchOutcome) (job : DbJob) (uid : Uid) : Prop :=
  ∃ i, job.uids[i]? = some uid ∧ o.refuses i = none

/-- No step of the job fails for this user. -/
def Served (s : Impl F) (o : Outcomes) (job : DbJob) (uid : Uid) : Prop :=
  s.Begins o ∧ s.Resumes o ∧ o.fetch.replies = true ∧ Answered o.fetch job uid ∧
    o.sp ≠ .notRun ∧ ((∃ x ∈ s.rtQ, x.uid = uid) ∨ Complete s.redis uid)

/-- Every queued snapshot is carried out by the server. -/
def AllLand (s : Impl F) (o : Outcomes) : Prop :=
  ∀ (i : Nat) (hi : i < s.rtQ.length), Lands o.write s.redis i s.rtQ[i].uid

theorem writeFrom_map_fst (libc : Libc F) (o : WriteOutcome) (store : RedisStore) (i : Nat)
    (snaps : List (UserSnapshot F)) : (writeFrom libc o store i snaps).2.map Prod.fst = snaps := by
  induction snaps generalizing store i with
  | nil => rfl
  | cons s snaps ih => rw [writeFrom_cons, List.map_cons, ih]

section

variable (libc : Libc F) (sp : UserTable F → List (UserSnapshot F) → UserTable F)

/-- The snapshots are safe exactly when they all land. -/
theorem drained_safe_iff {s : Impl F} {o : Outcomes} (h : s.Begins o) (job : DbJob) :
    (∀ d ∈ (s.handleDbJob libc sp o job).2.drained,
      d.2 = true ∨ d.1 ∈ (s.handleDbJob libc sp o job).1.rtQ) ↔ s.AllLand o := by
  obtain ⟨-, hq, hdr, -⟩ := handleDbJob_begins libc sp h job
  rw [hq, hdr]
  simp only [List.not_mem_nil, or_false]
  rw [writeFrom_all_written]
  simp only [AllLand, Nat.zero_add]

/-- Once the snapshots are safe, a user is persisted exactly when no step
fails for it. -/
theorem persisted_iff {s : Impl F} {o : Outcomes} (h : s.Begins o) (hland : s.AllLand o)
    (job : DbJob) (uid : Uid) :
    Persisted (s.handleDbJob libc sp o job).2 uid ↔ s.Served o job uid := by
  obtain ⟨-, -, hdr, hups⟩ := handleDbJob_begins libc sp h job
  have hall : ∀ d ∈ (writeFrom libc o.write s.redis 0 s.rtQ).2, d.2 = true := by
    rw [writeFrom_all_written]
    simpa only [AllLand, Nat.zero_add] using hland
  -- the user's row when it is fetched
  have hrow := writeFrom_row libc hall uid
  have hcomplete : Complete (writeFrom libc o.write s.redis 0 s.rtQ).1 uid ↔
      (∃ x ∈ s.rtQ, x.uid = uid) ∨ Complete s.redis uid := by
    cases hn : newest s.rtQ uid with
    | some x =>
      rw [hn] at hrow
      have hx : ∃ x ∈ s.rtQ, x.uid = uid := by
        by_contra hno
        have hnone : newest s.rtQ uid = none :=
          newest_eq_none.mpr fun x hx hxu => hno ⟨x, hx, hxu⟩
        rw [hn] at hnone
        cases hnone
      exact ⟨fun _ => Or.inl hx, fun _ => hrow.1⟩
    | none =>
      rw [hn] at hrow
      have hx : ¬ ∃ x ∈ s.rtQ, x.uid = uid := by
        rintro ⟨x, hx, hxu⟩
        exact newest_eq_none.mp hn x hx hxu
      simp only [hx, false_or, Complete, hrow]
  have hfetch : (∃ r ∈ fetchUsers libc o.fetch (writeFrom libc o.write s.redis 0 s.rtQ).1
      job.uids, r.uid = uid) ↔
      Answered o.fetch job uid ∧ Complete (writeFrom libc o.write s.redis 0 s.rtQ).1 uid := by
    constructor
    · rintro ⟨r, hr, hru⟩
      obtain ⟨i, hi, hrefuses, hread⟩ := mem_fetchUsers_iff.mp hr
      obtain rfl : job.uids[i] = uid := (storedRow_uid hread).1.symm.trans hru
      exact ⟨⟨i, List.getElem?_eq_getElem hi, hrefuses⟩,
        (storedRow_isSome libc _ _).mp (by rw [hread]; rfl)⟩
    · rintro ⟨⟨i, hi, hrefuses⟩, hc⟩
      obtain ⟨hlt, rfl⟩ := List.getElem?_eq_some_iff.mp hi
      obtain ⟨r, hr, hru, -⟩ := fetchUsers_complete hlt hrefuses hc
      exact ⟨r, hr, hru⟩
  unfold Persisted Served
  constructor
  · rintro ⟨r, hr, hru, -⟩
    obtain ⟨hres, hrep, hsp, hr⟩ := (hups r).mp hr
    obtain ⟨hanswered, hc⟩ := hfetch.mp ⟨r, hr, hru⟩
    exact ⟨h, hres, hrep, hanswered, hsp, hcomplete.mp hc⟩
  · rintro ⟨-, hres, hrep, hanswered, hsp, hc⟩
    obtain ⟨r, hr, hru⟩ := hfetch.mpr ⟨hanswered, hcomplete.mpr hc⟩
    refine ⟨r, (hups r).mpr ⟨hres, hrep, hsp, hr⟩, hru, fun x hx => ?_⟩
    rw [hdr, writeFrom_map_fst] at hx
    rw [hx] at hrow
    rw [(mem_fetchUsers hr).2.2, hru]
    exact hrow.2

/-- **Exactly when a job loses nothing**, whichever of its steps fail:
the snapshots it drains, if it begins at all, are all carried out by
Redis, and each of its users is already marked again or no step of the
job fails for it, the HMGET of the user included. -/
theorem no_loss_iff (s : Impl F) (o : Outcomes) (job : DbJob) :
    NoLoss (s.handleDbJob libc sp o job).1 (s.handleDbJob libc sp o job).2 job ↔
      (s.Begins o → s.AllLand o) ∧ ∀ uid ∈ job.uids, s.dirty.Has uid ∨ s.Served o job uid := by
  by_cases h : s.Begins o
  · unfold NoLoss
    rw [drained_safe_iff libc sp h, (handleDbJob_begins libc sp h job).1]
    constructor
    · rintro ⟨hpers, hland⟩
      refine ⟨fun _ => hland, fun uid hin => ?_⟩
      rcases hpers uid hin with hp | hd
      · exact Or.inr ((persisted_iff libc sp h hland job uid).mp hp)
      · exact Or.inl hd
    · rintro ⟨hland, hserved⟩
      refine ⟨fun uid hin => ?_, hland h⟩
      rcases hserved uid hin with hd | hs
      · exact Or.inr hd
      · exact Or.inl ((persisted_iff libc sp h (hland h) job uid).mpr hs)
  · obtain ⟨hd, hrep⟩ := handleDbJob_not_begins libc sp h job
    have hnot : ∀ uid, ¬ s.Served o job uid := fun uid hs => h hs.1
    have hpers : ∀ uid, ¬ Persisted ({} : Report F) uid := by
      rintro uid ⟨r, hr, -⟩
      cases hr
    unfold NoLoss
    simp only [hpers, hnot, false_or, or_false, hd, h, false_imp_iff, true_and, hrep,
      List.not_mem_nil, implies_true, and_true]

end

/-- A job for user 7 whose snapshot is on `rt_q_`: the pipeline fails, the
reconnect fails, and both the snapshot and the mark are gone. -/
theorem failed_job_loses_state :
    ¬ ∀ (F : Type) (libc : Libc F) (sp : UserTable F → List (UserSnapshot F) → UserTable F)
      (s : Impl F) (o : Outcomes) (job : DbJob),
      NoLoss (s.handleDbJob libc sp o job).1 (s.handleDbJob libc sp o job).2 job := by
  intro hall
  let s : Impl Int :=
    { redisCtx := true, mysql := true, rtPending := 1,
      rtQ := [{ uid := 7, x := 1, z := 2, hp := 90, sp := 30, version := 1 }] }
  let o : Outcomes :=
    { connect := ⟨true, true, true⟩
      write := ⟨plainRedis, fun _ => false, fun _ => none, false⟩
      reconnect := ⟨false, true, true⟩, fetch := .allOk plainRedis, sp := .ok }
  have h := (hall Int intLibc upsertUserState s o { uids := [7] }).2
    ({ uid := 7, x := 1, z := 2, hp := 90, sp := 30, version := 1 }, false) List.mem_cons_self
  rcases h with h | h
  · cases h
  · cases h

end Impl

end MmorpgServer.Storage
