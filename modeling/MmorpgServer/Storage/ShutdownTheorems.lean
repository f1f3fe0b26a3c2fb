/-
MmorpgServer.Storage.ShutdownTheorems — what a graceful stop persists.

`stop()` cancels the timer, which alone moves users out of `DirtyHub`, and
drains the job queue only. `covered_step` is what one step of the worker
keeps: whether the newest snapshot of a user will reach MySQL is settled
when `stop()` is called. `stop_persists` compares that moment with the
return of `stop()`.
-/
import MmorpgServer.Storage.Shutdown
import MmorpgServer.Storage.ThreadsTheorems

namespace MmorpgServer.Storage

open MmorpgServer.Lib

variable {F : Type}

/-! ## The newest snapshot is on the road -/

/-- The newest snapshot pushed for a user is still to be marked, or is. -/
def State.Announced (s : State F) : Prop :=
  ∀ uid, s.last uid = 0 ∨ s.producer uid = .pushed (s.last uid) ∨
    s.producer uid = .counted (s.last uid) ∨ s.last uid ∈ s.marks uid

/-- What the worker does not touch. -/
theorem workerNext_frame (libc : Libc F) (service : RedisService)
    (sp : UserTable F → List (UserSnapshot F) → UserTable F) (s : State F) :
    (s.workerNext libc service sp).last = s.last ∧
      (s.workerNext libc service sp).producer = s.producer ∧
      (s.workerNext libc service sp).marks = s.marks ∧
      (s.workerNext libc service sp).timer = s.timer ∧
      (s.workerNext libc service sp).impl.dirty = s.impl.dirty := by
  unfold State.workerNext
  cases s.worker with
  | waiting => cases s.impl.queue <;> exact ⟨rfl, rfl, rfl, rfl, rfl⟩
  | swap job =>
    refine ⟨rfl, rfl, rfl, rfl, ?_⟩
    simp only [Impl.flushSwap]
    split <;> rfl
  | fetch job =>
    simp only
    split <;> exact ⟨rfl, rfl, rfl, rfl, rfl⟩
  | subtract job | write job | upsert job snap => exact ⟨rfl, rfl, rfl, rfl, rfl⟩

section

variable {libc : Libc F} {service : RedisService}
  {sp : UserTable F → List (UserSnapshot F) → UserTable F}
  {maxBatchUids : Nat}

theorem announced_next {s : State F} (h : s.Announced) {a : Action F} (ha : s.Enabled a) :
    (s.next libc service sp maxBatchUids a).Announced := by
  intro uid
  have hu := h uid
  cases a with
  | push x =>
    by_cases hx : uid = x.uid
    · subst hx
      simp [State.next]
    · simpa [State.next, Function.update_of_ne hx] using hu
  | count u =>
    obtain ⟨v, hv⟩ := ha
    by_cases hx : uid = u
    · subst hx
      simp only [State.next, hv, Function.update_self]
      simp only [hv, Producer.pushed.injEq, reduceCtorEq, false_or] at hu
      rcases hu with hu | hu | hu
      · exact .inl hu
      · exact .inr (.inr (.inl (by rw [hu])))
      · exact .inr (.inr (.inr hu))
    · simpa [State.next, hv, Function.update_of_ne hx] using hu
  | mark u =>
    obtain ⟨v, hv⟩ := ha
    by_cases hx : uid = u
    · subst hx
      simp only [State.next, hv, Function.update_self, List.mem_cons]
      simp only [hv, Producer.counted.injEq, reduceCtorEq, false_or] at hu
      rcases hu with hu | hu | hu
      · exact .inl hu
      · exact .inr (.inr (.inr (.inl hu.symm)))
      · exact .inr (.inr (.inr (.inr hu)))
    · simpa [State.next, hv, Function.update_of_ne hx] using hu
  | timer order =>
    obtain ⟨-, -, -, -, -, hproducer, hlast, hmarks⟩ :=
      timerNext_frame (max 1 maxBatchUids) order s
    simp only [State.next, hlast, hproducer, hmarks]
    exact hu
  | worker =>
    obtain ⟨hlast, hproducer, hmarks, -⟩ := workerNext_frame libc service sp s
    simp only [State.next, hlast, hproducer, hmarks]
    exact hu

/-- With the producers done, the newest snapshot of a user is in Redis or
on its way there. -/
theorem newest_available {m : Nat} {s : State F} (h : Inv m s) (hann : s.Announced)
    (hidle : ∀ uid, s.producer uid = .idle) {uid : Uid} (hpos : 0 < s.last uid) :
    s.last uid ∈ s.marks uid ∧ Available s.impl.redis s.inbound uid (s.last uid) := by
  have hmarked : s.last uid ∈ s.marks uid := by
    rcases hann uid with hzero | hpushed | hcounted | hmarked
    · omega
    · simp [hidle uid] at hpushed
    · simp [hidle uid] at hcounted
    · exact hmarked
  exact ⟨hmarked, (h.marked uid _ hmarked).2⟩

/-! ## One step of the worker -/

/-- The newest snapshot is in Redis after a pipeline exactly if it was
before or is written by it. -/
theorem write_newest {redis : RedisStore} {table : UserTable F} {last : Uid → Nat}
    {drained rest : List (UserSnapshot F)} (h : Flow redis table last (drained ++ rest))
    (uid : Uid) :
    last uid ≤ redisVersion (writeFrom libc (.allOk service) redis 0 drained).1 uid ↔
      Available redis drained uid (last uid) := by
  constructor
  · intro hle
    have hrow := write_row libc service h.typed drained uid
    cases hn : newest drained uid with
    | some n =>
      rw [hn] at hrow
      obtain ⟨hmem, hu⟩ := newest_mem hn
      exact .inr ⟨n, hmem, hu, hrow.2 ▸ hle⟩
    | none =>
      rw [hn] at hrow
      have hsame : redisVersion (writeFrom libc (.allOk service) redis 0 drained).1 uid =
          redisVersion redis uid := by
        unfold redisVersion
        rw [hrow]
      exact .inl (hsame ▸ hle)
  · exact fun hav => (h.write libc service).2 uid _ hav

/-- MySQL has the newest snapshot after an upsert exactly if it did before
or the batch has it. -/
theorem upsert_newest (hsp : UpsertsBatch sp) {m : Nat} {s : State F} (h : Inv m s) {job : DbJob}
    {snap : List (UserSnapshot F)} (hw : s.worker = .upsert job snap) (uid : Uid) :
    UserTable.version (sp s.impl.table snap) uid = s.last uid ↔
      s.impl.table.version uid = s.last uid ∨ ∃ x ∈ snap, x.uid = uid ∧ x.version = s.last uid := by
  have hflushed := h.flushed
  rw [hw] at hflushed
  obtain ⟨hflow, hgrow, hbatch⟩ := h.flow.upsert hsp hflushed.2
  have hle := (hflow.tableLe uid).trans (hflow.redisLast uid)
  constructor
  · intro hnew
    by_cases hin : ∃ x ∈ snap, x.uid = uid
    · obtain ⟨x, hx, rfl⟩ := hin
      exact .inr ⟨x, hx, rfl, by rw [← hbatch x hx, hnew]⟩
    · left
      have hsame := hsp.outside s.impl.table snap uid fun x hx hu => hin ⟨x, hx, hu⟩
      rw [← hnew]
      unfold UserTable.version
      rw [hsame]
  · rintro (hold | ⟨x, hx, rfl, hv⟩)
    · have hge := hgrow uid
      omega
    · rw [hbatch x hx, hv]

/-- The batch read for a job has the newest snapshot of a user exactly if
the user is in the job and Redis has it. -/
theorem fetch_newest {m : Nat} {s : State F} (h : Inv m s) {uids : List Uid} {uid : Uid}
    (hpos : 0 < s.last uid) :
    (∃ x ∈ fetchUsers libc (.allOk service) s.impl.redis uids,
      x.uid = uid ∧ x.version = s.last uid) ↔
      uid ∈ uids ∧ s.last uid ≤ redisVersion s.impl.redis uid := by
  constructor
  · rintro ⟨x, hx, rfl, hv⟩
    obtain ⟨hmem, -, hversion⟩ := mem_fetchUsers hx
    exact ⟨hmem, by omega⟩
  · rintro ⟨hmem, hle⟩
    have hlast := h.flow.redisLast uid
    obtain ⟨i, hi, rfl⟩ := List.mem_iff_getElem.mp hmem
    obtain ⟨x, hx, hu, hv⟩ := fetchUsers_complete (o := .allOk service) hi rfl
      (h.flow.complete _ (by omega))
    exact ⟨x, hx, hu, by omega⟩

/-- **Settled at `stop()`.** A step of the worker changes for no user
whether its newest snapshot will reach MySQL. -/
theorem covered_step (hsp : UpsertsBatch sp) {m : Nat} {s : State F} (h : Inv m s)
    {uid : Uid} (hpos : 0 < s.last uid)
    (havail : Available s.impl.redis s.inbound uid (s.last uid)) :
    (s.workerNext libc service sp).Covered uid ↔ s.Covered uid := by
  unfold State.Covered State.workerNext
  cases hw : s.worker with
  | waiting =>
    cases hq : s.impl.queue with
    | nil => simp [hw, hq]
    | cons job queue =>
      simp only [List.mem_cons, exists_eq_or_imp, or_false]
      exact or_congr_right or_comm
  | swap job =>
    have hin : s.inbound = s.impl.rtQ := by simp [State.inbound, hw]
    rw [hin] at havail
    cases hq : s.impl.rtQ with
    | nil =>
      have hle : s.last uid ≤ redisVersion s.impl.redis uid := by
        simpa [Available, hq] using havail
      simp [Impl.flushSwap, hq, hle]
    | cons x q =>
      have hnew : s.last uid ≤ redisVersion s.impl.redis uid ∨
          ∃ y ∈ x :: q, y.uid = uid ∧ s.last uid ≤ y.version := by rwa [hq] at havail
      simp only [Impl.flushSwap, hq, List.isEmpty_cons, Bool.false_eq_true, if_false, hnew,
        and_true]
  | subtract job => rfl
  | write job =>
    have hin : s.inbound = s.impl.rtLocal ++ s.impl.rtQ := by simp [State.inbound, hw]
    have hflow := h.flow
    rw [hin] at hflow
    have hwrite := @write_newest F libc service _ _ _ _ _ hflow uid
    simp only [writeUsersRtOnly, hwrite, Available]
  | fetch job =>
    have hfetch := (fetch_newest h hpos : (∃ x ∈ fetchUsers libc (.allOk service) s.impl.redis job.uids, _) ↔ _)
    by_cases hu : job.uids = []
    · simp [hu]
    · simp only [List.isEmpty_iff, hu, if_false, ← hfetch]
      cases fetchUsers libc (.allOk service) s.impl.redis job.uids <;> simp
  | upsert job snap =>
    have hupsert := upsert_newest hsp h hw uid
    simp only [hupsert, or_false, or_assoc]
    exact or_congr_right or_comm

/-- A user nothing was pushed for has nothing to persist. -/
theorem covered_of_last_zero {m : Nat} {s : State F} (h : Inv m s) {uid : Uid}
    (hzero : s.last uid = 0) : s.Covered uid := by
  have hle := (h.flow.tableLe uid).trans (h.flow.redisLast uid)
  exact .inl (by omega)

/-- Between two ticks a user whose newest snapshot is not covered is in
`DirtyHub`. -/
theorem covered_of_dirty {m : Nat} {s : State F} (h : Inv m s) (hann : s.Announced)
    (hidle : ∀ uid, s.producer uid = .idle) (htimer : s.timer = .idle)
    (hdirty : ∀ uid, s.impl.dirty.Has uid → s.Covered uid) (uid : Uid) : s.Covered uid := by
  rcases Nat.eq_zero_or_pos (s.last uid) with hzero | hpos
  · exact covered_of_last_zero h hzero
  · have hmarked := (newest_available h hann hidle hpos).1
    have hle := (h.flow.tableLe uid).trans (h.flow.redisLast uid)
    have hflushed := h.flushed
    rcases h.tickets.covered uid _ hmarked with hrow | hd | ⟨job, hjob, huid, hv⟩
    · exact .inl (by omega)
    · exact hdirty uid hd
    · simp only [State.carried, htimer, Timer.job, Option.toList_none, List.nil_append,
        List.mem_append, Option.mem_toList] at hjob
      rcases hjob with hjob | hjob
      · exact .inr (.inl ⟨job, hjob, huid⟩)
      · refine .inr (.inr ?_)
        cases hw : s.worker with
        | waiting => simp [hw, Worker.job] at hjob
        | swap j =>
          obtain rfl : j = job := by simpa [hw, Worker.job] using hjob
          exact huid
        | subtract j | write j =>
          obtain rfl : j = job := by simpa [hw, Worker.job] using hjob
          rw [hw] at hflushed
          exact ⟨huid, hflushed uid _ hv⟩
        | fetch j =>
          obtain rfl : j = job := by simpa [hw, Worker.job] using hjob
          rw [hw] at hflushed
          exact ⟨huid, hflushed uid _ hv⟩
        | upsert j snap =>
          obtain rfl : j = job := by simpa [hw, Worker.job] using hjob
          rw [hw] at hflushed
          obtain ⟨x, hx, hu, hge⟩ := hflushed.1 uid huid _ hv
          have hversion := hflushed.2 x hx
          have hlast := h.flow.redisLast x.uid
          rw [hu] at hversion hlast
          exact ⟨x, hx, hu, by omega⟩

/-! ## Runs -/

/-- What is known of the state `p` in which `stop()` was called: since then
the worker alone has moved, and nothing was settled differently. -/
structure Since (p t : State F) : Prop where
  timer : p.timer = .idle
  producers : ∀ uid, p.producer uid = .idle
  covered : ∀ uid, t.Covered uid ↔ p.Covered uid
  last : t.last = p.last
  producer : t.producer = p.producer
  marks : t.marks = p.marks
  dirty : t.impl.dirty = p.impl.dirty

theorem Since.worker (hsp : UpsertsBatch sp) {m : Nat} {p t : State F} (h : Since p t)
    (hinv : Inv m t) (hann : t.Announced) : Since p (t.workerNext libc service sp) := by
  obtain ⟨hlast, hproducer, hmarks, -, hdirty⟩ := workerNext_frame libc service sp t
  have hidle : ∀ uid, t.producer uid = .idle := by
    intro uid
    rw [h.producer]
    exact h.producers uid
  refine ⟨h.timer, h.producers, fun uid => ?_, hlast.trans h.last, hproducer.trans h.producer,
    hmarks.trans h.marks, hdirty.trans h.dirty⟩
  rw [← h.covered]
  rcases Nat.eq_zero_or_pos (t.last uid) with hzero | hpos
  · have hzero' : (t.workerNext libc service sp).last uid = 0 := by rw [hlast, hzero]
    have hthere := covered_of_last_zero (worker_inv hsp hinv) hzero'
    exact ⟨fun _ => covered_of_last_zero hinv hzero, fun _ => hthere⟩
  · exact covered_step hsp hinv hpos (newest_available hinv hann hidle hpos).2

/-- What every run keeps. -/
structure ShutdownInv (m : Nat) (l : List (Shutdown F × ShutdownAction F)) (t : Shutdown F) :
    Prop where
  inv : Inv m t.state
  announced : t.state.Announced
  notCalled : t.phase = .running → ∀ p ∈ l, p.2 ≠ .stop
  called : t.phase ≠ .running → ∃ p ∈ l, p.2 = .stop
  since : ∀ p ∈ l, p.2 = .stop →
    Since p.1.state t.state ∧ Inv m p.1.state ∧ p.1.state.Announced
  returned : t.phase = .returned → t.state.worker = .waiting ∧ t.state.impl.queue = []

theorem shutdown_inv {maxBatchUids : Nat} (hsp : UpsertsBatch sp)
    {l : List (Shutdown F × ShutdownAction F)} {t : Shutdown F}
    (r : Run (shutdownSystem libc service sp maxBatchUids) l t) :
    ShutdownInv (max 1 maxBatchUids) l t := by
  induction r with
  | @start s h =>
    obtain ⟨hinit, hphase⟩ := h
    refine ⟨inv_initial hinit _, fun uid => .inl (hinit.unversioned uid).1, by simp, ?_,
      by simp, ?_⟩
    · exact fun hnot => absurd hphase hnot
    · simp [hphase]
  | @step l s t a r hstep ih =>
    cases hstep with
    | thread b hphase hen =>
      have hnone := ih.notCalled hphase
      refine ⟨next_inv hsp ih.inv hen, announced_next ih.announced hen, ?_, ?_, ?_, ?_⟩
      · exact fun _ => List.forall_mem_cons.mpr ⟨by simp, hnone⟩
      · exact fun hnot => absurd hphase hnot
      · exact List.forall_mem_cons.mpr ⟨by simp, fun p hp hstop => absurd hstop (hnone p hp)⟩
      · simp [hphase]
    | drain hphase =>
      have hen : s.state.Enabled .worker := trivial
      refine ⟨next_inv hsp ih.inv hen, announced_next ih.announced hen, ?_, ?_, ?_, ?_⟩
      · simp [hphase]
      · intro _
        obtain ⟨p, hp, hstop⟩ := ih.called (by simp [hphase])
        exact ⟨p, List.mem_cons_of_mem _ hp, hstop⟩
      · refine List.forall_mem_cons.mpr ⟨by simp, fun p hp hstop => ?_⟩
        obtain ⟨hsince, hrest⟩ := ih.since p hp hstop
        exact ⟨hsince.worker hsp ih.inv ih.announced, hrest⟩
      · simp [hphase]
    | stop hphase htimer hproducers =>
      have hnone := ih.notCalled hphase
      refine ⟨ih.inv, ih.announced, by simp, ?_, ?_, by simp⟩
      · exact fun _ => ⟨_, List.mem_cons_self, rfl⟩
      · refine List.forall_mem_cons.mpr ⟨fun _ => ?_, fun p hp hstop => absurd hstop (hnone p hp)⟩
        exact ⟨⟨htimer, hproducers, fun _ => Iff.rfl, rfl, rfl, rfl, rfl⟩, ih.inv, ih.announced⟩
    | join hphase hworker hqueue =>
      refine ⟨ih.inv, ih.announced, by simp, ?_, ?_, fun _ => ⟨hworker, hqueue⟩⟩
      · intro _
        obtain ⟨p, hp, hstop⟩ := ih.called (by simp [hphase])
        exact ⟨p, List.mem_cons_of_mem _ hp, hstop⟩
      · exact List.forall_mem_cons.mpr ⟨by simp, ih.since⟩

/-- **When a graceful stop persists everything.** When `stop()` has
returned, MySQL has the last snapshot of every marked user, and `DirtyHub`
and `rt_q_` hold nothing newer, exactly if at the call of `stop()` the
newest snapshot of every user then in `DirtyHub` was in MySQL, its user in
a queued job, or in the job at hand with the snapshot no longer in
`rt_q_`. -/
theorem stop_persists {maxBatchUids : Nat} (hsp : UpsertsBatch sp)
    {l : List (Shutdown F × ShutdownAction F)} {t : Shutdown F}
    (r : Run (shutdownSystem libc service sp maxBatchUids) l t) (hreturned : t.phase = .returned) :
    t.state.Persisted ↔ ∀ p ∈ l, p.2 = .stop →
      ∀ uid, p.1.state.impl.dirty.Has uid → p.1.state.Covered uid := by
  have h := shutdown_inv hsp r
  obtain ⟨hworker, hqueue⟩ := h.returned hreturned
  obtain ⟨p, hp, hstop⟩ := h.called (by simp [hreturned])
  -- when the worker has left, only MySQL is left to look at
  have hcovered (uid : Uid) :
      t.state.Covered uid ↔ t.state.impl.table.version uid = t.state.last uid := by
    simp [State.Covered, hworker, hqueue]
  constructor
  · intro hpersisted q hq hstop uid hdirty
    obtain ⟨hsince, -⟩ := h.since q hq hstop
    rw [← hsince.covered, hcovered]
    exact hpersisted.dirty uid (by rw [hsince.dirty]; exact hdirty)
  · intro hall
    obtain ⟨hsince, hinv, hann⟩ := h.since p hp hstop
    have hrow (uid : Uid) : t.state.impl.table.version uid = t.state.last uid := by
      rw [← hcovered, hsince.covered]
      exact covered_of_dirty hinv hann hsince.producers hsince.timer (hall p hp hstop) uid
    refine ⟨fun uid _ => hrow uid, fun uid _ => hrow uid, fun x hx => ?_⟩
    rw [hrow]
    refine h.inv.flow.inboundLast x ?_
    simpa [State.inbound, hworker] using hx

/-- The timer steps `n` times; the producers stay where they are. -/
theorem timer_run {maxBatchUids : Nat} {l : List (Shutdown F × ShutdownAction F)} {s : Shutdown F}
    (r : Run (shutdownSystem libc service sp maxBatchUids) l s) (hphase : s.phase = .running)
    (order : Enumeration Uid) (n : Nat) :
    ((State.timerNext (max 1 maxBatchUids) order)^[n] s.state).producer = s.state.producer ∧
      ∃ l', (∀ p ∈ l', p.2 ≠ .stop) ∧ Run (shutdownSystem libc service sp maxBatchUids) (l' ++ l)
        { s with state := (State.timerNext (max 1 maxBatchUids) order)^[n] s.state } := by
  induction n with
  | zero => exact ⟨rfl, [], by simp, r⟩
  | succ n ih =>
    obtain ⟨hproducer, l', hnone, r'⟩ := ih
    have hstep := r'.next (.thread (.timer order)) (.thread _ hphase trivial)
    rw [Function.iterate_succ_apply']
    refine ⟨?_, (_, .thread (.timer order)) :: l', List.forall_mem_cons.mpr ⟨?_, hnone⟩, hstep⟩
    · rw [(timerNext_frame _ order _).2.2.2.2.2.1, hproducer]
    · simp

end

/-- A snapshot of user 7 is pushed, counted and marked. -/
def markedSeven : State Int :=
  [Action.push { uid := 7, x := (1 : Int), z := 2, hp := 90, sp := 30, version := 1 },
    .count 7, .mark 7].foldl (State.next intLibc plainRedis upsertUserState 100) {}

theorem markedSeven_idle (uid : Uid) : markedSeven.producer uid = .idle := by
  by_cases hu : uid = 7
  · subst hu
    rfl
  · simp [markedSeven, State.next]

theorem markedSeven_run : ∃ l, (∀ p ∈ l, p.2 ≠ .stop) ∧
    Run (shutdownSystem intLibc plainRedis upsertUserState 100) l { state := markedSeven } := by
  have r : Run (shutdownSystem intLibc plainRedis upsertUserState 100) [] { state := {} } :=
    .start ⟨initial_empty, rfl⟩
  have r := r.next (.thread (.push { uid := 7, x := 1, z := 2, hp := 90, sp := 30, version := 1 }))
    (.thread _ rfl ⟨rfl, by decide⟩)
  have r := r.next (.thread (.count 7)) (.thread _ rfl ⟨1, rfl⟩)
  have r := r.next (.thread (.mark 7)) (.thread _ rfl ⟨1, rfl⟩)
  exact ⟨_, by simp, r⟩

theorem idle_of_matches {x : Timer} (h : (x matches .idle) = true) : x = .idle := by
  cases x <;> simp_all

/-- The tick hands the mark on, and `stop()` comes while its job is
queued. -/
theorem stop_persists_queued :
    ∃ (l : List (Shutdown Int × ShutdownAction Int)) (t : Shutdown Int),
      Run (shutdownSystem intLibc plainRedis upsertUserState 100) l t ∧ t.phase = .returned ∧
        t.state.last 7 = 1 ∧ t.state.Persisted := by
  obtain ⟨l, hnone, r⟩ := markedSeven_run
  obtain ⟨hproducer, l', hnone', r⟩ := timer_run r rfl Enumeration.increasing 68
  have hidle (uid : Uid) := (congrFun hproducer uid).trans (markedSeven_idle uid)
  have hempty : ∀ k, ((State.timerNext (max 1 100) Enumeration.increasing)^[68]
      markedSeven).impl.dirty k = ∅ := by decide +kernel
  have r := r.next .stop (.stop rfl (idle_of_matches (by decide +kernel)) hidle)
  have r := (r.next _ (.drain rfl)).next _ (.drain rfl)
  have r := (r.next _ (.drain rfl)).next _ (.drain rfl)
  have r := (r.next _ (.drain rfl)).next _ (.drain rfl)
  have r := r.next .join (.join rfl (waiting_of_isNone (by decide +kernel)) (by decide +kernel))
  refine ⟨_, _, r, rfl, by decide +kernel, (stop_persists upsertUserState_upserts r rfl).mpr ?_⟩
  rintro p hp hstop uid ⟨k, hk⟩
  simp only [List.mem_cons, List.mem_append] at hp
  rcases hp with rfl | rfl | rfl | rfl | rfl | rfl | rfl | rfl | hp | hp
  case inr.inr.inr.inr.inr.inr.inr.inl =>
    rw [hempty k] at hk
    simp at hk
  case inr.inr.inr.inr.inr.inr.inr.inr.inl => exact absurd hstop (hnone' p hp)
  case inr.inr.inr.inr.inr.inr.inr.inr.inr => exact absurd hstop (hnone p hp)
  all_goals cases hstop

/-- `stop()` comes before the next tick: the mark stays in `DirtyHub`, the
snapshot in `rt_q_`, and MySQL has no row. -/
theorem stop_loses_marked :
    ∃ (l : List (Shutdown Int × ShutdownAction Int)) (t : Shutdown Int),
      Run (shutdownSystem intLibc plainRedis upsertUserState 100) l t ∧ t.phase = .returned ∧
        t.state.marks 7 = [1] ∧ t.state.impl.table 7 = none ∧ t.state.impl.dirty.Has 7 ∧
        t.state.impl.rtQ.map UserSnapshot.uid = [7] ∧ ¬ t.state.Persisted := by
  obtain ⟨l, -, r⟩ := markedSeven_run
  have r := r.next .stop (.stop rfl rfl markedSeven_idle)
  have r := r.next .join (.join rfl rfl rfl)
  refine ⟨_, _, r, rfl, rfl, rfl, by decide, rfl, fun h => ?_⟩
  exact absurd (h.marked 7 (by decide)) (by decide)

end MmorpgServer.Storage
