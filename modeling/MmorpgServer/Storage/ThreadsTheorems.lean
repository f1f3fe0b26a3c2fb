/-
MmorpgServer.Storage.ThreadsTheorems — freshness of the write-back path
when nothing fails.

Two things travel from a producer to MySQL on different roads: the
snapshot (`rt_q_`, `rt_local_`, Redis) and the mark (`DirtyHub`, stolen
list, job). `Flow` is the invariant of the first road: versions of a user
only grow along it. `Inv` adds the second: a marked version is either in
MySQL already, or its user is still carried by something that will be
handled, and whoever carries it will find a snapshot at least as new on
the first road.
-/
import MmorpgServer.Storage.Threads
import MmorpgServer.Storage.StorageSystemTheorems

namespace MmorpgServer.Storage

open MmorpgServer.Lib

variable {F : Type}

/-! ## The road of the snapshots -/

/-- Later snapshots of a user are newer. -/
def Ordered (snaps : List (UserSnapshot F)) : Prop :=
  snaps.Pairwise fun a b => a.uid = b.uid → a.version ≤ b.version

/-- The newest snapshot of a user is the last one. -/
theorem exists_newest {snaps : List (UserSnapshot F)} (h : Ordered snaps)
    {x : UserSnapshot F} (hx : x ∈ snaps) :
    ∃ n, newest snaps x.uid = some n ∧ n ∈ snaps ∧ n.uid = x.uid ∧ x.version ≤ n.version := by
  induction snaps with
  | nil => cases hx
  | cons s snaps ih =>
    obtain ⟨hs, hrest⟩ := List.pairwise_cons.mp h
    rw [newest_cons]
    rcases List.mem_cons.mp hx with rfl | hx
    · cases hn : newest snaps x.uid with
      | none => exact ⟨x, by simp, List.mem_cons_self, rfl, le_refl _⟩
      | some n =>
        have hmem := List.mem_of_getLast? hn
        rw [List.mem_filter] at hmem
        have hnu : n.uid = x.uid := by simpa using hmem.2
        exact ⟨n, rfl, List.mem_cons_of_mem _ hmem.1, hnu, hs n hmem.1 hnu.symm⟩
    · obtain ⟨n, hn, hmem, hnu, hle⟩ := ih hrest hx
      rw [hn]
      exact ⟨n, rfl, List.mem_cons_of_mem _ hmem, hnu, hle⟩

theorem newest_mem {snaps : List (UserSnapshot F)} {uid : Uid} {n : UserSnapshot F}
    (h : newest snaps uid = some n) : n ∈ snaps ∧ n.uid = uid := by
  have hmem := List.mem_of_getLast? h
  rw [List.mem_filter] at hmem
  exact ⟨hmem.1, by simpa using hmem.2⟩

/-- A version is in Redis, or a snapshot at least as new is on its way. -/
def Available (redis : RedisStore) (inbound : List (UserSnapshot F)) (uid : Uid) (v : Nat) :
    Prop :=
  v ≤ redisVersion redis uid ∨ ∃ x ∈ inbound, x.uid = uid ∧ v ≤ x.version

/-- The invariant of the first road: versions grow from MySQL over Redis
to the snapshots still on their way, and end at the newest one pushed. -/
structure Flow (redis : RedisStore) (table : UserTable F) (last : Uid → Nat)
    (inbound : List (UserSnapshot F)) : Prop where
  typed : ∀ uid, ¬ WrongType redis uid
  complete : ∀ uid, 0 < redisVersion redis uid → Complete redis uid
  tableLe : ∀ uid, table.version uid ≤ redisVersion redis uid
  redisLe : ∀ x ∈ inbound, redisVersion redis x.uid ≤ x.version
  ordered : Ordered inbound
  redisLast : ∀ uid, redisVersion redis uid ≤ last uid
  inboundLast : ∀ x ∈ inbound, x.version ≤ last x.uid

theorem Flow.push {redis : RedisStore} {table : UserTable F} {last : Uid → Nat}
    {inbound : List (UserSnapshot F)} (h : Flow redis table last inbound) {x : UserSnapshot F}
    (hx : last x.uid < x.version) :
    Flow redis table (Function.update last x.uid x.version) (inbound ++ [x]) := by
  have hlast : ∀ uid, last uid ≤ Function.update last x.uid x.version uid := by
    intro uid
    by_cases hu : uid = x.uid
    · subst hu
      rw [Function.update_self]
      omega
    · rw [Function.update_of_ne hu]
  refine ⟨h.typed, h.complete, h.tableLe, ?_, ?_, ?_, ?_⟩
  · intro y hy
    rcases List.mem_append.mp hy with hy | hy
    · exact h.redisLe y hy
    · obtain rfl := List.mem_singleton.mp hy
      have hle := h.redisLast y.uid
      omega
  · refine List.pairwise_append.mpr ⟨h.ordered, List.pairwise_singleton _ _, ?_⟩
    intro y hy z hz hyz
    obtain rfl := List.mem_singleton.mp hz
    have hle := h.inboundLast y hy
    rw [hyz] at hle
    omega
  · exact fun uid => (h.redisLast uid).trans (hlast uid)
  · intro y hy
    rcases List.mem_append.mp hy with hy | hy
    · exact (h.inboundLast y hy).trans (hlast y.uid)
    · obtain rfl := List.mem_singleton.mp hy
      rw [Function.update_self]

/-- A user's row after a pipeline that does not fail. -/
theorem write_row (libc : Libc F) (service : RedisService) {store : RedisStore}
    (h : ∀ uid, ¬ WrongType store uid)
    (snaps : List (UserSnapshot F)) (uid : Uid) :
    match newest snaps uid with
    | some s => Complete (writeFrom libc (.allOk service) store 0 snaps).1 uid ∧
        redisVersion (writeFrom libc (.allOk service) store 0 snaps).1 uid = s.version
    | none => (writeFrom libc (.allOk service) store 0 snaps).1 (keyRt uid) = store (keyRt uid) :=
  writeFrom_row libc ((writeFrom_all_written libc (.allOk service) store 0 snaps).mpr
    fun _ _ => ⟨rfl, rfl, h _⟩) uid

/-- Writing the drained snapshots keeps the order of the road. -/
theorem Flow.write (libc : Libc F) (service : RedisService) {redis : RedisStore}
    {table : UserTable F}
    {last : Uid → Nat} {drained rest : List (UserSnapshot F)}
    (h : Flow redis table last (drained ++ rest)) :
    Flow (writeFrom libc (.allOk service) redis 0 drained).1 table last rest ∧
    ∀ uid v, Available redis drained uid v →
      v ≤ redisVersion (writeFrom libc (.allOk service) redis 0 drained).1 uid := by
  obtain ⟨hdo, hro, hcross⟩ := List.pairwise_append.mp h.ordered
  -- the version of a row afterwards
  have hcases : ∀ uid, (∃ n ∈ drained, n.uid = uid ∧
      Complete (writeFrom libc (.allOk service) redis 0 drained).1 uid ∧
      redisVersion (writeFrom libc (.allOk service) redis 0 drained).1 uid = n.version) ∨
      ((∀ x ∈ drained, x.uid ≠ uid) ∧
        (writeFrom libc (.allOk service) redis 0 drained).1 (keyRt uid) = redis (keyRt uid)) := by
    intro uid
    have hrow := write_row libc service h.typed drained uid
    cases hn : newest drained uid with
    | some n =>
      rw [hn] at hrow
      exact Or.inl ⟨n, (newest_mem hn).1, (newest_mem hn).2, hrow⟩
    | none =>
      rw [hn] at hrow
      exact Or.inr ⟨newest_eq_none.mp hn, hrow⟩
  have hold : ∀ uid,
      (writeFrom libc (.allOk service) redis 0 drained).1 (keyRt uid) = redis (keyRt uid) →
        redisVersion (writeFrom libc (.allOk service) redis 0 drained).1 uid =
          redisVersion redis uid := by
    intro uid hk
    unfold redisVersion
    rw [hk]
  have hgrow : ∀ uid, redisVersion redis uid ≤
      redisVersion (writeFrom libc (.allOk service) redis 0 drained).1 uid := by
    intro uid
    rcases hcases uid with ⟨n, hn, rfl, -, hv⟩ | ⟨-, hk⟩
    · rw [hv]
      exact h.redisLe n (List.mem_append_left _ hn)
    · rw [hold uid hk]
  refine ⟨⟨?_, ?_, ?_, ?_, hro, ?_, ?_⟩, ?_⟩
  · intro uid
    rw [wrongType_writeFrom]
    exact h.typed uid
  · intro uid hpos
    rcases hcases uid with ⟨n, -, -, hc, -⟩ | ⟨-, hk⟩
    · exact hc
    · rw [hold uid hk] at hpos
      have hc := h.complete uid hpos
      unfold Complete at hc ⊢
      rwa [hk]
  · exact fun uid => (h.tableLe uid).trans (hgrow uid)
  · intro x hx
    rcases hcases x.uid with ⟨n, hn, hnu, -, hv⟩ | ⟨-, hk⟩
    · rw [hv]
      exact hcross n hn x hx hnu
    · rw [hold x.uid hk]
      exact h.redisLe x (List.mem_append_right _ hx)
  · intro uid
    rcases hcases uid with ⟨n, hn, rfl, -, hv⟩ | ⟨-, hk⟩
    · rw [hv]
      exact h.inboundLast n (List.mem_append_left _ hn)
    · rw [hold uid hk]
      exact h.redisLast uid
  · exact fun x hx => h.inboundLast x (List.mem_append_right _ hx)
  · rintro uid v (hv | ⟨x, hx, rfl, hv⟩)
    · exact hv.trans (hgrow uid)
    · obtain ⟨n, hn, -, -, hle⟩ := exists_newest hdo hx
      have hrow := write_row libc service h.typed drained x.uid
      rw [hn] at hrow
      rw [hrow.2]
      omega

/-- Upserting rows just read from Redis: the rows of MySQL grow, and those
of the batch are as new as Redis. -/
theorem Flow.upsert {sp : UserTable F → List (UserSnapshot F) → UserTable F}
    (hsp : UpsertsBatch sp) {redis : RedisStore} {table : UserTable F} {last : Uid → Nat}
    {inbound : List (UserSnapshot F)} (h : Flow redis table last inbound)
    {snap : List (UserSnapshot F)} (hsnap : ∀ r ∈ snap, r.version = redisVersion redis r.uid) :
    Flow redis (sp table snap) last inbound ∧
    (∀ uid, table.version uid ≤ UserTable.version (sp table snap) uid) ∧
    ∀ r ∈ snap, UserTable.version (sp table snap) r.uid = r.version := by
  have hin : ∀ r ∈ snap, UserTable.version (sp table snap) r.uid = r.version := by
    intro r hr
    obtain ⟨r', hr', hru, hrow⟩ := hsp.inBatch table snap r hr
    unfold UserTable.version
    rw [hrow]
    exact (hsnap r' hr').trans (by rw [hru, hsnap r hr])
  have hcases : ∀ uid, (∃ r ∈ snap, r.uid = uid) ∨ sp table snap uid = table uid := by
    intro uid
    by_cases hex : ∃ r ∈ snap, r.uid = uid
    · exact Or.inl hex
    · exact Or.inr (hsp.outside table snap uid fun r hr hru => hex ⟨r, hr, hru⟩)
  refine ⟨⟨h.typed, h.complete, ?_, h.redisLe, h.ordered, h.redisLast, h.inboundLast⟩, ?_, hin⟩
  · intro uid
    rcases hcases uid with ⟨r, hr, rfl⟩ | hsame
    · rw [hin r hr, hsnap r hr]
    · have hle := h.tableLe uid
      unfold UserTable.version at hle ⊢
      rwa [hsame]
  · intro uid
    rcases hcases uid with ⟨r, hr, rfl⟩ | hsame
    · rw [hin r hr, hsnap r hr]
      exact h.tableLe r.uid
    · unfold UserTable.version
      rw [hsame]

/-! ## The road of the marks -/

/-- What the timer still has to hand on, seen as a job. -/
def Timer.job (maxBatch : Nat) : Timer → Option DbJob
  | .stealing _ out => some { uids := out.uids, marks := out.marks }
  | .batching uids i => some { uids := uids.uids.drop i, marks := uids.marks }
  | .remarking uids i k =>
    some
      { uids := (State.slice uids i maxBatch).uids.drop k ++ uids.uids.drop (i + maxBatch)
        marks := uids.marks }
  | _ => none

/-- The jobs between `DirtyHub` and MySQL. -/
def State.carried (maxBatch : Nat) (s : State F) : List DbJob :=
  (s.timer.job maxBatch).toList ++ s.impl.queue ++ s.worker.job.toList

/-- The invariant of the second road: a job remembers marks that were
made, and a marked version is in MySQL, or its user is dirty, or a job
that remembers the mark carries the user. -/
structure Tickets (marks : Uid → List Nat) (table : UserTable F) (dirty : DirtyHub)
    (carried : List DbJob) : Prop where
  stamped : ∀ j ∈ carried, ∀ uid, ∀ v ∈ j.marks uid, v ∈ marks uid
  covered : ∀ uid, ∀ v ∈ marks uid, v ≤ table.version uid ∨ dirty.Has uid ∨
    ∃ j ∈ carried, uid ∈ j.uids ∧ v ∈ j.marks uid

/-- **Hand-off rule.** A step keeps the invariant if every dirty user
stays dirty or is carried with all its marks, and every user carried is
carried on, dirty again, or up to date in MySQL. -/
theorem Tickets.handOff {marks : Uid → List Nat} {table table' : UserTable F}
    {dirty dirty' : DirtyHub} {carried carried' : List DbJob}
    (h : Tickets marks table dirty carried)
    (htable : ∀ uid, table.version uid ≤ table'.version uid)
    (hstamped : ∀ j ∈ carried', ∀ uid, ∀ v ∈ j.marks uid, v ∈ marks uid)
    (hdirty : ∀ uid, dirty.Has uid → dirty'.Has uid ∨
      ∃ j ∈ carried', uid ∈ j.uids ∧ j.marks uid = marks uid)
    (hcarried : ∀ j ∈ carried, ∀ uid ∈ j.uids, ∀ v ∈ j.marks uid, v ≤ table'.version uid ∨
      dirty'.Has uid ∨ ∃ j' ∈ carried', uid ∈ j'.uids ∧ v ∈ j'.marks uid) :
    Tickets marks table' dirty' carried' := by
  refine ⟨hstamped, fun uid v hv => ?_⟩
  rcases h.covered uid v hv with hrow | hd | ⟨j, hj, huid, hvj⟩
  · exact Or.inl (hrow.trans (htable uid))
  · rcases hdirty uid hd with hd' | ⟨j, hj, huid, hmarks⟩
    · exact Or.inr (Or.inl hd')
    · exact Or.inr (Or.inr ⟨j, hj, huid, hmarks ▸ hv⟩)
  · exact hcarried j hj uid huid v hvj

/-- A new mark: the user is dirty. -/
theorem Tickets.mark {marks : Uid → List Nat} {table : UserTable F} {dirty : DirtyHub}
    {carried : List DbJob} (h : Tickets marks table dirty carried) (uid : Uid) (v : Nat) :
    Tickets (Function.update marks uid (v :: marks uid)) table (dirty.markDirty uid) carried := by
  have hmem : ∀ u w, w ∈ marks u → w ∈ Function.update marks uid (v :: marks uid) u := by
    intro u w hw
    by_cases hu : u = uid
    · subst hu
      rw [Function.update_self]
      exact List.mem_cons_of_mem _ hw
    · rwa [Function.update_of_ne hu]
  refine ⟨fun j hj u w hw => hmem u w (h.stamped j hj u w hw), fun u w hw => ?_⟩
  by_cases hu : u = uid
  · exact Or.inr (Or.inl ((dirty.has_markDirty uid u).mpr (Or.inl hu)))
  · rw [Function.update_of_ne hu] at hw
    rcases h.covered u w hw with hrow | hd | hj
    · exact Or.inl hrow
    · exact Or.inr (Or.inl ((dirty.has_markDirty uid u).mpr (Or.inr hd)))
    · exact Or.inr (Or.inr hj)

/-! ## The invariant -/

/-- The snapshots on their way to Redis. -/
def State.inbound (s : State F) : List (UserSnapshot F) :=
  match s.worker with
  | .subtract _ | .write _ => s.impl.rtLocal ++ s.impl.rtQ
  | _ => s.impl.rtQ

/-- What the worker may rely on about the marks its job remembers: by the
time of the fetch they are in Redis, at the upsert in the rows fetched. -/
def Flushed (s : State F) : Worker F → Prop
  | .waiting => True
  | .swap _ => True
  | .subtract j | .write j => ∀ uid, ∀ v ∈ j.marks uid,
      Available s.impl.redis s.impl.rtLocal uid v
  | .fetch j => ∀ uid, ∀ v ∈ j.marks uid, v ≤ redisVersion s.impl.redis uid
  | .upsert j snap => (∀ uid ∈ j.uids, ∀ v ∈ j.marks uid, ∃ r ∈ snap, r.uid = uid ∧ v ≤ r.version) ∧
      ∀ r ∈ snap, r.version = redisVersion s.impl.redis r.uid

/-- The invariant of the storage threads. -/
structure Inv (maxBatch : Nat) (s : State F) : Prop where
  flow : Flow s.impl.redis s.impl.table s.last s.inbound
  produced : ∀ uid v, s.producer uid = .pushed v ∨ s.producer uid = .counted v →
    0 < v ∧ Available s.impl.redis s.inbound uid v
  marked : ∀ uid, ∀ v ∈ s.marks uid, 0 < v ∧ Available s.impl.redis s.inbound uid v
  tickets : Tickets s.marks s.impl.table s.impl.dirty (s.carried maxBatch)
  flushed : Flushed s s.worker

theorem inv_initial {s : State F} (h : s.Initial) (maxBatch : Nat) : Inv maxBatch s := by
  obtain ⟨⟨htimer, hworker, hprod⟩, ⟨hqueue, hrt, hdirty, hmarks⟩, htyped, hver⟩ := h
  have hin : s.inbound = [] := by simp [State.inbound, hworker, hrt]
  have hcar : s.carried maxBatch = [] := by
    simp [State.carried, htimer, hworker, hqueue, Timer.job, Worker.job]
  refine ⟨⟨htyped, ?_, ?_, ?_, ?_, ?_, ?_⟩, ?_, ?_, ⟨?_, ?_⟩, ?_⟩
  · intro uid hpos
    rw [(hver uid).2.1] at hpos
    omega
  · intro uid
    rw [(hver uid).2.2]
    omega
  · rw [hin]
    intro x hx
    cases hx
  · rw [hin]
    exact List.Pairwise.nil
  · intro uid
    rw [(hver uid).2.1]
    omega
  · rw [hin]
    intro x hx
    cases hx
  · rintro uid v (hv | hv) <;> rw [hprod uid] at hv <;> cases hv
  · intro uid v hv
    rw [hmarks uid] at hv
    cases hv
  · rw [hcar]
    intro j hj
    cases hj
  · intro uid v hv
    rw [hmarks uid] at hv
    cases hv
  · rw [hworker]
    trivial

/-! ## Producers -/

theorem Available.append {redis : RedisStore} {inbound : List (UserSnapshot F)} {uid : Uid}
    {v : Nat} (h : Available redis inbound uid v) (more : List (UserSnapshot F)) :
    Available redis (inbound ++ more) uid v := by
  rcases h with h | ⟨x, hx, hu, hv⟩
  · exact Or.inl h
  · exact Or.inr ⟨x, List.mem_append_left _ hx, hu, hv⟩

section

variable {libc : Libc F} {service : RedisService}
  {sp : UserTable F → List (UserSnapshot F) → UserTable F}
  {maxBatchUids : Nat}

theorem push_inv {m : Nat} {s : State F} (h : Inv m s) {x : UserSnapshot F}
    (hen : s.Enabled (.push x)) : Inv m (s.next libc service sp maxBatchUids (.push x)) := by
  obtain ⟨-, hlast⟩ := hen
  have hin : (s.next libc service sp maxBatchUids (.push x)).inbound = s.inbound ++ [x] := by
    unfold State.inbound State.next Impl.enqueuePush
    cases s.worker <;> simp
  have havail : ∀ uid v, Available s.impl.redis s.inbound uid v →
      Available (s.next libc service sp maxBatchUids (.push x)).impl.redis
        (s.next libc service sp maxBatchUids (.push x)).inbound uid v := by
    intro uid v hv
    rw [hin]
    exact hv.append [x]
  refine ⟨?_, ?_, ?_, h.tickets, ?_⟩
  · rw [hin]
    exact h.flow.push hlast
  · intro uid v hv
    by_cases hu : uid = x.uid
    · subst hu
      have hversion : v = x.version := by
        simp only [State.next, Function.update_self, Producer.pushed.injEq, reduceCtorEq,
          or_false] at hv
        exact hv.symm
      subst hversion
      refine ⟨by omega, Or.inr ⟨x, ?_, rfl, le_refl _⟩⟩
      rw [hin]
      exact List.mem_append_right _ List.mem_cons_self
    · simp only [State.next, Function.update_of_ne hu] at hv
      exact ⟨(h.produced uid v hv).1, havail uid v (h.produced uid v hv).2⟩
  · exact fun uid v hv => ⟨(h.marked uid v hv).1, havail uid v (h.marked uid v hv).2⟩
  · exact h.flushed

theorem count_inv {m : Nat} {s : State F} (h : Inv m s) {uid : Uid}
    (hen : s.Enabled (.count uid)) : Inv m (s.next libc service sp maxBatchUids (.count uid)) := by
  obtain ⟨v, hv⟩ := hen
  simp only [State.next, hv]
  refine ⟨h.flow, ?_, h.marked, h.tickets, h.flushed⟩
  intro u w hw
  by_cases hu : u = uid
  · subst hu
    have hvw : v = w := by simpa using hw
    exact h.produced u w (Or.inl (hvw ▸ hv))
  · simp only [Function.update_of_ne hu] at hw
    exact h.produced u w hw

theorem mark_inv {m : Nat} {s : State F} (h : Inv m s) {uid : Uid}
    (hen : s.Enabled (.mark uid)) : Inv m (s.next libc service sp maxBatchUids (.mark uid)) := by
  obtain ⟨v, hv⟩ := hen
  have hnew := h.produced uid v (Or.inr hv)
  simp only [State.next, hv]
  refine ⟨h.flow, ?_, ?_, h.tickets.mark uid v, h.flushed⟩
  · intro u w hw
    by_cases hu : u = uid
    · subst hu
      simp at hw
    · simp only [Function.update_of_ne hu] at hw
      exact h.produced u w hw
  · intro u w hw
    by_cases hu : u = uid
    · subst hu
      simp only [Function.update_self] at hw
      rcases List.mem_cons.mp hw with rfl | hw
      · exact hnew
      · exact h.marked u w hw
    · simp only [Function.update_of_ne hu] at hw
      exact h.marked u w hw

end

/-! ## The timer -/

theorem tryPush_queue (s : Impl F) (job : DbJob) :
    ((s.tryPush job).2 = true ∧ (s.tryPush job).1 = { s with queue := s.queue ++ [job] }) ∨
      ((s.tryPush job).2 = false ∧ (s.tryPush job).1 = s) := by
  unfold Impl.tryPush
  split
  · exact Or.inr ⟨rfl, rfl⟩
  · exact Or.inl ⟨rfl, rfl⟩

/-- The hand-off rule for the timer: its job `old` becomes `new`, and
`pushed` is queued. -/
theorem Tickets.timerHandOff {marks : Uid → List Nat} {table : UserTable F} {dirty : DirtyHub}
    (dirty' : DirtyHub) {old : Option DbJob} (new : Option DbJob) {queue current : List DbJob}
    (pushed : List DbJob) (h : Tickets marks table dirty (old.toList ++ queue ++ current))
    (hstamped : ∀ j ∈ new.toList ++ pushed, ∀ uid, ∀ v ∈ j.marks uid, v ∈ marks uid)
    (hdirty : ∀ uid, dirty.Has uid → dirty'.Has uid ∨
      ∃ j ∈ new.toList ++ pushed, uid ∈ j.uids ∧ j.marks uid = marks uid)
    (hold : ∀ j ∈ old.toList, ∀ uid ∈ j.uids, ∀ v ∈ j.marks uid, dirty'.Has uid ∨
      ∃ j' ∈ new.toList ++ pushed, uid ∈ j'.uids ∧ v ∈ j'.marks uid) :
    Tickets marks table dirty' (new.toList ++ (queue ++ pushed) ++ current) := by
  have hmem : ∀ j, j ∈ new.toList ++ (queue ++ pushed) ++ current ↔
      j ∈ new.toList ++ pushed ∨ j ∈ queue ++ current := by
    intro j
    simp only [List.mem_append]
    tauto
  refine h.handOff (fun uid => le_refl _) ?_ ?_ ?_
  · intro j hj
    rcases (hmem j).mp hj with hj | hj
    · exact hstamped j hj
    · refine h.stamped j ?_
      rw [List.append_assoc]
      exact List.mem_append_right _ hj
  · intro uid hd
    rcases hdirty uid hd with hd' | ⟨j, hj, hrest⟩
    · exact Or.inl hd'
    · exact Or.inr ⟨j, (hmem j).mpr (Or.inl hj), hrest⟩
  · intro j hj uid huid v hv
    rw [List.append_assoc] at hj
    rcases List.mem_append.mp hj with hj | hj
    · rcases hold j hj uid huid v hv with hd' | ⟨j', hj', hrest⟩
      · exact Or.inr (Or.inl hd')
      · exact Or.inr (Or.inr ⟨j', (hmem j').mpr (Or.inl hj'), hrest⟩)
    · exact Or.inr (Or.inr ⟨j, (hmem j).mpr (Or.inr hj), huid, hv⟩)

/-- What the timer remembers as marked has been marked. -/
theorem Tickets.timerStamped {m : Nat} {s : State F}
    (h : Tickets s.marks s.impl.table s.impl.dirty (s.carried m)) {j : DbJob}
    (hj : s.timer.job m = some j) : ∀ uid, ∀ v ∈ j.marks uid, v ∈ s.marks uid := by
  refine h.stamped j ?_
  unfold State.carried
  rw [List.append_assoc, hj]
  exact List.mem_append_left _ (Option.mem_toList.mpr rfl)

/-- Stealing: one shard is copied and cleared. -/
theorem steal_tickets {m : Nat} {order : Enumeration Uid} {s : State F} {k : Nat} {out : Stolen}
    (h : Tickets s.marks s.impl.table s.impl.dirty (s.carried m))
    (htimer : s.timer = .stealing k out) :
    Tickets (s.timerNext m order).marks (s.timerNext m order).impl.table
      (s.timerNext m order).impl.dirty ((s.timerNext m order).carried m) := by
  have hout : ∀ uid, ∀ v ∈ out.marks uid, v ∈ s.marks uid :=
    h.timerStamped (j := { uids := out.uids, marks := out.marks }) (by simp [htimer, Timer.job])
  unfold State.timerNext State.carried at *
  rw [htimer] at h
  simp only [htimer]
  by_cases hk : k < kShards
  · have hh := h.timerHandOff (s.impl.dirty.clearShard ⟨k, hk⟩)
      (some { uids := out.uids ++ order.list (s.impl.dirty ⟨k, hk⟩), marks := fun uid =>
        if uid ∈ s.impl.dirty ⟨k, hk⟩ then s.marks uid else out.marks uid }) [] ?_ ?_ ?_
    · simpa [Timer.job, hk] using hh
    · intro j hj uid v hv
      rw [List.append_nil] at hj
      obtain rfl := Option.some.inj (Option.mem_toList.mp hj)
      replace hv : v ∈ if uid ∈ s.impl.dirty ⟨k, hk⟩ then s.marks uid else out.marks uid := hv
      split at hv
      · exact hv
      · exact hout uid v hv
    · intro uid hd
      rcases s.impl.dirty.has_clearShard ⟨k, hk⟩ uid hd with hd' | hin
      · exact Or.inl hd'
      · refine Or.inr ⟨_, List.mem_append_left _ (Option.mem_toList.mpr rfl), ?_, if_pos hin⟩
        exact List.mem_append_right _ ((order.mem_iff _ _).mpr hin)
    · intro j hj uid huid v hv
      obtain rfl : j = { uids := out.uids, marks := out.marks } := by
        simpa [Timer.job] using hj
      refine Or.inr ⟨_, List.mem_append_left _ (Option.mem_toList.mpr rfl),
        List.mem_append_left _ huid, ?_⟩
      -- a user stolen twice carries all its marks by now
      show v ∈ if uid ∈ s.impl.dirty ⟨k, hk⟩ then s.marks uid else out.marks uid
      split
      · exact hout uid v hv
      · exact hv
  · cases hu : out.uids with
    | nil =>
      have hh := h.timerHandOff s.impl.dirty none [] (by simp) (fun uid hd => Or.inl hd)
        (by simp [Timer.job, hu])
      simpa [Timer.job, hk, hu] using hh
    | cons u us =>
      simpa [Timer.job, hk, hu] using h

/-- Batching: a batch is queued, or refused and to be marked again. -/
theorem batch_tickets {m : Nat} {order : Enumeration Uid} {s : State F} {uids : Stolen} {i : Nat}
    (h : Tickets s.marks s.impl.table s.impl.dirty (s.carried m))
    (htimer : s.timer = .batching uids i) :
    Tickets (s.timerNext m order).marks (s.timerNext m order).impl.table
      (s.timerNext m order).impl.dirty ((s.timerNext m order).carried m) := by
  have hin : ∀ uid, ∀ v ∈ uids.marks uid, v ∈ s.marks uid :=
    h.timerStamped (j := { uids := uids.uids.drop i, marks := uids.marks })
      (by simp [htimer, Timer.job])
  have hsplit : ∀ uid, uid ∈ uids.uids.drop i →
      uid ∈ (State.slice uids i m).uids ∨ uid ∈ uids.uids.drop (i + m) := by
    intro uid huid
    rw [← List.take_append_drop m (uids.uids.drop i), List.drop_drop] at huid
    exact List.mem_append.mp huid
  unfold State.timerNext State.carried at *
  rw [htimer] at h
  simp only [htimer]
  by_cases hi : i < uids.uids.length
  · rcases tryPush_queue s.impl (State.slice uids i m) with ⟨hok, hpush⟩ | ⟨hok, hpush⟩
    · -- the batch is queued
      have hh := h.timerHandOff s.impl.dirty
        (some { uids := uids.uids.drop (i + m), marks := uids.marks })
        [State.slice uids i m] ?_ (fun uid hd => Or.inl hd) ?_
      · simpa [Timer.job, hi, hok, hpush] using hh
      · intro j hj uid v hv
        simp only [Option.toList_some, List.mem_append, List.mem_singleton] at hj
        rcases hj with rfl | rfl <;> exact hin uid v hv
      · intro j hj uid huid v hv
        obtain rfl : j = { uids := uids.uids.drop i, marks := uids.marks } := by
          simpa [Timer.job] using hj
        rcases hsplit uid huid with hs | hs
        · exact Or.inr ⟨State.slice uids i m, by simp, hs, hv⟩
        · exact Or.inr ⟨_, List.mem_append_left _ (Option.mem_toList.mpr rfl), hs, hv⟩
    · -- the batch is refused
      have hh := h.timerHandOff s.impl.dirty (Timer.job m (.remarking uids i 0)) [] ?_
        (fun uid hd => Or.inl hd) ?_
      · simpa [Timer.job, hi, hok, hpush] using hh
      · intro j hj uid v hv
        rw [List.append_nil] at hj
        obtain rfl := Option.some.inj (Option.mem_toList.mp hj)
        exact hin uid v hv
      · intro j hj uid huid v hv
        obtain rfl : j = { uids := uids.uids.drop i, marks := uids.marks } := by
          simpa [Timer.job] using hj
        refine Or.inr ⟨_, List.mem_append_left _ (Option.mem_toList.mpr rfl), ?_, hv⟩
        exact List.mem_append.mpr (hsplit uid huid)
  · have hnil : uids.uids.drop i = [] := List.drop_eq_nil_of_le (by omega)
    have hh := h.timerHandOff s.impl.dirty none [] (by simp) (fun uid hd => Or.inl hd)
      (by simp [Timer.job, hnil])
    simpa [Timer.job, hi] using hh

/-- Marking again: the next user of the refused batch is back in a shard. -/
theorem remark_tickets {m : Nat} {order : Enumeration Uid} {s : State F} {uids : Stolen}
    {i k : Nat} (h : Tickets s.marks s.impl.table s.impl.dirty (s.carried m))
    (htimer : s.timer = .remarking uids i k) :
    Tickets (s.timerNext m order).marks (s.timerNext m order).impl.table
      (s.timerNext m order).impl.dirty ((s.timerNext m order).carried m) := by
  have hin : ∀ uid, ∀ v ∈ uids.marks uid, v ∈ s.marks uid := by
    have hj := h.timerStamped (by rw [htimer]; exact rfl)
    exact hj
  unfold State.timerNext State.carried at *
  rw [htimer] at h
  simp only [htimer]
  cases hk : (State.slice uids i m).uids[k]? with
  | some u =>
    have hh := h.timerHandOff (s.impl.dirty.markDirty u)
      (Timer.job m (.remarking uids i (k + 1))) [] ?_ ?_ ?_
    · simpa [Timer.job, hk, Impl.markDirty] using hh
    · intro j hj uid v hv
      rw [List.append_nil] at hj
      obtain rfl := Option.some.inj (Option.mem_toList.mp hj)
      exact hin uid v hv
    · exact fun uid hd => Or.inl ((DirtyHub.has_markDirty _ _ _).mpr (Or.inr hd))
    · intro j hj uid huid v hv
      obtain rfl := Option.some.inj (Option.mem_toList.mp hj)
      have hdrop : (State.slice uids i m).uids.drop k =
          u :: (State.slice uids i m).uids.drop (k + 1) := by
        obtain ⟨hlt, hu⟩ := List.getElem?_eq_some_iff.mp hk
        rw [List.drop_eq_getElem_cons hlt, hu]
      replace huid : uid ∈ (State.slice uids i m).uids.drop k ++ uids.uids.drop (i + m) := huid
      rw [hdrop, List.cons_append, List.mem_cons] at huid
      rcases huid with rfl | huid
      · exact Or.inl ((DirtyHub.has_markDirty _ _ _).mpr (Or.inl rfl))
      · exact Or.inr ⟨_, List.mem_append_left _ (Option.mem_toList.mpr rfl), huid, hv⟩
  | none =>
    have hnil : (State.slice uids i m).uids.drop k = [] :=
      List.drop_eq_nil_of_le (List.getElem?_eq_none_iff.mp hk)
    simpa [Timer.job, hk, hnil] using h

/-- The timer hands its users from the shards to the queue, or back. -/
theorem timer_tickets {m : Nat} {order : Enumeration Uid} {s : State F}
    (h : Tickets s.marks s.impl.table s.impl.dirty (s.carried m)) :
    Tickets (s.timerNext m order).marks (s.timerNext m order).impl.table
      (s.timerNext m order).impl.dirty ((s.timerNext m order).carried m) := by
  cases htimer : s.timer with
  | stealing k out => exact steal_tickets h htimer
  | batching uids i => exact batch_tickets h htimer
  | remarking uids i k => exact remark_tickets h htimer
  | idle =>
    unfold State.timerNext State.carried at *
    rw [htimer] at h
    simp only [htimer]
    have hh := h.timerHandOff s.impl.dirty (some { uids := [], marks := fun _ => [] }) []
      (by simp) (fun uid hd => Or.inl hd) (by simp [Timer.job])
    simpa [Timer.job] using hh
  | checkPending =>
    unfold State.timerNext State.carried at *
    rw [htimer] at h
    simp only [htimer]
    by_cases hp : s.impl.rtPending > 0 <;> simpa [Timer.job, hp] using h
  | pushEmpty =>
    unfold State.timerNext State.carried at *
    rw [htimer] at h
    simp only [htimer]
    rcases tryPush_queue s.impl {} with ⟨-, hpush⟩ | ⟨-, hpush⟩
    · have hh := h.timerHandOff s.impl.dirty none [{}] (by simp) (fun uid hd => Or.inl hd)
        (by simp [Timer.job])
      simpa [Timer.job, hpush] using hh
    · simpa [Timer.job, hpush] using h

/-- Nothing else moves with the timer. -/
theorem timerNext_frame (m : Nat) (order : Enumeration Uid) (s : State F) :
    (s.timerNext m order).impl.redis = s.impl.redis ∧
    (s.timerNext m order).impl.table = s.impl.table ∧
    (s.timerNext m order).impl.rtQ = s.impl.rtQ ∧
    (s.timerNext m order).impl.rtLocal = s.impl.rtLocal ∧
    (s.timerNext m order).worker = s.worker ∧
    (s.timerNext m order).producer = s.producer ∧
    (s.timerNext m order).last = s.last ∧
    (s.timerNext m order).marks = s.marks := by
  have hpush : ∀ job, (s.impl.tryPush job).1.redis = s.impl.redis ∧
      (s.impl.tryPush job).1.table = s.impl.table ∧ (s.impl.tryPush job).1.rtQ = s.impl.rtQ ∧
      (s.impl.tryPush job).1.rtLocal = s.impl.rtLocal := by
    intro job
    rcases tryPush_queue s.impl job with ⟨-, h⟩ | ⟨-, h⟩ <;> simp [h]
  unfold State.timerNext
  cases s.timer with
  | idle => simp
  | stealing k out =>
    by_cases hk : k < kShards
    · simp [hk]
    · cases hu : out.uids <;> simp [hk, hu]
  | checkPending => by_cases hp : s.impl.rtPending > 0 <;> simp [hp]
  | pushEmpty => simp [hpush]
  | batching uids i => by_cases hi : i < uids.uids.length <;> simp [hi, hpush]
  | remarking uids i k => cases hk : (State.slice uids i m).uids[k]? <;> simp [hk, Impl.markDirty]

theorem timer_inv {m : Nat} {s : State F} (h : Inv m s) (order : Enumeration Uid) :
    Inv m (s.timerNext m order) := by
  obtain ⟨hredis, htable, hq, hl, hw, hp, hlast, hmarks⟩ := timerNext_frame m order s
  have hin : (s.timerNext m order).inbound = s.inbound := by
    unfold State.inbound
    rw [hw, hq, hl]
  refine ⟨?_, ?_, ?_, timer_tickets h.tickets, ?_⟩
  · rw [hredis, htable, hlast, hin]
    exact h.flow
  · rw [hp, hredis, hin]
    exact h.produced
  · rw [hmarks, hredis, hin]
    exact h.marked
  · have hf := h.flushed
    unfold Flushed at hf ⊢
    rw [hw, hredis, hl]
    exact hf

/-! ## The worker -/

section

variable {libc : Libc F} {service : RedisService}
  {sp : UserTable F → List (UserSnapshot F) → UserTable F}

/-- The marks a carried job remembers are available. -/
theorem Inv.available {m : Nat} {s : State F} (h : Inv m s) {j : DbJob}
    (hj : s.worker.job = some j) (uid : Uid) (v : Nat) (hv : v ∈ j.marks uid) :
    0 < v ∧ Available s.impl.redis s.inbound uid v := by
  refine h.marked uid v (h.tickets.stamped j ?_ uid v hv)
  unfold State.carried
  rw [hj]
  exact List.mem_append_right _ (Option.mem_toList.mpr rfl)

/-- The hand-off rule for the end of a job. -/
theorem Tickets.finish {marks : Uid → List Nat} {table table' : UserTable F} {dirty : DirtyHub}
    {rest : List DbJob} {j : DbJob} (h : Tickets marks table dirty (rest ++ [j]))
    (htable : ∀ uid, table.version uid ≤ table'.version uid)
    (hdone : ∀ uid ∈ j.uids, ∀ v ∈ j.marks uid, v ≤ table'.version uid) :
    Tickets marks table' dirty rest := by
  refine h.handOff htable (fun j' hj' => h.stamped j' (List.mem_append_left _ hj'))
    (fun uid hd => Or.inl hd) ?_
  intro j' hj' uid huid v hv
  rcases List.mem_append.mp hj' with hj' | hj'
  · exact Or.inr (Or.inr ⟨j', hj', huid, hv⟩)
  · obtain rfl := List.mem_singleton.mp hj'
    exact Or.inl (hdone uid huid v hv)

/-- A step of the worker that leaves the snapshots where they are. -/
theorem Inv.sameRoad {m : Nat} {s t : State F} (h : Inv m s)
    (hredis : t.impl.redis = s.impl.redis) (htable : t.impl.table = s.impl.table)
    (hin : t.inbound = s.inbound) (hlast : t.last = s.last) (hproducer : t.producer = s.producer)
    (hmarks : t.marks = s.marks)
    (htickets : Tickets t.marks t.impl.table t.impl.dirty (t.carried m))
    (hflushed : Flushed t t.worker) : Inv m t := by
  refine ⟨?_, ?_, ?_, htickets, hflushed⟩
  · rw [hredis, htable, hlast, hin]
    exact h.flow
  · rw [hproducer, hredis, hin]
    exact h.produced
  · rw [hmarks, hredis, hin]
    exact h.marked

theorem pop_inv {m : Nat} {s : State F} (h : Inv m s) (hw : s.worker = .waiting) {job : DbJob}
    {queue : List DbJob} (hq : s.impl.queue = job :: queue) :
    Inv m { s with impl := { s.impl with queue }, worker := .swap job } := by
  have hcarried : ∀ j, j ∈ (s.timer.job m).toList ++ queue ++ [job] ↔ j ∈ s.carried m := by
    intro j
    simp only [State.carried, hw, hq, Worker.job, Option.toList_none, List.append_nil,
      List.mem_append, List.mem_cons, List.not_mem_nil, or_false]
    tauto
  refine h.sameRoad rfl rfl ?_ rfl rfl rfl ?_ trivial
  · simp [State.inbound, hw]
  · refine h.tickets.handOff (fun _ => le_refl _) ?_ (fun uid hd => Or.inl hd) ?_
    · exact fun j hj => h.tickets.stamped j ((hcarried j).mp hj)
    · exact fun j hj uid huid v hv => Or.inr (Or.inr ⟨j, (hcarried j).mpr hj, huid, hv⟩)

theorem swap_inv {m : Nat} {s : State F} (h : Inv m s) {job : DbJob}
    (hw : s.worker = .swap job) : Inv m { s with
      impl := s.impl.flushSwap
      worker := if s.impl.rtQ.isEmpty then .fetch job else .subtract job } := by
  have hin : s.inbound = s.impl.rtQ := by simp [State.inbound, hw]
  have havail := h.available (show s.worker.job = some job by rw [hw]; rfl)
  have htickets := h.tickets
  rw [State.carried, hw] at htickets
  rw [hin] at havail
  cases hq : s.impl.rtQ with
  | nil =>
    refine h.sameRoad ?_ ?_ ?_ rfl rfl rfl ?_ ?_
    · simp [Impl.flushSwap, hq]
    · simp [Impl.flushSwap, hq]
    · simp [Impl.flushSwap, State.inbound, hw, hq]
    · simpa [Impl.flushSwap, hq, State.carried, Worker.job] using htickets
    · -- nothing was queued, so everything marked is in Redis
      intro uid v hv
      rcases (havail uid v hv).2 with hle | ⟨x, hx, -⟩
      · simpa [Impl.flushSwap, hq] using hle
      · rw [hq] at hx
        cases hx
  | cons x q =>
    refine h.sameRoad ?_ ?_ ?_ rfl rfl rfl ?_ ?_
    · simp [Impl.flushSwap, hq]
    · simp [Impl.flushSwap, hq]
    · simp [Impl.flushSwap, State.inbound, hw, hq]
    · simpa [Impl.flushSwap, hq, State.carried, Worker.job] using htickets
    · intro uid v hv
      have hv' := (havail uid v hv).2
      rw [hq] at hv'
      simpa [Impl.flushSwap, hq] using hv'

theorem subtract_inv {m : Nat} {s : State F} (h : Inv m s) {job : DbJob}
    (hw : s.worker = .subtract job) :
    Inv m { s with impl := s.impl.flushSubtract, worker := .write job } := by
  have htickets := h.tickets
  have hflushed := h.flushed
  rw [State.carried, hw] at htickets
  rw [hw] at hflushed
  refine h.sameRoad rfl rfl ?_ rfl rfl rfl htickets hflushed
  simp [State.inbound, hw, Impl.flushSubtract]

theorem write_inv {m : Nat} {s : State F} (h : Inv m s) {job : DbJob}
    (hw : s.worker = .write job) : Inv m { s with
      impl := { s.impl with
        redis := (writeUsersRtOnly libc (.allOk service) s.impl.redis s.impl.rtLocal).1 }
      worker := .fetch job } := by
  have hin : s.inbound = s.impl.rtLocal ++ s.impl.rtQ := by simp [State.inbound, hw]
  have hflow := h.flow
  have hproduced := h.produced
  have hmarked := h.marked
  have htickets := h.tickets
  have hflushed := h.flushed
  rw [hin] at hflow hproduced hmarked
  rw [State.carried, hw] at htickets
  rw [hw] at hflushed
  obtain ⟨hflow', hredis⟩ := hflow.write libc service
  have havail : ∀ uid v, Available s.impl.redis (s.impl.rtLocal ++ s.impl.rtQ) uid v →
      Available (writeFrom libc (.allOk service) s.impl.redis 0 s.impl.rtLocal).1 s.impl.rtQ uid v := by
    rintro uid v (hv | ⟨x, hx, hu, hv⟩)
    · exact Or.inl (hredis uid v (Or.inl hv))
    · rcases List.mem_append.mp hx with hx | hx
      · exact Or.inl (hredis uid v (Or.inr ⟨x, hx, hu, hv⟩))
      · exact Or.inr ⟨x, hx, hu, hv⟩
  refine ⟨hflow', ?_, ?_, htickets, ?_⟩
  · exact fun uid v hv => ⟨(hproduced uid v hv).1, havail uid v (hproduced uid v hv).2⟩
  · exact fun uid v hv => ⟨(hmarked uid v hv).1, havail uid v (hmarked uid v hv).2⟩
  · exact fun uid v hv => hredis uid v (hflushed uid v hv)

/-- Every user of the job with a mark has a row, at least as new. -/
theorem fetch_covers (libc : Libc F) (service : RedisService) {m : Nat} {s : State F}
    (h : Inv m s) {job : DbJob}
    (hw : s.worker = .fetch job) : ∀ uid ∈ job.uids, ∀ v ∈ job.marks uid,
      ∃ r ∈ fetchUsers libc (.allOk service) s.impl.redis job.uids, r.uid = uid ∧ v ≤ r.version := by
  intro uid huid v hv
  have hpos := (h.available (show s.worker.job = some job by rw [hw]; rfl) uid v hv).1
  have hle : v ≤ redisVersion s.impl.redis uid := by
    have hf := h.flushed
    rw [hw] at hf
    exact hf uid v hv
  obtain ⟨i, hi, rfl⟩ := List.mem_iff_getElem.mp huid
  obtain ⟨r, hr, hru, hrv⟩ := fetchUsers_complete (o := .allOk service) hi rfl
    (h.flow.complete _ (by omega))
  exact ⟨r, hr, hru, by omega⟩

theorem skip_inv {m : Nat} {s : State F} (h : Inv m s) {job : DbJob}
    (hw : s.worker = .fetch job) (hu : job.uids = []) : Inv m { s with worker := .waiting } := by
  have htickets := h.tickets
  rw [State.carried, hw] at htickets
  refine h.sameRoad rfl rfl ?_ rfl rfl rfl ?_ trivial
  · simp [State.inbound, hw]
  · have hh := htickets.finish (fun _ => le_refl _) (by simp [hu])
    simpa [State.carried, Worker.job] using hh

theorem fetch_inv {m : Nat} {s : State F} (h : Inv m s) {job : DbJob}
    (hw : s.worker = .fetch job) {snap : List (UserSnapshot F)}
    (hsnap : snap = fetchUsers libc (.allOk service) s.impl.redis job.uids) : Inv m { s with
      impl := { s.impl with snap }
      worker := if snap.isEmpty then .waiting else .upsert job snap } := by
  have hcovers : ∀ uid ∈ job.uids, ∀ v ∈ job.marks uid, ∃ r ∈ snap, r.uid = uid ∧ v ≤ r.version :=
    hsnap ▸ fetch_covers libc service h hw
  have hin : s.inbound = s.impl.rtQ := by simp [State.inbound, hw]
  have htickets := h.tickets
  rw [State.carried, hw] at htickets
  cases hs : snap with
  | nil =>
    refine h.sameRoad rfl rfl ?_ rfl rfl rfl ?_ trivial
    · rw [hin]
      rfl
    · have hh := htickets.finish (fun _ => le_refl _) ?_
      · simpa [State.carried, Worker.job] using hh
      · intro uid huid v hv
        obtain ⟨r, hr, -⟩ := hcovers uid huid v hv
        rw [hs] at hr
        cases hr
  | cons r rs =>
    refine h.sameRoad rfl rfl ?_ rfl rfl rfl htickets ⟨?_, ?_⟩
    · rw [hin]
      rfl
    · rwa [hs] at hcovers
    · rw [← hs, hsnap]
      exact fun r hr => (mem_fetchUsers hr).2.2

theorem upsert_inv {m : Nat} (hsp : UpsertsBatch sp) {s : State F} (h : Inv m s) {job : DbJob}
    {snap : List (UserSnapshot F)} (hw : s.worker = .upsert job snap) :
    Inv m { s with impl := { s.impl with table := sp s.impl.table snap }, worker := .waiting } ∧
    (∀ uid, s.impl.table.version uid ≤ UserTable.version (sp s.impl.table snap) uid) ∧
    ∀ uid ∈ job.uids, ∀ v ∈ job.marks uid, v ≤ UserTable.version (sp s.impl.table snap) uid := by
  have hin : s.inbound = s.impl.rtQ := by simp [State.inbound, hw]
  have hflow := h.flow
  have hproduced := h.produced
  have hmarked := h.marked
  have htickets := h.tickets
  have hflushed := h.flushed
  rw [hin] at hflow hproduced hmarked
  rw [State.carried, hw] at htickets
  rw [hw] at hflushed
  obtain ⟨hrows, hversions⟩ := hflushed
  obtain ⟨hflow', hgrow, hbatch⟩ := hflow.upsert hsp hversions
  have hdone : ∀ uid ∈ job.uids, ∀ v ∈ job.marks uid,
      v ≤ UserTable.version (sp s.impl.table snap) uid := by
    intro uid huid v hv
    obtain ⟨r, hr, rfl, hle⟩ := hrows uid huid v hv
    rw [hbatch r hr]
    exact hle
  refine ⟨⟨hflow', hproduced, hmarked, ?_, trivial⟩, hgrow, hdone⟩
  have hh := htickets.finish hgrow hdone
  simpa [State.carried, Worker.job] using hh

theorem worker_inv {m : Nat} (hsp : UpsertsBatch sp) {s : State F} (h : Inv m s) :
    Inv m (s.workerNext libc service sp) := by
  unfold State.workerNext
  cases hw : s.worker with
  | waiting =>
    cases hq : s.impl.queue with
    | nil => exact h
    | cons job queue => exact pop_inv h hw hq
  | swap job => exact swap_inv h hw
  | subtract job => exact subtract_inv h hw
  | write job => exact write_inv h hw
  | fetch job =>
    show Inv m (if job.uids.isEmpty then _ else _)
    by_cases hu : job.uids.isEmpty = true
    · rw [if_pos hu]
      exact skip_inv h hw (List.isEmpty_iff.mp hu)
    · rw [if_neg hu]
      exact fetch_inv h hw rfl
  | upsert job snap => exact (upsert_inv hsp h hw).1

/-- **The worker's steps are `handleDbJob`.** Undisturbed and connected,
they take a job from its start to the state `handleDbJob` computes when
nothing fails. -/
theorem worker_steps_eq_handleDbJob {s : State F} {job : DbJob} (hw : s.worker = .swap job)
    (hc : s.impl.Connected) :
    ∃ n, (State.workerNext libc service sp)^[n] s =
      { s with impl := (s.impl.handleDbJob libc sp (.allOk service) job).1, worker := .waiting } := by
  obtain ⟨⟨dirty, queue, redisCtx, mysql, snap, rtQ, rtLocal, rtPending, redis, table⟩, timer,
    worker, producer, last, marks⟩ := s
  obtain ⟨rfl, rfl⟩ : redisCtx = true ∧ mysql = true := hc
  obtain rfl : worker = .swap job := hw
  cases rtQ with
  | nil =>
    cases hu : job.uids with
    | nil =>
      refine ⟨2, ?_⟩
      simp [State.workerNext, Impl.flushSwap, Impl.handleDbJob, Impl.ensureConnected,
        Impl.flushRtWrites, hu]
    | cons uid uids =>
      cases hf : fetchUsers libc (.allOk service) redis job.uids with
      | nil =>
        refine ⟨2, ?_⟩
        rw [hu] at hf
        simp [State.workerNext, Impl.flushSwap, Impl.handleDbJob, Impl.ensureConnected,
          Impl.flushRtWrites, Impl.Outcomes.allOk, hu, hf]
      | cons r rs =>
        refine ⟨3, ?_⟩
        rw [hu] at hf
        simp [State.workerNext, Impl.flushSwap, Impl.handleDbJob, Impl.ensureConnected,
          Impl.flushRtWrites, Impl.Outcomes.allOk, Impl.callSpUpsertUserStateBatch, hu, hf]
  | cons x q =>
    cases hu : job.uids with
    | nil =>
      refine ⟨4, ?_⟩
      simp [State.workerNext, Impl.flushSwap, Impl.flushSubtract, Impl.handleDbJob,
        Impl.ensureConnected, Impl.flushRtWrites, writeUsersRtOnly,
        Impl.Outcomes.allOk, hu]
    | cons uid uids =>
      cases hf : fetchUsers libc (.allOk service)
          (writeFrom libc (.allOk service) redis 0 (x :: q)).1 job.uids with
      | nil =>
        refine ⟨4, ?_⟩
        rw [hu] at hf
        simp [State.workerNext, Impl.flushSwap, Impl.flushSubtract, Impl.handleDbJob,
          Impl.ensureConnected, Impl.flushRtWrites, writeUsersRtOnly,
          Impl.Outcomes.allOk, hu, hf]
      | cons r rs =>
        refine ⟨5, ?_⟩
        rw [hu] at hf
        simp [State.workerNext, Impl.flushSwap, Impl.flushSubtract, Impl.handleDbJob,
          Impl.ensureConnected, Impl.flushRtWrites, writeUsersRtOnly,
          Impl.Outcomes.allOk, Impl.callSpUpsertUserStateBatch, hu, hf]

/-! ## Runs -/

theorem next_inv {maxBatchUids : Nat} (hsp : UpsertsBatch sp) {s : State F}
    (h : Inv (max 1 maxBatchUids) s) {a : Action F} (ha : s.Enabled a) :
    Inv (max 1 maxBatchUids) (s.next libc service sp maxBatchUids a) := by
  cases a with
  | push x => exact push_inv h ha
  | count uid => exact count_inv h ha
  | mark uid => exact mark_inv h ha
  | timer order => exact timer_inv h order
  | worker => exact worker_inv hsp h

theorem threadSystem_inv {maxBatchUids : Nat} (hsp : UpsertsBatch sp)
    {l : List (State F × Action F)} {t : State F}
    (r : Run (threadSystem libc service sp maxBatchUids) l t) : Inv (max 1 maxBatchUids) t := by
  refine r.invariant (I := Inv (max 1 maxBatchUids)) (fun s hs => inv_initial hs _) ?_
  rintro s a t hs ⟨ha, rfl⟩
  exact next_inv hsp hs ha

theorem count_frame (maxBatchUids : Nat) (s : State F) (uid : Uid) :
    (s.next libc service sp maxBatchUids (.count uid)).impl.table = s.impl.table ∧
    (s.next libc service sp maxBatchUids (.count uid)).worker = s.worker := by
  simp only [State.next]
  cases s.producer uid <;> exact ⟨rfl, rfl⟩

theorem mark_frame (maxBatchUids : Nat) (s : State F) (uid : Uid) :
    (s.next libc service sp maxBatchUids (.mark uid)).impl.table = s.impl.table ∧
    (s.next libc service sp maxBatchUids (.mark uid)).worker = s.worker := by
  simp only [State.next]
  cases s.producer uid <;> exact ⟨rfl, rfl⟩

/-- Only the stored procedure touches the table. -/
theorem next_table (maxBatchUids : Nat) (s : State F) (a : Action F) :
    (s.next libc service sp maxBatchUids a).impl.table = s.impl.table ∨
    ∃ job snap, a = .worker ∧ s.worker = .upsert job snap ∧
      (s.next libc service sp maxBatchUids a).impl.table = sp s.impl.table snap := by
  cases a with
  | push x => exact Or.inl rfl
  | count uid => exact Or.inl (count_frame _ s uid).1
  | mark uid => exact Or.inl (mark_frame _ s uid).1
  | timer order => exact Or.inl (timerNext_frame _ order s).2.1
  | worker =>
    cases hw : s.worker with
    | upsert job snap =>
      refine Or.inr ⟨job, snap, rfl, rfl, ?_⟩
      simp [State.next, State.workerNext, hw]
    | waiting =>
      left
      cases hq : s.impl.queue <;> simp [State.next, State.workerNext, hw, hq]
    | swap job =>
      left
      simp only [State.next, State.workerNext, hw, Impl.flushSwap]
      split <;> rfl
    | subtract job => left; simp [State.next, State.workerNext, hw, Impl.flushSubtract]
    | write job => left; simp [State.next, State.workerNext, hw]
    | fetch job =>
      left
      cases hu : job.uids <;> simp [State.next, State.workerNext, hw, hu]

theorem next_table_grows {maxBatchUids : Nat} (hsp : UpsertsBatch sp) {s : State F}
    (h : Inv (max 1 maxBatchUids) s) (a : Action F) (uid : Uid) :
    s.impl.table.version uid ≤ (s.next libc service sp maxBatchUids a).impl.table.version uid := by
  rcases next_table maxBatchUids s a with heq | ⟨job, snap, -, hw, heq⟩
  · rw [heq]
  · rw [heq]
    exact (upsert_inv hsp h hw).2.1 uid

/-- When a job ends, MySQL has every mark it remembers. -/
theorem job_done {maxBatchUids : Nat} (hsp : UpsertsBatch sp) {s : State F}
    (h : Inv (max 1 maxBatchUids) s) {job : DbJob} (hjob : s.worker.job = some job)
    (hdone : (s.workerNext libc service sp).worker = .waiting) :
    ∀ uid ∈ job.uids, ∀ v ∈ job.marks uid,
      v ≤ (s.workerNext libc service sp).impl.table.version uid := by
  unfold State.workerNext at hdone ⊢
  cases hw : s.worker with
  | waiting => rw [hw] at hjob; cases hjob
  | swap j =>
    rw [hw] at hdone
    cases hq : s.impl.rtQ <;> simp [hq] at hdone
  | subtract j => rw [hw] at hdone; cases hdone
  | write j => rw [hw] at hdone; cases hdone
  | fetch j =>
    obtain rfl : j = job := by rw [hw] at hjob; exact Option.some.inj hjob
    intro uid huid v hv
    obtain ⟨r, hr, -⟩ := fetch_covers libc service h hw uid huid v hv
    have hne : j.uids ≠ [] := List.ne_nil_of_mem huid
    have hsome : fetchUsers libc (.allOk service) s.impl.redis j.uids ≠ [] := List.ne_nil_of_mem hr
    rw [hw] at hdone
    simp [hne, hsome] at hdone
  | upsert j snap =>
    obtain rfl : j = job := by rw [hw] at hjob; exact Option.some.inj hjob
    exact (upsert_inv hsp h hw).2.2

/-- Where a user can be on the road of the marks: in `DirtyHub`, in the
part of the stolen list not yet handed on, in a queued job, or in the job
being handled. -/
def State.Carries (maxBatch : Nat) (s : State F) (uid : Uid) : Prop :=
  s.impl.dirty.Has uid ∨ (∃ j, s.timer.job maxBatch = some j ∧ uid ∈ j.uids) ∨
    (∃ j ∈ s.impl.queue, uid ∈ j.uids) ∨ ∃ j, s.worker.job = some j ∧ uid ∈ j.uids

end

/-- **Freshness without failures**, for every interleaving of producers,
timer and worker. At every moment a marked version of a user is covered
by the user's row in MySQL, or the user is still on the road of the
marks; when a job ends, the row of each of its users has every version
marked before the user was stolen; and the version in a row never goes
back. -/
theorem marks_reach_mysql (libc : Libc F) (service : RedisService)
    (sp : UserTable F → List (UserSnapshot F) → UserTable F) (hsp : UpsertsBatch sp)
    (maxBatchUids : Nat) (l : List (State F × Action F)) (t : State F)
    (r : Run (threadSystem libc service sp maxBatchUids) l t) :
    (∀ uid, ∀ v ∈ t.marks uid,
      v ≤ t.impl.table.version uid ∨ t.Carries (max 1 maxBatchUids) uid) ∧
    (∀ s a, (s, a) ∈ l → ∀ job, s.worker.job = some job →
      (s.next libc service sp maxBatchUids a).worker = .waiting →
        ∀ uid ∈ job.uids, ∀ v ∈ job.marks uid,
          v ≤ (s.next libc service sp maxBatchUids a).impl.table.version uid) ∧
    (∀ s a, (s, a) ∈ l → ∀ uid, s.impl.table.version uid ≤
      (s.next libc service sp maxBatchUids a).impl.table.version uid) := by
  refine ⟨?_, ?_, ?_⟩
  · intro uid v hv
    rcases (threadSystem_inv hsp r).tickets.covered uid v hv with hrow | hd | ⟨j, hj, huid, -⟩
    · exact Or.inl hrow
    · exact Or.inr (Or.inl hd)
    · simp only [State.carried, List.mem_append, Option.mem_toList] at hj
      rcases hj with (hj | hj) | hj
      · exact Or.inr (Or.inr (Or.inl ⟨j, hj, huid⟩))
      · exact Or.inr (Or.inr (Or.inr (Or.inl ⟨j, hj, huid⟩)))
      · exact Or.inr (Or.inr (Or.inr (Or.inr ⟨j, hj, huid⟩)))
  · intro s a hmem job hjob hdone
    obtain ⟨_, _, rs, -⟩ := r.source (s, a) hmem
    have hs := threadSystem_inv hsp rs
    have hbusy : s.worker ≠ .waiting := fun hw => by rw [hw] at hjob; cases hjob
    cases a with
    | worker => exact job_done hsp hs hjob hdone
    | push x => exact absurd hdone hbusy
    | count uid => exact absurd ((count_frame _ s uid).2.symm.trans hdone) hbusy
    | mark uid => exact absurd ((mark_frame _ s uid).2.symm.trans hdone) hbusy
    | timer order =>
      have hw := (timerNext_frame (max 1 maxBatchUids) order s).2.2.2.2.1
      exact absurd (hw.symm.trans hdone) hbusy
  · intro s a hmem uid
    obtain ⟨_, _, rs, -⟩ := r.source (s, a) hmem
    exact next_table_grows hsp (threadSystem_inv hsp rs) a uid

/-- The timer steps `n` times. -/
theorem timer_steps {libc : Libc F} {service : RedisService}
    {sp : UserTable F → List (UserSnapshot F) → UserTable F} {maxBatchUids : Nat}
    {l : List (State F × Action F)} {s : State F}
    (r : Run (threadSystem libc service sp maxBatchUids) l s) (order : Enumeration Uid) (n : Nat) :
    ∃ l', Run (threadSystem libc service sp maxBatchUids) l'
      ((State.timerNext (max 1 maxBatchUids) order)^[n] s) := by
  induction n with
  | zero => exact ⟨l, r⟩
  | succ n ih =>
    obtain ⟨l', r'⟩ := ih
    rw [Function.iterate_succ_apply']
    exact ⟨_, r'.next (.timer order) ⟨trivial, rfl⟩⟩

theorem waiting_of_isNone {x : Worker F} (h : x.job.isNone = true) : x = .waiting := by
  cases x <;> simp_all [Worker.job]

/-- Nothing pushed or marked yet. -/
theorem initial_empty : State.Initial ({} : State Int) := by
  refine ⟨⟨rfl, rfl, fun _ => rfl⟩, ⟨rfl, rfl, ?_, fun _ => rfl⟩, ?_, fun _ => ⟨rfl, rfl, rfl⟩⟩
  · rintro uid ⟨k, hk⟩
    cases hk
  · intro uid h
    cases h

/-- User 7 at one place or another. -/
def seven (version : Nat) : UserSnapshot Int :=
  { uid := 7, x := version, z := 2, hp := 90, sp := 30, version }

/-- A snapshot of user 7 goes all the way: pushed, counted and marked,
stolen and batched by the timer, popped by the worker, which swaps,
subtracts and writes. A second one is pushed and marked before the worker
fetches. The upsert, the last step, brings the first to MySQL; the second
is on the road. -/
theorem marks_reach_mysql_seven :
    ∃ (l : List (State Int × Action Int)) (s t : State Int) (job : DbJob),
      Run (threadSystem intLibc plainRedis upsertUserState 100) ((s, .worker) :: l) t ∧
        s.worker.job = some job ∧ job.uids = [7] ∧ job.marks 7 = [1] ∧ t.worker = .waiting ∧
        s.impl.table.version 7 = 0 ∧ t.impl.table.version 7 = 1 ∧ t.marks 7 = [2, 1] ∧
        (∀ v ∈ job.marks 7, v ≤ t.impl.table.version 7) ∧
        s.impl.table.version 7 ≤ t.impl.table.version 7 ∧ t.Carries 100 7 := by
  let next := State.next intLibc plainRedis upsertUserState 100
  -- the run up to the upsert
  obtain ⟨l, s, r, hjob, hbefore, hwaiting, hversion, hmarks⟩ :
      ∃ l s, Run (threadSystem intLibc plainRedis upsertUserState 100) l s ∧
        s.worker.job.map (fun job => (job.uids, job.marks 7)) = some ([7], [1]) ∧
        s.impl.table.version 7 = 0 ∧ (next s .worker).worker.job.isNone = true ∧
        (next s .worker).impl.table.version 7 = 1 ∧ (next s .worker).marks 7 = [2, 1] := by
    have r : Run (threadSystem intLibc plainRedis upsertUserState 100) [] ({} : State Int) :=
      .start initial_empty
    -- the producer
    have r := r.next (.push (seven 1)) ⟨⟨rfl, by decide⟩, rfl⟩
    have r := (r.next (.count 7) ⟨⟨1, rfl⟩, rfl⟩).next (.mark 7) ⟨⟨1, rfl⟩, rfl⟩
    -- the 64 shards, the job, and the end of the tick
    obtain ⟨_, r⟩ := timer_steps r Enumeration.increasing 68
    -- pop, swap, subtract, write
    have r := (r.next .worker ⟨trivial, rfl⟩).next .worker ⟨trivial, rfl⟩
    have r := (r.next .worker ⟨trivial, rfl⟩).next .worker ⟨trivial, rfl⟩
    have r := r.next (.push (seven 2)) ⟨⟨by decide +kernel, by decide +kernel⟩, rfl⟩
    have r := r.next (.count 7) ⟨⟨2, by decide +kernel⟩, rfl⟩
    have r := r.next (.mark 7) ⟨⟨2, by decide +kernel⟩, rfl⟩
    -- fetch
    have r := r.next .worker ⟨trivial, rfl⟩
    exact ⟨_, _, r, by decide +kernel, by decide +kernel, by decide +kernel, by decide +kernel,
      by decide +kernel⟩
  obtain ⟨job, hwork, hhand⟩ := Option.map_eq_some_iff.mp hjob
  obtain ⟨huids, hjobMarks⟩ := Prod.mk.inj hhand
  have hdone := waiting_of_isNone hwaiting
  have r' := r.next .worker ⟨trivial, rfl⟩
  obtain ⟨hroad, hends, hgrows⟩ := marks_reach_mysql intLibc plainRedis upsertUserState
    upsertUserState_upserts 100 _ _ r'
  have h7 : 7 ∈ job.uids := by simp [huids]
  refine ⟨l, s, _, job, r', hwork, huids, hjobMarks, hdone, hbefore, hversion, hmarks,
    hends s .worker List.mem_cons_self job hwork hdone 7 h7,
    hgrows s .worker List.mem_cons_self 7, ?_⟩
  rcases hroad 7 2 (hmarks ▸ List.mem_cons_self) with h | h
  · exact absurd (h.trans_eq hversion) (by decide)
  · exact h

end MmorpgServer.Storage
