/-
MmorpgServer.Storage.RowTheorems — what the rows hold that come back from
Redis.

For any set `P` of coordinates that survives printing and reading: if
every snapshot queued for Redis is in `P` and every row there reads as one
in `P`, the same is true after a database job, whatever fails in it, and
the rows handed to the stored procedure are in `P`.
-/
import MmorpgServer.Storage.StorageSystemTheorems

namespace MmorpgServer.Storage

variable {F : Type} {P : F → Prop}

/-- The coordinates of a snapshot are in `P`. -/
structure UserSnapshot.In (P : F → Prop) (s : UserSnapshot F) : Prop where
  x : P s.x
  z : P s.z

/-- A coordinate in `P`, printed and read back, is in `P`. -/
def Libc.RoundTrips (libc : Libc F) (P : F → Prop) : Prop :=
  ∀ x, P x → P (libc.strtof (libc.printFloat x))

/-- Every row reads as a snapshot in `P`. -/
def RowsIn (libc : Libc F) (P : F → Prop) (store : RedisStore) : Prop :=
  ∀ uid row, storedRow libc store uid = some row → row.In P

/-! ## Writing and reading back -/

/-- A row is read from its key alone. -/
theorem storedRow_congr (libc : Libc F) {store store' : RedisStore} {uid : Uid}
    (h : store' (keyRt uid) = store (keyRt uid)) :
    storedRow libc store' uid = storedRow libc store uid := by
  simp only [storedRow, hashAt, redisVersion, h]

/-- The row a snapshot leaves, read back. -/
theorem storedRow_hset (libc : Libc F) (service : RedisService) {store : RedisStore}
    (s : UserSnapshot F) (h : ¬ WrongType store s.uid) :
    storedRow libc (service.hset store (keyRt s.uid) (rtFields libc s) s.version).1 s.uid =
      some { s with
        x := libc.strtof (libc.printFloat s.x), z := libc.strtof (libc.printFloat s.z)
        hp := libc.atoi (libc.printInt s.hp), sp := libc.atoi (libc.printInt s.sp) } := by
  rw [hset_fst service h]
  simp [storedRow, replyRow, hashAt, redisVersion, setFields, rtFields, Function.update,
    parseFloat_bulk, parseInt_bulk]

variable {libc : Libc F}

theorem RowsIn.writeOne (hlibc : libc.RoundTrips P) (o : WriteOutcome) {store : RedisStore}
    (h : RowsIn libc P store) {s : UserSnapshot F} (hs : s.In P) (i : Nat) :
    RowsIn libc P (writeOne libc o store i s).1 := by
  unfold Storage.writeOne
  split
  · intro uid row hrow
    by_cases huid : uid = s.uid
    · subst huid
      by_cases htype : WrongType store s.uid
      · rw [hset_wrongType o.service htype] at hrow
        exact h s.uid row hrow
      · rw [storedRow_hset libc o.service s htype] at hrow
        cases hrow
        exact ⟨hlibc _ hs.x, hlibc _ hs.z⟩
    · rw [storedRow_congr libc (hset_fst_of_ne o.service huid _ _)] at hrow
      exact h uid row hrow
  · exact h

theorem RowsIn.writeFrom (hlibc : libc.RoundTrips P) (o : WriteOutcome) {store : RedisStore}
    (h : RowsIn libc P store) {snaps : List (UserSnapshot F)} (hsnaps : ∀ s ∈ snaps, s.In P)
    (i : Nat) : RowsIn libc P (writeFrom libc o store i snaps).1 := by
  induction snaps generalizing store i with
  | nil => exact h
  | cons s snaps ih =>
    rw [List.forall_mem_cons] at hsnaps
    rw [writeFrom_cons]
    exact ih (h.writeOne hlibc o hsnaps.1 i) hsnaps.2 (i + 1)

/-! ## One job -/

/-- What is queued, stored and fetched is in `P`. -/
structure Impl.In (libc : Libc F) (P : F → Prop) (s : Impl F) : Prop where
  queued : ∀ x ∈ s.rtQ, x.In P
  rows : RowsIn libc P s.redis
  fetched : ∀ x ∈ s.snap, x.In P

namespace Impl

variable {s : Impl F}

theorem In.enqueue (h : s.In libc P) {x : UserSnapshot F} (hx : x.In P) :
    (s.enqueuePush x).enqueueCount.In libc P := by
  refine ⟨fun y hy => ?_, h.rows, h.fetched⟩
  rcases List.mem_append.mp hy with hy | hy
  · exact h.queued y hy
  · rw [List.mem_singleton] at hy
    rw [hy]
    exact hx

theorem In.disconnectDb (h : s.In libc P) : s.disconnectDb.In libc P :=
  ⟨h.queued, h.rows, h.fetched⟩

theorem In.ensureConnected (h : s.In libc P) (o : ConnectOutcome) :
    (s.ensureConnected o).1.In libc P := by
  obtain ⟨⟨r, m, hs⟩, -⟩ := ensureConnected_spec o s
  rw [hs]
  exact ⟨h.queued, h.rows, h.fetched⟩

theorem In.flushRtWrites (hlibc : libc.RoundTrips P) (h : s.In libc P) (o : WriteOutcome) :
    (s.flushRtWrites libc o).1.In libc P := by
  unfold Impl.flushRtWrites
  cases hq : s.rtQ with
  | nil => exact ⟨by simp, h.rows, h.fetched⟩
  | cons x q =>
    have hqueued : ∀ y ∈ x :: q, y.In P := hq ▸ h.queued
    have hrows := RowsIn.writeFrom hlibc o h.rows hqueued 0
    simp only [List.isEmpty_cons, Bool.false_eq_true, if_false, flushSwap, flushSubtract, hq]
    split
    · exact ⟨by simp, h.rows, h.fetched⟩
    · have hwritten : Impl.In libc P { s with
          rtLocal := x :: q, rtQ := []
          rtPending := s.rtPending - UInt32.ofNat (x :: q).length
          redis := (writeUsersRtOnly libc o s.redis (x :: q)).1 } := ⟨by simp, hrows, h.fetched⟩
      exact iteInduction (motive := Impl.In libc P) (fun _ => hwritten.disconnectDb) fun _ => hwritten

/-- The second half of a job: the rows of its users are fetched and handed
to the stored procedure. -/
theorem In.finishJob (h : s.In libc P) (sp : UserTable F → List (UserSnapshot F) → UserTable F)
    (o : Outcomes) (rep : Report F) (job : DbJob) :
    (finishJob libc sp o s rep job).1.In libc P := by
  have hconnected := h.ensureConnected o.reconnect
  have hfetched : ∀ table, Impl.In libc P { (s.ensureConnected o.reconnect).1 with
      snap := fetchUsers libc o.fetch (s.ensureConnected o.reconnect).1.redis job.uids
      table } := by
    refine fun table => ⟨hconnected.queued, hconnected.rows, fun row hrow => ?_⟩
    exact hconnected.rows row.uid row (mem_fetchUsers hrow).2.1
  refine iteInduction (motive := fun r : Impl F × Report F => r.1.In libc P)
    (fun _ => hconnected) fun _ => ?_
  refine iteInduction (motive := fun r : Impl F × Report F => r.1.In libc P)
    (fun _ => hconnected) fun _ => ?_
  refine iteInduction (motive := fun r : Impl F × Report F => r.1.In libc P)
    (fun _ => hconnected.disconnectDb) fun _ => ?_
  refine iteInduction (motive := fun r : Impl F × Report F => r.1.In libc P)
    (fun _ => hfetched _) fun _ => ?_
  exact iteInduction (motive := Impl.In libc P) (fun _ => (hfetched _).disconnectDb)
    fun _ => hfetched _

/-- **A job** hands rows in `P` to the stored procedure, and leaves the
rest in `P`. -/
theorem In.handleDbJob (hlibc : libc.RoundTrips P) (h : s.In libc P)
    (sp : UserTable F → List (UserSnapshot F) → UserTable F) (o : Outcomes) (job : DbJob) :
    (s.handleDbJob libc sp o job).1.In libc P := by
  have hbegun := h.ensureConnected o.connect
  refine iteInduction (motive := fun r : Impl F × Report F => r.1.In libc P) (fun _ => hbegun)
    fun _ => ?_
  exact (hbegun.flushRtWrites hlibc o.write).finishJob sp o _ job

end Impl

end MmorpgServer.Storage
