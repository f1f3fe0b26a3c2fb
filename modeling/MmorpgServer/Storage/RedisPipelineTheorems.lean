/-
MmorpgServer.Storage.RedisPipelineTheorems — what a write and a fetch do,
call by call.

* `Redis.writeUsersRtOnly_refines` — the calls of `WriteUsersRtOnly` come to
  what `Storage.RedisUserCache` says of it as a whole, under the outcome
  the environment makes of them (`RedisEnv.outcome`); the log of the
  server has the snapshots that were written.
* `Redis.fetchUsers_refines` — the same for `FetchUsers`, whatever the
  server refuses, as long as no call fails.
* `Redis.write_true_accepted_iff` — when a write that returns true was applied.
* `Redis.fetchUsers_last_written` — write, then fetch.
-/
import MmorpgServer.Storage.RedisPipeline
import MmorpgServer.Storage.RowTheorems

namespace MmorpgServer.Storage

open MmorpgServer.Lib

variable {F : Type} (libc : Libc F) (env : RedisEnv)

/-! ## The commands of a write -/

/-- The outcome of a write gives its `i`-th command what the environment
gives its `n`-th. -/
def SameFate (o : WriteOutcome) (i n : Nat) : Prop :=
  o.service = env.service ∧ o.reaches i = env.reaches n ∧ o.refuses i = env.refuses n

/-- A HSET is taken when it reaches the server, is not refused, and finds
no key of another type; it is answered whether it is taken or not. -/
theorem serve_hsetRt {o : WriteOutcome} {n i : Nat} (ho : SameFate env o i n)
    (server : RedisServer) (s : UserSnapshot F) :
    (env.serve n server (hsetRt libc s)).1.store = (writeOne libc o server.store i s).1 ∧
    (env.serve n server (hsetRt libc s)).1.taken =
      server.taken ++ (if (writeOne libc o server.store i s).2 then [hsetRt libc s] else []) ∧
    (env.serve n server (hsetRt libc s)).2.isSome = decide (env.Arrives n) := by
  obtain ⟨hservice, hreach, hrefuse⟩ := ho
  unfold RedisEnv.serve RedisEnv.Arrives RedisEnv.execute writeOne
  rw [hservice, hreach, hrefuse]
  by_cases hreaches : env.reaches n = true
  · cases env.refuses n with
    | some msg =>
      by_cases hanswers : env.answers n = true <;> simp [hreaches, hanswers, Reply.isError]
    | none =>
      cases herror : (env.service.hset server.store (keyRt s.uid) (rtFields libc s)
          s.version).2.isError <;>
        by_cases hanswers : env.answers n = true <;>
          simp [hreaches, hanswers, runCommand, hsetRt, herror]
  · simp [hreaches]

/-- The HSETs of a list. -/
theorem serveAll_hsetRt {o : WriteOutcome} {n i : Nat}
    (ho : ∀ j, SameFate env o (i + j) (n + j))
    (server : RedisServer) (snap : List (UserSnapshot F)) :
    (Pipeline.serveAll env.serve n server (snap.map (hsetRt libc))).1.store =
      (writeFrom libc o server.store i snap).1 ∧
    (Pipeline.serveAll env.serve n server (snap.map (hsetRt libc))).1.taken = server.taken ++
      ((writeFrom libc o server.store i snap).2.filter Prod.snd).map fun d => hsetRt libc d.1 := by
  induction snap generalizing n i server with
  | nil => simp [Pipeline.serveAll, writeFrom]
  | cons s snap ih =>
    obtain ⟨hstore, htaken, -⟩ := serve_hsetRt libc env (ho 0) server s
    have hnext : ∀ j, SameFate env o (i + 1 + j) (n + 1 + j) := by
      intro j
      rw [Nat.add_right_comm, Nat.add_assoc i, Nat.add_right_comm n, Nat.add_assoc n]
      exact ho (j + 1)
    obtain ⟨hstores, htakens⟩ := ih hnext (env.serve n server (hsetRt libc s)).1
    rw [writeFrom_cons, List.map_cons, Pipeline.serveAll]
    simp only [Nat.add_zero] at hstore htaken
    rw [hstore] at hstores htakens
    refine ⟨hstores, htakens.trans ?_⟩
    rw [htaken, List.append_assoc]
    by_cases hw : (writeOne libc o server.store i s).2 = true <;> simp [hw]

/-- Their replies all come back. -/
theorem serveAll_answers (n : Nat) (server : RedisServer) (snap : List (UserSnapshot F)) :
    (Pipeline.serveAll env.serve n server (snap.map (hsetRt libc))).2.all Option.isSome = true ↔
      ∀ i < snap.length, env.Arrives (n + i) := by
  induction snap generalizing n server with
  | nil => simp [Pipeline.serveAll]
  | cons s snap ih =>
    have ho : SameFate env ⟨env.service, env.reaches, env.refuses, true⟩ n n := ⟨rfl, rfl, rfl⟩
    obtain ⟨-, -, hanswer⟩ := serve_hsetRt libc env ho server s
    rw [List.map_cons, Pipeline.serveAll, List.all_cons, Bool.and_eq_true, hanswer, ih,
      List.length_cons, Nat.forall_lt_succ_left, decide_eq_true_iff]
    simp only [Nat.add_assoc, Nat.add_comm 1, Nat.add_zero]

/-! ## A write -/

/-- What becomes of a write of `k` commands from the `n`-th on. -/
def RedisEnv.outcome (env : RedisEnv) (n k : Nat) : WriteOutcome where
  service := env.service
  reaches i := decide (∀ j < k, env.room (n + j) = true) && env.reaches (n + i)
  refuses i := env.refuses (n + i)
  replies := decide (∀ j < k, env.room (n + j) = true ∧ env.Arrives (n + j))

/-- An append fails, or a reply. -/
def RedisEnv.Fails (env : RedisEnv) (n k : Nat) : Prop :=
  ∃ i < k, ¬ (env.room (n + i) = true ∧ env.Arrives (n + i))

theorem not_fails_faultless (service : RedisService) (n k : Nat) :
    ¬ (RedisEnv.faultless service).Fails n k :=
  fun ⟨_, _, h⟩ => h ⟨rfl, rfl, rfl⟩

theorem outcome_replies (n k : Nat) : (env.outcome n k).replies = true ↔ ¬ env.Fails n k := by
  simp [RedisEnv.outcome, RedisEnv.Fails]

namespace Redis

/-- A write whose commands do not all find room sends none. -/
theorem writeFrom_unsent {o : WriteOutcome} (ho : ∀ i, o.reaches i = false) (store : RedisStore)
    (i : Nat) (snap : List (UserSnapshot F)) :
    writeFrom libc o store i snap = (store, snap.map fun s => (s, false)) := by
  induction snap generalizing i with
  | nil => rfl
  | cons s snap ih => simp [writeFrom_cons, writeOne, ho, ih]

/-- The context and the result are those of the write as a whole, under an
outcome; a write that succeeds leaves nothing under way. -/
structure WriteIs (o : WriteOutcome) (c c' : RedisContext) (snap : List (UserSnapshot F))
    (ok : Bool) : Prop where
  result : ok = (Storage.writeUsersRtOnly libc o c.server.store snap).2.2
  store : c'.server.store = (Storage.writeUsersRtOnly libc o c.server.store snap).1
  taken : c'.server.taken = c.server.taken ++
    ((Storage.writeUsersRtOnly libc o c.server.store snap).2.1.filter Prod.snd).map
      fun d => hsetRt libc d.1
  drained : ok = true → c'.Drained

/-- Every command is appended, and all are sent when the first reply is
asked for. -/
theorem write_sent {c : RedisContext} (hc : c.Drained) {snap : List (UserSnapshot F)}
    (hnil : snap ≠ []) (hroom : ∀ i < snap.length, env.room (c.sent + i) = true) :
    ∃ c' ok, writeUsersRtOnly libc env (some c) snap = (some c', ok) ∧
      WriteIs libc (env.outcome c.sent snap.length) c c' snap ok := by
  have hempty : snap.isEmpty = false := by simpa using hnil
  have happ : (c.appendAll env.room (snap.map (hsetRt libc))).2 = true := by
    rw [Pipeline.appendAll_snd, hc.obuf, List.length_nil, Nat.add_zero, List.length_map]
    exact hroom
  have hbuf := Pipeline.appendAll_fst happ
  rw [hc.obuf, List.nil_append] at hbuf
  obtain ⟨hserver, hresult, hdrained⟩ := Pipeline.collect_served env.serve
    (fun (_ : Unit) (_ : UserSnapshot F) _ => ()) hc
    (List.length_map (hsetRt libc) : (snap.map (hsetRt libc)).length = _) hnil ()
  have ho : ∀ j, SameFate env (env.outcome c.sent snap.length) (0 + j) (c.sent + j) := by
    intro j
    simp only [SameFate, Nat.zero_add, RedisEnv.outcome, decide_eq_true hroom, Bool.true_and,
      and_self]
  have hreplies : (Pipeline.serveAll env.serve c.sent c.server
      (snap.map (hsetRt libc))).2.all Option.isSome = (env.outcome c.sent snap.length).replies := by
    rw [Bool.eq_iff_iff, serveAll_answers, RedisEnv.outcome, decide_eq_true_iff]
    exact forall₂_congr fun i hi => (and_iff_right (hroom i hi)).symm
  obtain ⟨hstore, htaken⟩ := serveAll_hsetRt libc env ho c.server snap
  refine ⟨_, _, ?_, ?_, ?_, ?_, hdrained⟩
  · simp only [writeUsersRtOnly, hempty, happ, Bool.false_eq_true, if_false, Bool.not_true, hbuf]
  · rw [hresult, hreplies, Storage.writeUsersRtOnly, hempty, Bool.false_or]
  · rw [hserver]
    exact hstore
  · rw [hserver]
    exact htaken

/-- A command finds no room, and none is sent. -/
theorem write_unsent {c : RedisContext} (hc : c.Drained) {snap : List (UserSnapshot F)}
    (hroom : ¬ ∀ i < snap.length, env.room (c.sent + i) = true) :
    ∃ c' ok, writeUsersRtOnly libc env (some c) snap = (some c', ok) ∧
      WriteIs libc (env.outcome c.sent snap.length) c c' snap ok := by
  have hempty : snap.isEmpty = false := by
    cases snap with
    | nil => exact absurd (by simp) hroom
    | cons s snap => rfl
  have happ : ¬ (c.appendAll env.room (snap.map (hsetRt libc))).2 = true := by
    rw [Pipeline.appendAll_snd, hc.obuf, List.length_nil, Nat.add_zero, List.length_map]
    exact hroom
  have hreaches : ∀ i, (env.outcome c.sent snap.length).reaches i = false := by
    intro i
    simp only [RedisEnv.outcome, decide_eq_false hroom, Bool.false_and]
  have hreplies : (env.outcome c.sent snap.length).replies = false :=
    decide_eq_false fun h => hroom fun j hj => (h j hj).1
  refine ⟨(c.appendAll env.room (snap.map (hsetRt libc))).1, false, ?_, ?_, ?_, ?_,
    fun h => absurd h Bool.false_ne_true⟩
  · simp [writeUsersRtOnly, hempty, happ]
  · rw [Storage.writeUsersRtOnly, hempty, hreplies]
    rfl
  · rw [Pipeline.appendAll_server, Storage.writeUsersRtOnly, writeFrom_unsent libc hreaches]
  · rw [Pipeline.appendAll_server, Storage.writeUsersRtOnly, writeFrom_unsent libc hreaches]
    simp [List.filter_map]

/-- **The calls of a write** come to the write as a whole, under the
outcome the environment makes of them. -/
theorem writeUsersRtOnly_refines {c : RedisContext} (hc : c.Drained)
    (snap : List (UserSnapshot F)) :
    ∃ c' ok, writeUsersRtOnly libc env (some c) snap = (some c', ok) ∧
      WriteIs libc (env.outcome c.sent snap.length) c c' snap ok := by
  by_cases hnil : snap = []
  · subst hnil
    exact ⟨c, true, rfl, rfl, rfl, by simp [Storage.writeUsersRtOnly, writeFrom], fun _ => hc⟩
  by_cases hroom : ∀ i < snap.length, env.room (c.sent + i) = true
  · exact write_sent libc env hc hnil hroom
  · exact write_unsent libc env hc hroom

/-- A fetch that succeeds leaves nothing under way. -/
theorem fetchUsers_drained {c c' : RedisContext} (hc : c.Drained) {uids : List Uid}
    {out : List (UserSnapshot F)}
    (h : fetchUsers libc env (some c) uids = (some c', out, true)) : c'.Drained := by
  simp only [fetchUsers] at h
  split at h
  · cases h
    exact hc
  rename_i hne
  have hnil : uids ≠ [] := fun h => hne (by rw [h]; rfl)
  split at h
  · cases h
  rename_i happ
  rw [Bool.not_eq_true, Bool.not_eq_false'] at happ
  have hbuf := Pipeline.appendAll_fst happ
  rw [hc.obuf, List.nil_append] at hbuf
  rw [hbuf] at h
  obtain ⟨hctx, hresult⟩ := Prod.mk.inj h
  obtain ⟨-, -, hdrained⟩ := Pipeline.collect_served env.serve
    (fun out uid reply => pushRow out (replyRow libc uid (redisVersion c.server.store uid) reply))
    hc (List.length_map hmgetRt : (uids.map hmgetRt).length = _) hnil []
  rw [← Option.some.inj hctx]
  exact hdrained (by rw [hresult])

/-- Nothing is under way on a context the worker holds. -/
theorem Held.drained {c : RedisContext} (h : Held libc env c) : c.Drained := by
  induction h with
  | connected store => exact ⟨rfl, rfl⟩
  | @wrote c c' snap _ hw ih =>
    obtain ⟨c'', ok, heq, hwrite⟩ := writeUsersRtOnly_refines libc env ih snap
    rw [hw] at heq
    obtain ⟨hctx, hresult⟩ := Prod.mk.inj heq
    rw [Option.some.inj hctx]
    exact hwrite.drained hresult.symm
  | fetched _ hf ih => exact fetchUsers_drained libc env ih hf
  | others _ store ih => exact ⟨ih.obuf, ih.replies⟩

/-! ## A write that returns true -/

/-- Redis has taken every HSET exactly when each of them was written. -/
theorem accepted_iff {o : WriteOutcome} {c c' : RedisContext} {snap : List (UserSnapshot F)}
    (htaken : c'.server.taken = c.server.taken ++
      ((writeFrom libc o c.server.store 0 snap).2.filter Prod.snd).map fun d => hsetRt libc d.1) :
    Accepted libc snap (some c) (some c') ↔
      ∀ d ∈ (writeFrom libc o c.server.store 0 snap).2, d.2 = true := by
  have hfst := Impl.writeFrom_map_fst libc o c.server.store 0 snap
  have hsnap : snap.map (hsetRt libc) =
      (writeFrom libc o c.server.store 0 snap).2.map fun d => hsetRt libc d.1 := by
    conv_lhs => rw [← hfst]
    rw [List.map_map]
    rfl
  rw [Accepted, htaken, List.append_cancel_left_eq, hsnap]
  constructor
  · intro h
    have hlen := congrArg List.length h
    rw [List.length_map, List.length_map] at hlen
    exact List.length_filter_eq_length_iff.mp hlen
  · intro h
    rw [List.filter_eq_self.mpr h]

/-- A write that counts as done has written every snapshot exactly when
the server refuses none; where a call fails, it does not count as done. -/
theorem done_written_iff (n : Nat) (store : RedisStore)
    (snap : List (UserSnapshot F)) :
    ((Storage.writeUsersRtOnly libc (env.outcome n snap.length) store snap).2.2 = true →
      ∀ d ∈ (Storage.writeUsersRtOnly libc (env.outcome n snap.length) store snap).2.1,
        d.2 = true) ↔
    env.Fails n snap.length ∨ ∀ (i : Nat) (hi : i < snap.length),
      env.refuses (n + i) = none ∧ ¬ WrongType store snap[i].uid := by
  simp only [Storage.writeUsersRtOnly, writeFrom_all_written, Bool.or_eq_true, outcome_replies,
    List.isEmpty_iff]
  by_cases hfails : env.Fails n snap.length
  · have hne : snap ≠ [] := by
      rintro rfl
      obtain ⟨i, hi, -⟩ := hfails
      cases hi
    simp [hne, hfails]
  · -- every command is sent and answered
    have hsent : ∀ j < snap.length, env.room (n + j) = true ∧ env.Arrives (n + j) := by
      simpa [RedisEnv.Fails] using hfails
    simp only [hfails, not_false_eq_true, or_true, true_imp_iff, false_or]
    refine forall₂_congr fun i hi => ?_
    simp only [Lands, Nat.zero_add, RedisEnv.outcome, Bool.and_eq_true, decide_eq_true_iff]
    exact and_iff_right ⟨fun j hj => (hsent j hj).1, (hsent i hi).2.1⟩

/-- `flush_rt_writes` drops what it has drained; it takes it to be in Redis
if it keeps the connection, and is right under the same condition. -/
theorem flush_drops_iff (n : Nat) {s : Impl F}
    (hctx : s.redisCtx = true) (hq : s.rtQ ≠ []) :
    let r := s.flushRtWrites libc (env.outcome n s.rtQ.length)
    r.1.rtQ = [] ∧ ((r.1.redisCtx = true → ∀ d ∈ r.2.drained, d.2 = true) ↔
      env.Fails n s.rtQ.length ∨ ∀ (i : Nat) (hi : i < s.rtQ.length),
        env.refuses (n + i) = none ∧ ¬ WrongType s.redis s.rtQ[i].uid) := by
  intro r
  have hempty : s.rtQ.isEmpty = false := by simpa using hq
  have hdone := done_written_iff libc env n s.redis s.rtQ
  simp only [r, Impl.flushRtWrites, hempty, Impl.flushSwap, Impl.flushSubtract, hctx,
    Bool.false_eq_true, if_false, Bool.not_true]
  cases hresult :
      (Storage.writeUsersRtOnly libc (env.outcome n s.rtQ.length) s.redis s.rtQ).2.2 with
  | false =>
    rw [hresult] at hdone
    simpa [Impl.disconnectDb] using hdone
  | true =>
    rw [hresult] at hdone
    simpa using hdone

/-- **When a write that returns true was applied.** -/
theorem write_true_accepted_iff {c : Option RedisContext}
    (hc : ∀ p ∈ c, Held libc env p) (snap : List (UserSnapshot F)) :
    ((writeUsersRtOnly libc env c snap).2 = true →
      Accepted libc snap c (writeUsersRtOnly libc env c snap).1) ↔
    ∀ p ∈ c, env.Fails p.sent snap.length ∨ ∀ (i : Nat) (hi : i < snap.length),
      env.refuses (p.sent + i) = none ∧ ¬ WrongType p.server.store snap[i].uid := by
  cases c with
  | none => simp [writeUsersRtOnly]
  | some p =>
    obtain ⟨p', ok, heq, hwrite⟩ :=
      writeUsersRtOnly_refines libc env (hc p rfl).drained snap
    simp only [Option.mem_def, Option.some.injEq, forall_eq']
    rw [heq, accepted_iff libc hwrite.taken, hwrite.result]
    exact done_written_iff libc env p.sent p.server.store snap

theorem write_true_accepted_iff_two :
    Accepted intLibc [⟨7, 30, 30, 500, 10, 1⟩, ⟨7, 31, 30, 490, 10, 2⟩]
    (some (connected fun _ => none))
    (writeUsersRtOnly intLibc (.faultless plainRedis) (some (connected fun _ => none))
      [⟨7, 30, 30, 500, 10, 1⟩, ⟨7, 31, 30, 490, 10, 2⟩]).1 := by
  refine (write_true_accepted_iff intLibc (.faultless plainRedis)
    (c := some (connected fun _ => none)) ?_ _).mpr
    ?_ (by decide +kernel)
  · rintro p ⟨rfl⟩
    exact .connected _
  · rintro p ⟨rfl⟩
    exact Or.inr fun i hi => ⟨rfl, by simp [WrongType, connected]⟩

/-- A server that has no memory left for the first command. -/
def outOfMemory : RedisEnv :=
  { RedisEnv.faultless plainRedis with
    refuses := fun n => if n = 0 then some "OOM command not allowed" else none }

/-- The error to the only HSET is freed unread. -/
theorem write_true_accepted_fails :
    ¬ ∀ (env : RedisEnv) (snap : List (UserSnapshot Int)),
      (writeUsersRtOnly intLibc env (some (connected fun _ => none)) snap).2 = true →
        Accepted intLibc snap (some (connected fun _ => none))
          (writeUsersRtOnly intLibc env (some (connected fun _ => none)) snap).1 := by
  intro h
  have happlied := h outOfMemory [⟨7, 30, 30, 500, 10, 1⟩] (by decide +kernel)
  revert happlied
  decide +kernel

/-! ## Reading back -/

/-- What becomes of a fetch from the `n`-th command on, if every reply is
read. -/
def fetchOutcome (env : RedisEnv) (n : Nat) : FetchOutcome where
  service := env.service
  refuses i := env.refuses (n + i)
  replies := true

/-- The replies to the HMGETs of a list, from the `i`-th on. -/
def repliesFrom (o : FetchOutcome) (store : RedisStore) : Nat → List Uid → List Reply
  | _, [] => []
  | i, uid :: uids => o.reply store i uid :: repliesFrom o store (i + 1) uids

/-- The HMGETs of a list that all arrive: the store stays, and every reply
is read. -/
theorem serveAll_hmgetRt {o : FetchOutcome} {n i : Nat} (hservice : o.service = env.service)
    (server : RedisServer) {uids : List Uid}
    (h : ∀ j < uids.length, env.Arrives (n + j) ∧ o.refuses (i + j) = env.refuses (n + j)) :
    (Pipeline.serveAll env.serve n server (uids.map hmgetRt)).1.store = server.store ∧
    (Pipeline.serveAll env.serve n server (uids.map hmgetRt)).2 =
      (repliesFrom o server.store i uids).map some := by
  induction uids generalizing n i server with
  | nil => exact ⟨rfl, rfl⟩
  | cons uid uids ih =>
    rw [List.length_cons, Nat.forall_lt_succ_left] at h
    obtain ⟨⟨⟨hreaches, hanswers⟩, hrefuses⟩, hrest⟩ := h
    have hserve : (env.serve n server (hmgetRt uid)).1.store = server.store ∧
        (env.serve n server (hmgetRt uid)).2 = some (o.reply server.store i uid) := by
      rw [Nat.add_zero] at hreaches hanswers
      rw [Nat.add_zero, Nat.add_zero] at hrefuses
      unfold RedisEnv.serve RedisEnv.execute FetchOutcome.reply
      rw [hrefuses, hservice]
      cases env.refuses n <;> simp [hreaches, hanswers, runCommand, hmgetRt]
    have hnext : ∀ j < uids.length,
        env.Arrives (n + 1 + j) ∧ o.refuses (i + 1 + j) = env.refuses (n + 1 + j) := by
      intro j hj
      rw [Nat.add_right_comm, Nat.add_assoc n, Nat.add_right_comm, Nat.add_assoc i]
      exact hrest j hj
    obtain ⟨hstore, hreplies⟩ := ih (env.serve n server (hmgetRt uid)).1 hnext
    rw [List.map_cons, Pipeline.serveAll]
    simp only [hstore, hreplies, hserve, List.map_cons, repliesFrom, and_self]

/-- Rows pushed one after another, matched to the users by position. -/
theorem foldl_pushRow (o : FetchOutcome) (store : RedisStore) (i : Nat) (uids : List Uid)
    (out : List (UserSnapshot F)) :
    (uids.zip (repliesFrom o store i uids)).foldl
        (fun out x => pushRow out (replyRow libc x.1 (redisVersion store x.1) x.2)) out =
      out ++ fetchFrom libc o store i uids := by
  induction uids generalizing i out with
  | nil => simp [repliesFrom, fetchFrom]
  | cons uid uids ih =>
    rw [repliesFrom, List.zip_cons_cons, List.foldl_cons, ih, fetchFrom, ← List.append_assoc,
      fetchUser]
    cases replyRow libc uid (redisVersion store uid) (o.reply store i uid) <;> simp [pushRow]

/-- **The calls of a fetch** of which none fails come to the fetch as a
whole: the rows of the users that are not refused, matched by position. -/
theorem fetchUsers_refines {c : RedisContext} (hc : c.Drained) {uids : List Uid}
    (hfails : ¬ env.Fails c.sent uids.length) :
    (fetchUsers libc env (some c) uids).2 =
      (Storage.fetchUsers libc (fetchOutcome env c.sent) c.server.store uids, true) := by
  by_cases hnil : uids = []
  · subst hnil
    rfl
  have hempty : uids.isEmpty = false := by simpa using hnil
  have hsent : ∀ i < uids.length,
      env.room (c.sent + i) = true ∧ env.Arrives (c.sent + i) := by
    simpa [RedisEnv.Fails] using hfails
  have happ : (c.appendAll env.room (uids.map hmgetRt)).2 = true := by
    rw [Pipeline.appendAll_snd, hc.obuf, List.length_nil, Nat.add_zero, List.length_map]
    exact fun i hi => (hsent i hi).1
  have hbuf := Pipeline.appendAll_fst happ
  rw [hc.obuf, List.nil_append] at hbuf
  obtain ⟨-, hreplies⟩ := serveAll_hmgetRt env (o := fetchOutcome env c.sent) (i := 0) rfl
    c.server fun i hi => ⟨(hsent i hi).2, by rw [fetchOutcome, Nat.zero_add]⟩
  simp only [fetchUsers, hempty, happ, Bool.not_true, Bool.false_eq_true, if_false, hbuf]
  rw [Pipeline.collect_replies _ _ hc (List.length_map _) hnil hreplies]
  have hrows := foldl_pushRow libc (fetchOutcome env c.sent) c.server.store 0 uids []
  rw [List.nil_append] at hrows
  exact congrArg (·, true) hrows

end Redis

/-! ## The last snapshot -/

/-- A snapshot whose `hp` and `sp` are values of an `int`. -/
structure UserSnapshot.Fits (s : UserSnapshot F) : Prop where
  hp : -2 ^ 31 ≤ s.hp ∧ s.hp < 2 ^ 31
  sp : -2 ^ 31 ≤ s.sp ∧ s.sp < 2 ^ 31

instance (s : UserSnapshot F) : Decidable s.Fits :=
  decidable_of_iff ((-2 ^ 31 ≤ s.hp ∧ s.hp < 2 ^ 31) ∧ -2 ^ 31 ≤ s.sp ∧ s.sp < 2 ^ 31)
    ⟨fun h => ⟨h.1, h.2⟩, fun h => ⟨h.hp, h.sp⟩⟩

/-- A snapshot whose coordinates have been printed and read back. -/
def UserSnapshot.reread (libc : Libc F) (s : UserSnapshot F) : UserSnapshot F :=
  { s with
    x := libc.strtof (libc.printFloat s.x)
    z := libc.strtof (libc.printFloat s.z) }

/-- The integers of a row come back as they were. -/
theorem storedRow_hset_ints (service : RedisService) {store : RedisStore} {s : UserSnapshot F}
    (hs : s.Fits) (h : ¬ WrongType store s.uid) :
    storedRow libc.withInts
      (service.hset store (keyRt s.uid) (rtFields libc.withInts s) s.version).1 s.uid =
      some (s.reread libc) := by
  rw [storedRow_hset libc.withInts service s h]
  simp [Libc.withInts, UserSnapshot.reread, String.toList_ofList, readD_printD hs.hp,
    readD_printD hs.sp]

/-- The newest of two batches. -/
theorem newest_append (a b : List (UserSnapshot F)) (uid : Uid) :
    newest (a ++ b) uid = (newest b uid).or (newest a uid) := by
  unfold newest
  rw [List.filter_append, List.getLast?_append]

/-- The row of a user after a write that fails nowhere. -/
theorem storedRow_writeFrom {o : WriteOutcome} {store : RedisStore} {i : Nat}
    {snap : List (UserSnapshot F)} (hfits : ∀ s ∈ snap, s.Fits)
    (h : ∀ d ∈ (writeFrom libc.withInts o store i snap).2, d.2 = true) (uid : Uid) :
    storedRow libc.withInts (writeFrom libc.withInts o store i snap).1 uid =
      ((newest snap uid).map (UserSnapshot.reread libc)).or
        (storedRow libc.withInts store uid) := by
  induction snap generalizing store i with
  | nil => rfl
  | cons s snap ih =>
    rw [List.forall_mem_cons] at hfits
    rw [writeFrom_cons, List.forall_mem_cons] at h
    obtain ⟨hs, hrest⟩ := h
    have hlands := (writeOne_snd libc.withInts o store i s).mp hs
    have hone := writeOne_fst libc.withInts hlands
    rw [writeFrom_cons, ih hfits.2 hrest, hone, newest_cons]
    cases newest snap uid with
    | some n => rfl
    | none =>
      by_cases huid : s.uid = uid
      · subst huid
        simp [storedRow_hset_ints libc o.service hfits.1 hlands.2.2]
      · simp [huid, storedRow_congr libc.withInts (hset_fst_of_ne o.service (Ne.symm huid) _ _)]

namespace Redis

/-- The rows after a list of writes that fail nowhere. -/
theorem writeBatches_row (service : RedisService) {c : RedisContext} (hc : c.Drained)
    (htype : ∀ uid, ¬ WrongType c.server.store uid) {batches : List (List (UserSnapshot F))}
    (hfits : ∀ snap ∈ batches, ∀ s ∈ snap, s.Fits) :
    ∃ c' : RedisContext,
      writeBatches libc.withInts (.faultless service) (some c) batches = some c' ∧ c'.Drained ∧
      ∀ uid, storedRow libc.withInts c'.server.store uid =
        ((newest batches.flatten uid).map (UserSnapshot.reread libc)).or
          (storedRow libc.withInts c.server.store uid) := by
  induction batches generalizing c with
  | nil => exact ⟨c, rfl, hc, fun _ => rfl⟩
  | cons snap batches ih =>
    rw [List.forall_mem_cons] at hfits
    obtain ⟨c₁, ok, heq, hwrite⟩ :=
      writeUsersRtOnly_refines libc.withInts (.faultless service) hc snap
    have hdone : (Storage.writeUsersRtOnly libc.withInts
        ((RedisEnv.faultless service).outcome c.sent snap.length) c.server.store snap).2.2 =
          true := by
      rw [Storage.writeUsersRtOnly, Bool.or_eq_true, outcome_replies]
      exact Or.inr (not_fails_faultless _ _ _)
    have hwritten := (done_written_iff libc.withInts (.faultless service) c.sent
      c.server.store snap).mpr (Or.inr fun i hi => ⟨rfl, htype _⟩) hdone
    have htype₁ : ∀ uid, ¬ WrongType c₁.server.store uid := by
      intro uid
      rw [hwrite.store, Storage.writeUsersRtOnly, wrongType_writeFrom]
      exact htype uid
    obtain ⟨c', hrest, hdrained, hrows⟩ :=
      ih (hwrite.drained (hwrite.result.trans hdone)) htype₁ hfits.2
    refine ⟨c', ?_, hdrained, fun uid => ?_⟩
    · rw [writeBatches, List.foldl_cons, heq]
      exact hrest
    · rw [hrows uid, hwrite.store, List.flatten_cons, newest_append, Option.map_or, Option.or_assoc]
      exact congrArg _ (storedRow_writeFrom libc hfits.1 hwritten uid)

/-- **Write, then fetch.** On a connection on which nothing fails, to a
Redis that has no complete row yet, a fetch after any writes returns the
last snapshot of every user of the list that was ever written. -/
theorem fetchUsers_last_written (service : RedisService) {store : RedisStore}
    (hrows : ∀ uid, ¬ WrongType store uid ∧ ¬ Complete store uid)
    {batches : List (List (UserSnapshot F))} (hfits : ∀ snap ∈ batches, ∀ s ∈ snap, s.Fits)
    (uids : List Uid) :
    (fetchUsers libc.withInts (.faultless service)
      (writeBatches libc.withInts (.faultless service) (some (connected store)) batches)
        uids).2 =
    (uids.filterMap fun uid => (newest batches.flatten uid).map (UserSnapshot.reread libc),
      true) := by
  have hnew : (connected store).Drained := ⟨rfl, rfl⟩
  obtain ⟨c, hwrites, hdrained, hc⟩ :=
    writeBatches_row libc service hnew (fun uid => (hrows uid).1) hfits
  have hnone : ∀ uid, storedRow libc.withInts store uid = none := by
    intro uid
    rw [← Option.not_isSome_iff_eq_none, storedRow_isSome]
    exact (hrows uid).2
  rw [hwrites, fetchUsers_refines libc.withInts (.faultless service) hdrained
    (not_fails_faultless _ _ _), fetchUsers_unrefused _ _ fun _ => rfl]
  refine congrArg (·, true) (List.filterMap_congr fun uid _ => ?_)
  rw [hc uid]
  exact (congrArg _ (hnone uid)).trans Option.or_none

/-- Numbers printed as `%f` does, and read back. -/
def rationalLibc : Libc ℚ where
  printFloat q := String.ofList (printF 6 q)
  printInt := toString
  strtof str := readDecimal str.toList
  atoi str := (readDecimal str.toList).floor
  floatOfInt n := n

theorem fetchUsers_last_written_two :
    (fetchUsers rationalLibc.withInts (.faultless plainRedis)
      (writeBatches rationalLibc.withInts (.faultless plainRedis) (some (connected fun _ => none))
        [[⟨7, 1 / 3, 40, 500, 10, 1⟩, ⟨8, 1, 2, 0, 0, 1⟩, ⟨7, -1 / 3, 40, -5, 2 ^ 31 - 1, 2⟩], [],
          [⟨8, 1 / 2, -2, -2 ^ 31, 3, 2⟩]]) [8, 9, 7, 8]).2 =
    ([⟨8, 1 / 2, -2, -2 ^ 31, 3, 2⟩, ⟨7, -333333 / 1000000, 40, -5, 2 ^ 31 - 1, 2⟩,
      ⟨8, 1 / 2, -2, -2 ^ 31, 3, 2⟩], true) := by
  have hempty : ∀ uid, ¬ WrongType (fun _ => none) uid ∧ ¬ Complete (fun _ => none) uid := by
    simp [WrongType, Complete]
  rw [fetchUsers_last_written rationalLibc plainRedis hempty (by decide +kernel)]
  decide +kernel

end Redis

end MmorpgServer.Storage
