/-
MmorpgServer.Storage.ConnectionsTheorems — the connections of the database
worker are used as they may be, whatever fails.

A pipeline on a context without unread replies appends behind its own
commands only and reads each reply for the user it belongs to. It leaves
no reply unread when it succeeds (`pipeline_spec`), and every exit after
one that failed gives the context up, so `Clean` holds between any two
helpers. `impl_job` takes the jobs of `Storage.StorageSystem` to those
here.
-/
import MmorpgServer.Storage.Connections
import MmorpgServer.Storage.StorageSystemTheorems

namespace MmorpgServer.Storage

open MmorpgServer.Lib

/-- A call as it should be: on a handle that is there, behind replies of
the same pipeline only, and a reply for the one who reads it. -/
def Call.Ok : Call → Prop
  | .writeUsersRtOnly c => c.isSome
  | .fetchUsers c => c.isSome
  | .appendCommand c cmd => ∀ x ∈ c.unread, x.pipeline = cmd.pipeline
  | .getReply wanted got => got = some wanted
  | .callSpUpsertUserStateBatch mysql => mysql
  | .mysqlError mysql => mysql

/-! ## One pipeline -/

namespace RedisContext

/-- Appending fails, or the commands are the unread ones, in order. -/
theorem appendCommands_spec (o : PipelineOutcome) {n : Nat} {cmds : List Command}
    (hcmds : ∀ cmd ∈ cmds, cmd.pipeline = n) (i : Nat) {c : RedisContext}
    (hc : ∀ x ∈ c.unread, x.pipeline = n) :
    (∀ call ∈ (c.appendCommands o i cmds).2.1, call.Ok) ∧
      ((c.appendCommands o i cmds).2.2 = true →
        (c.appendCommands o i cmds).1.unread = c.unread ++ cmds) := by
  induction cmds generalizing i c with
  | nil => simp [appendCommands]
  | cons cmd cmds ih =>
    rw [List.forall_mem_cons] at hcmds
    have hok : (Call.appendCommand c cmd).Ok := by
      intro x hx
      rw [hc x hx, hcmds.1]
    unfold appendCommands
    cases ho : o.append i with
    | false => simpa using hok
    | true =>
      have hnext : ∀ x ∈ c.unread ++ [cmd], x.pipeline = n := by
        intro x hx
        rcases List.mem_append.mp hx with hx | hx
        · exact hc x hx
        · rw [List.mem_singleton.mp hx, hcmds.1]
      obtain ⟨hcalls, hunread⟩ := ih hcmds.2 (i + 1) (c := { unread := c.unread ++ [cmd] }) hnext
      simp only [Bool.not_true, Bool.false_eq_true, if_false, List.forall_mem_cons]
      refine ⟨⟨hok, hcalls⟩, fun hall => ?_⟩
      rw [hunread hall, List.append_assoc, List.singleton_append]

/-- Each reply read is the one wanted; reading all leaves none unread. -/
theorem getReplies_spec (o : PipelineOutcome) (cmds : List Command) (i : Nat) :
    (∀ call ∈ (getReplies o i { unread := cmds } cmds).2.1, call.Ok) ∧
      ((getReplies o i { unread := cmds } cmds).2.2 = true →
        (getReplies o i { unread := cmds } cmds).1.unread = []) := by
  induction cmds generalizing i with
  | nil => simp [getReplies]
  | cons cmd cmds ih =>
    unfold getReplies
    cases ho : o.reply i with
    | false => simp
    | true =>
      obtain ⟨hcalls, hunread⟩ := ih (i + 1)
      simp only [Bool.not_true, Bool.false_eq_true, if_false, List.forall_mem_cons]
      exact ⟨⟨rfl, hcalls⟩, hunread⟩

/-- **One pipeline** on a context without unread replies. -/
theorem pipeline_spec (o : PipelineOutcome) {n : Nat} {cmds : List Command}
    (hcmds : ∀ cmd ∈ cmds, cmd.pipeline = n) {c : RedisContext} (hc : c.unread = []) :
    (∀ call ∈ (c.pipeline o cmds).2.1, call.Ok) ∧
      ((c.pipeline o cmds).2.2 = true → (c.pipeline o cmds).1.unread = []) := by
  obtain ⟨hcalls, hunread⟩ := appendCommands_spec o hcmds 0 (c := c) (by simp [hc])
  unfold pipeline
  cases ha : (c.appendCommands o 0 cmds).2.2 with
  | false => simpa [ha] using hcalls
  | true =>
    have hall : (c.appendCommands o 0 cmds).1 = { unread := cmds } := by
      refine RedisContext.ext ?_
      rw [hunread ha, hc, List.nil_append]
    obtain ⟨hread, hnone⟩ := getReplies_spec o cmds 0
    simp only [ha, Bool.not_true, Bool.false_eq_true, if_false, hall]
    refine ⟨fun call hcall => ?_, hnone⟩
    rcases List.mem_append.mp hcall with hcall | hcall
    · exact hcalls call hcall
    · exact hread call hcall

end RedisContext

/-! ## One job -/

namespace Connections

/-- Both connections or none, no reply unread, and every call so far as it
should be. -/
structure Clean (c : Connections) : Prop where
  both : c.redisCtx.isSome = c.mysql
  read : ∀ ctx, c.redisCtx = some ctx → ctx.unread = []
  calls : ∀ call ∈ c.calls, call.Ok

/-- Every exit that gives the connections up is clean. -/
theorem clean_disconnectDb {c : Connections} (h : ∀ call ∈ c.calls, call.Ok) :
    c.disconnectDb.Clean := by
  constructor
  · rfl
  · simp [disconnectDb]
  · exact h

theorem Clean.record {c : Connections} (h : c.Clean) (call : Call) (hcall : call.Ok) :
    (c.record call).Clean := by
  refine ⟨h.both, h.read, fun x hx => ?_⟩
  rcases List.mem_append.mp hx with hx | hx
  · exact h.calls x hx
  · rw [List.mem_singleton.mp hx]
    exact hcall

/-- An error on MySQL: it is reported, and both connections are given
up. -/
theorem Clean.mysqlError {c : Connections} (h : c.Clean) (hmysql : c.mysql = true) :
    (c.record (.mysqlError c.mysql)).disconnectDb.Clean :=
  clean_disconnectDb (h.record (.mysqlError c.mysql) hmysql).calls

theorem Clean.connectDb {c : Connections} (h : c.Clean) (o : ConnectOutcomes) :
    (c.connectDb o).Clean := by
  unfold Connections.connectDb
  split
  · exact h
  · rename_i hnot
    have hmysql : c.mysql = false := by
      have hboth := h.both
      cases hm : c.mysql <;> simp_all
    cases o.redis with
    | null | err => exact ⟨by simp [hmysql], by simp, h.calls⟩
    | ok =>
      -- from here on the context is new
      simp only
      split
      · exact clean_disconnectDb h.calls
      · have hnew : ({ c with redisCtx := some {}, mysql := true } : Connections).Clean :=
          ⟨rfl, by simp, h.calls⟩
        split
        · exact hnew.mysqlError rfl
        · exact hnew

/-- With `true`, both connections are there. -/
theorem Clean.ensureConnected {c : Connections} (h : c.Clean) (o : ConnectOutcomes) :
    (c.ensureConnected o).1.Clean ∧
      ((c.ensureConnected o).2 = true →
        (c.ensureConnected o).1.redisCtx.isSome ∧ (c.ensureConnected o).1.mysql = true) := by
  unfold Connections.ensureConnected
  split
  · rename_i hboth
    exact ⟨h, fun _ => by simpa using hboth⟩
  · exact ⟨(clean_disconnectDb h.calls).connectDb o, by simp⟩

/-- A pipeline keeps the connections, and is clean when it succeeds. -/
theorem Clean.runPipeline {c : Connections} (h : c.Clean) (o : PipelineOutcome)
    (uids : List Uid) :
    (∀ call ∈ (c.runPipeline o uids).1.calls, call.Ok) ∧
      (c.runPipeline o uids).1.mysql = c.mysql ∧
      ((c.runPipeline o uids).2 = true → (c.runPipeline o uids).1.Clean) := by
  unfold Connections.runPipeline
  cases hctx : c.redisCtx with
  | none => exact ⟨h.calls, rfl, fun _ => h⟩
  | some ctx =>
    cases uids with
    | nil => exact ⟨h.calls, rfl, fun _ => h⟩
    | cons uid uids =>
      have hcmds : ∀ cmd ∈ (uid :: uids).map
          fun uid => ({ pipeline := c.pipelines, uid } : Command),
          cmd.pipeline = c.pipelines := by
        intro cmd hcmd
        obtain ⟨u, -, rfl⟩ := List.mem_map.mp hcmd
        rfl
      obtain ⟨hcalls, hread⟩ := RedisContext.pipeline_spec o hcmds (h.read ctx hctx)
      have hboth := h.both
      rw [hctx] at hboth
      have hlog : ∀ call ∈ c.calls ++ (ctx.pipeline o ((uid :: uids).map fun uid =>
          ({ pipeline := c.pipelines, uid } : Command))).2.1, call.Ok := by
        intro call hcall
        rcases List.mem_append.mp hcall with hcall | hcall
        · exact h.calls call hcall
        · exact hcalls call hcall
      refine ⟨hlog, rfl, fun hok => ⟨hboth, ?_, hlog⟩⟩
      rintro _ ⟨rfl⟩
      exact hread hok

theorem Clean.flushRtWrites {c : Connections} (h : c.Clean) (o : PipelineOutcome)
    (rt : List Uid) : (c.flushRtWrites o rt).Clean := by
  unfold Connections.flushRtWrites Connections.writeUsersRtOnly
  split
  · exact h
  · split
    · exact h
    · rename_i hsome
      have hcall : (Call.writeUsersRtOnly c.redisCtx).Ok := by
        cases hctx : c.redisCtx with
        | none => simp [hctx] at hsome
        | some ctx => rfl
      obtain ⟨hcalls, -, hclean⟩ := (h.record _ hcall).runPipeline o rt
      simp only
      split
      · exact clean_disconnectDb hcalls
      · rename_i hok
        exact hclean (by simpa using hok)

theorem Clean.handleDbJob {c : Connections} (h : c.Clean) (o : JobOutcomes) (rt uids : List Uid) :
    (c.handleDbJob o rt uids).Clean := by
  unfold Connections.handleDbJob
  have hflushed := (h.ensureConnected o.connect).1.flushRtWrites o.write rt
  obtain ⟨hconnected, hboth⟩ := hflushed.ensureConnected o.reconnect
  simp only
  split
  · exact (h.ensureConnected o.connect).1
  · split
    · exact hconnected
    · rename_i hok
      obtain ⟨hredis, hmysql⟩ := hboth (by simpa using hok)
      split
      · exact hconnected
      · have hcall : (Call.fetchUsers
            (((c.ensureConnected o.connect).1.flushRtWrites o.write rt).ensureConnected
              o.reconnect).1.redisCtx).Ok := hredis
        obtain ⟨hcalls, hkeeps, hclean⟩ := (hconnected.record _ hcall).runPipeline o.fetch uids
        unfold Connections.fetchUsers
        simp only
        split
        · exact clean_disconnectDb hcalls
        · rename_i hfetched
          have hfetch := hclean (by simpa using hfetched)
          split
          · exact hfetch
          · have hthere := hkeeps.trans hmysql
            have hsp := hfetch.record (.callSpUpsertUserStateBatch _) hthere
            split
            · exact hsp.mysqlError hthere
            · exact hsp

/-! ## Sequences of calls -/

theorem clean_run {l : List (Connections × ConnectionAction)} {c : Connections}
    (r : Run connectionSystem l c) : c.Clean := by
  refine r.invariant (I := Clean) ?_ ?_
  · rintro c rfl
    exact ⟨rfl, by simp, by simp⟩
  · rintro c a _ h ⟨-, rfl⟩
    cases a with
    | connectDb o => exact h.connectDb o
    | handleDbJob o rt uids => exact h.handleDbJob o rt uids
    | disconnectDb => exact clean_disconnectDb h.calls

/-- **Connection discipline.** After any sequence of calls with any
outcomes, both connections are set or none; the helpers and `mysql_error`
were only called with handles that are set; and no command was appended
behind the reply of an earlier pipeline, so every reply read was the reply
to the command of the user it was read for. -/
theorem connections_disciplined {l : List (Connections × ConnectionAction)} {c : Connections}
    (r : Run connectionSystem l c) :
    c.redisCtx.isSome = c.mysql ∧
      (∀ x, .writeUsersRtOnly x ∈ c.calls → x.isSome) ∧
      (∀ x, .fetchUsers x ∈ c.calls → x.isSome) ∧
      (∀ x, .callSpUpsertUserStateBatch x ∈ c.calls → x = true) ∧
      (∀ x, .mysqlError x ∈ c.calls → x = true) ∧
      (∀ ctx cmd, .appendCommand ctx cmd ∈ c.calls →
        ∀ x ∈ ctx.unread, x.pipeline = cmd.pipeline) ∧
      ∀ wanted got, .getReply wanted got ∈ c.calls → got = some wanted := by
  obtain ⟨hboth, -, hcalls⟩ := clean_run r
  exact ⟨hboth, fun x hx => hcalls _ hx, fun x hx => hcalls _ hx, fun x hx => hcalls _ hx,
    fun x hx => hcalls _ hx, fun ctx cmd hx => hcalls _ hx, fun wanted got hx => hcalls _ hx⟩

/-- A job whose SP call fails, one that reconnects and fetches, and one
whose second reply is lost. -/
theorem connections_disciplined_reconnect :
    ∃ (l : List (Connections × ConnectionAction)) (c : Connections),
      Run connectionSystem l c ∧ c.calls.length = 13 ∧ c.redisCtx = none ∧
        ∀ wanted got, .getReply wanted got ∈ c.calls → got = some wanted := by
  let up : ConnectOutcomes := { redis := .ok, mysqlInit := true, mysqlConnect := true }
  let fine : PipelineOutcome := { append := fun _ => true, reply := fun _ => true,
                                  parses := fun _ => true }
  let lost : PipelineOutcome := { fine with reply := fun i => i == 0 }
  let job (fetch : PipelineOutcome) (sp : Bool) : JobOutcomes :=
    { connect := up, write := fine, reconnect := up, fetch, sp }
  have r : Run connectionSystem [] {} := .start rfl
  have r := r.next (.connectDb up) ⟨trivial, rfl⟩
  have r := r.next (.handleDbJob (job fine false) [] [7]) ⟨trivial, rfl⟩
  have r := r.next (.handleDbJob (job fine true) [] [7]) ⟨trivial, rfl⟩
  have r := r.next (.handleDbJob (job lost true) [] [7, 8]) ⟨trivial, rfl⟩
  exact ⟨_, _, r, by decide, rfl, (connections_disciplined r).2.2.2.2.2.2⟩

/-! ## The jobs of `Storage.StorageSystem` -/

variable {F : Type}

/-- The same connections are there. -/
def Matches (c : Connections) (s : Impl F) : Prop :=
  c.redisCtx.isSome = s.redisCtx ∧ c.mysql = s.mysql

/-- The calls of a `connect_db` of which is known how far it gets. -/
def connectCalls (o : Impl.ConnectOutcome) : ConnectOutcomes where
  redis := if o.redisConnect then .ok else .null
  mysqlInit := o.mysqlInit
  mysqlConnect := o.mysqlConnect

/-- A pipeline of which is known whether its replies arrive. -/
def pipelineCalls (replies : Bool) (parses : Nat → Bool) : PipelineOutcome where
  append _ := true
  reply _ := replies
  parses := parses

theorem Matches.disconnectDb {c : Connections} {s : Impl F} :
    c.disconnectDb.Matches s.disconnectDb :=
  ⟨rfl, rfl⟩

theorem Matches.connectDb {c : Connections} {s : Impl F} (h : c.Matches s)
    (o : Impl.ConnectOutcome) : (c.connectDb (connectCalls o)).Matches (s.connectDb o) := by
  obtain ⟨hredis, hmysql⟩ := h
  unfold Connections.connectDb Impl.connectDb connectCalls
  rw [← hredis, ← hmysql]
  split
  · exact ⟨hredis, hmysql⟩
  · cases o.redisConnect with
    | false => exact ⟨rfl, rfl⟩
    | true => cases o.mysqlInit <;> cases o.mysqlConnect <;> exact ⟨rfl, rfl⟩

theorem Matches.ensureConnected {c : Connections} {s : Impl F} (h : c.Matches s)
    (o : Impl.ConnectOutcome) :
    (c.ensureConnected (connectCalls o)).1.Matches (s.ensureConnected o).1 ∧
      (c.ensureConnected (connectCalls o)).2 = (s.ensureConnected o).2 := by
  have hnew := Matches.connectDb (Matches.disconnectDb (c := c) (s := s)) o
  unfold Connections.ensureConnected Impl.ensureConnected
  rw [← h.1, ← h.2]
  split
  · exact ⟨h, rfl⟩
  · refine ⟨hnew, ?_⟩
    simp only
    rw [hnew.1, hnew.2]

/-- A pipeline whose commands are all appended succeeds if its replies
arrive. -/
theorem pipeline_calls (replies : Bool) (parses : Nat → Bool) (ctx : RedisContext)
    {cmds : List Command} (hcmds : cmds ≠ []) :
    (ctx.pipeline (pipelineCalls replies parses) cmds).2.2 = replies := by
  have happend (i : Nat) (ctx : RedisContext) (cmds : List Command) :
      (ctx.appendCommands (pipelineCalls replies parses) i cmds).2.2 = true := by
    induction cmds generalizing i ctx with
    | nil => rfl
    | cons cmd cmds ih => simpa [RedisContext.appendCommands, pipelineCalls] using ih _ _
  have hreply (i : Nat) (ctx : RedisContext) (cmds : List Command) :
      (ctx.getReplies (pipelineCalls true parses) i cmds).2.2 = true := by
    induction cmds generalizing i ctx with
    | nil => rfl
    | cons cmd cmds ih => simpa [RedisContext.getReplies, pipelineCalls] using ih _ _
  unfold RedisContext.pipeline
  simp only [happend, Bool.not_true, Bool.false_eq_true, if_false]
  cases replies with
  | true => exact hreply _ _ _
  | false =>
    cases cmds with
    | nil => exact absurd rfl hcmds
    | cons cmd cmds => simp [RedisContext.getReplies, pipelineCalls]

/-- A helper called with a context: the connections stay, and it succeeds
if the replies arrive. -/
theorem runPipeline_calls {c : Connections} (hctx : c.redisCtx.isSome) (replies : Bool)
    (parses : Nat → Bool) {uids : List Uid} (huids : uids ≠ []) :
    (c.runPipeline (pipelineCalls replies parses) uids).1.redisCtx.isSome ∧
      (c.runPipeline (pipelineCalls replies parses) uids).1.mysql = c.mysql ∧
      (c.runPipeline (pipelineCalls replies parses) uids).2 = replies := by
  unfold Connections.runPipeline
  obtain ⟨ctx, hctx⟩ := Option.isSome_iff_exists.mp hctx
  have hcmds : (uids.map fun uid => ({ pipeline := c.pipelines, uid } : Command)) ≠ [] := by
    simpa using huids
  have hok := pipeline_calls replies parses ctx hcmds
  simp [hctx, huids, hok]

theorem Matches.flushRtWrites {c : Connections} {s : Impl F} (h : c.Matches s) (libc : Libc F)
    (o : WriteOutcome) :
    (c.flushRtWrites (pipelineCalls o.replies fun _ => true) (s.rtQ.map UserSnapshot.uid)).Matches
      (s.flushRtWrites libc o).1 := by
  unfold Connections.flushRtWrites Impl.flushRtWrites Connections.writeUsersRtOnly
  by_cases hempty : s.rtQ = []
  · simp only [hempty, List.map_nil, List.isEmpty_nil, if_true]
    exact h
  · have hctx := h.1
    have huids : s.rtQ.map UserSnapshot.uid ≠ [] := by simpa using hempty
    cases hredis : s.redisCtx with
    | false => simp_all [Matches, Impl.flushSwap, Impl.flushSubtract]
    | true =>
      rw [hredis] at hctx
      obtain ⟨hsome, hmysql, hok⟩ := runPipeline_calls
        (c := c.record (.writeUsersRtOnly c.redisCtx)) hctx o.replies (fun _ => true) huids
      have hresult : (Storage.writeUsersRtOnly libc o s.redis s.rtQ).2.2 = o.replies := by
        simp [Storage.writeUsersRtOnly, hempty]
      have hnone : c.redisCtx.isNone = false := by simp [hctx]
      simp only [List.isEmpty_iff, huids, hempty, hnone, hok, if_false, Bool.false_eq_true]
      cases hreplies : o.replies <;>
        simp_all [Matches, Impl.flushSwap, Impl.flushSubtract, record, Impl.disconnectDb,
          Connections.disconnectDb]

/-- A user is left for the procedure if its reply parses. -/
theorem parses_isEmpty (libc : Libc F) (o : FetchOutcome) (store : RedisStore)
    (uids : List Uid) :
    ((uids.zipIdx.filter fun x =>
        ((uids[x.2]?).bind (fetchUser libc o store x.2)).isSome).map Prod.fst).isEmpty =
      (Storage.fetchUsers libc o store uids).isEmpty := by
  rw [Bool.eq_iff_iff]
  simp only [List.isEmpty_iff, List.map_eq_nil_iff, List.filter_eq_nil_iff,
    List.eq_nil_iff_forall_not_mem (l := Storage.fetchUsers libc o store uids),
    mem_fetchUsers_iff]
  constructor
  · rintro hnone r ⟨i, hi, hrefuses, hrow⟩
    have h := hnone (uids[i], i) (by simp [List.mem_zipIdx_iff_getElem?, hi])
    simp [hi, fetchUser_eq, hrefuses, hrow] at h
  · rintro hnone ⟨uid, i⟩ hx hsome
    rw [List.mem_zipIdx_iff_getElem?] at hx
    simp only at hx hsome
    obtain ⟨hi, rfl⟩ := List.getElem?_eq_some_iff.mp hx
    simp only [hx, Option.bind_some, fetchUser_eq] at hsome
    cases hrefuses : o.refuses i with
    | some msg => simp [hrefuses] at hsome
    | none =>
      rw [hrefuses] at hsome
      obtain ⟨r, hr⟩ := Option.isSome_iff_exists.mp hsome
      exact hnone r ⟨i, hi, hrefuses, hr⟩

/-- The half of a job behind `flush_rt_writes`, with both connections. -/
def fetchAndUpsert (o : PipelineOutcome) (sp : Bool) (uids : List Uid) (c : Connections) :
    Connections :=
  let f := c.fetchUsers o uids
  if !f.2.1 then f.1.disconnectDb
  else if f.2.2.isEmpty then f.1
  else
    let c := f.1.record (.callSpUpsertUserStateBatch f.1.mysql)
    if !sp then (c.record (.mysqlError c.mysql)).disconnectDb else c

theorem Matches.fetchAndUpsert {c : Connections} {s : Impl F} (h : c.Matches s) (libc : Libc F)
    (sp : UserTable F → List (UserSnapshot F) → UserTable F) (o : Impl.Outcomes)
    (hctx : s.redisCtx = true) {uids : List Uid} (huids : uids ≠ []) (r : Impl.Report F) :
    (c.fetchAndUpsert (pipelineCalls o.fetch.replies fun i =>
        ((uids[i]?).bind (fetchUser libc o.fetch s.redis i)).isSome) (o.sp = .ok) uids).Matches
      (if !o.fetch.replies then (s.disconnectDb, r)
      else
        let s := { s with snap := Storage.fetchUsers libc o.fetch s.redis uids }
        if s.snap.isEmpty then (s, r)
        else
          let u := Impl.callSpUpsertUserStateBatch sp o.sp s.table s.snap
          let s := { s with table := u.1 }
          (if !u.2.2 then s.disconnectDb else s, { r with upserted := u.2.1 })).1 := by
  have hsome : (c.record (.fetchUsers c.redisCtx)).redisCtx.isSome := h.1.trans hctx
  obtain ⟨hredis, hmysql, hok⟩ := runPipeline_calls hsome o.fetch.replies
    (fun i => ((uids[i]?).bind (fetchUser libc o.fetch s.redis i)).isSome) huids
  have hempty := parses_isEmpty libc o.fetch s.redis uids
  unfold Connections.fetchAndUpsert Connections.fetchUsers
  simp only [hok]
  cases hreplies : o.fetch.replies with
  | false => exact ⟨rfl, rfl⟩
  | true =>
    rw [hreplies] at hredis hmysql
    have hstay : (runPipeline (pipelineCalls true fun i =>
        ((uids[i]?).bind (fetchUser libc o.fetch s.redis i)).isSome) uids
        (c.record (.fetchUsers c.redisCtx))).1.Matches s :=
      ⟨hredis.trans hctx.symm, hmysql.trans h.2⟩
    simp only [pipelineCalls, Bool.not_true, Bool.false_eq_true, if_false, hempty] at hstay ⊢
    split
    · exact hstay
    · cases o.sp with
      | notRun | answerLost => exact ⟨rfl, rfl⟩
      | ok => exact hstay

/-- **The jobs of `Storage.StorageSystem` are jobs here.** Whatever becomes
of one there, its calls can go so that the same connections are left. -/
theorem impl_job {c : Connections} {s : Impl F} (h : c.Matches s) (libc : Libc F)
    (sp : UserTable F → List (UserSnapshot F) → UserTable F) (o : Impl.Outcomes) (job : DbJob) :
    ∃ o', (c.handleDbJob o' (s.rtQ.map UserSnapshot.uid) job.uids).Matches
      (s.handleDbJob libc sp o job).1 := by
  obtain ⟨hfirst, hok⟩ := h.ensureConnected o.connect
  have hrtQ : (s.ensureConnected o.connect).1.rtQ = s.rtQ := by
    obtain ⟨⟨r, m, he⟩, -⟩ := Impl.ensureConnected_spec o.connect s
    rw [he]
  have hflush := hfirst.flushRtWrites libc o.write
  rw [hrtQ] at hflush
  obtain ⟨hsecond, hok'⟩ := hflush.ensureConnected o.reconnect
  have hup := (Impl.ensureConnected_spec o.reconnect
    ((s.ensureConnected o.connect).1.flushRtWrites libc o.write).1).2.2
  generalize hs' : ((s.ensureConnected o.connect).1.flushRtWrites libc o.write).1.ensureConnected
    o.reconnect = s' at hsecond hok' hup
  refine ⟨{ connect := connectCalls o.connect
            write := pipelineCalls o.write.replies fun _ => true
            reconnect := connectCalls o.reconnect
            fetch := pipelineCalls o.fetch.replies fun i =>
              ((job.uids[i]?).bind (fetchUser libc o.fetch s'.1.redis i)).isSome
            sp := o.sp = .ok }, ?_⟩
  unfold Connections.handleDbJob Impl.handleDbJob
  simp only [hok, hok', hs']
  split
  · exact hfirst
  · split
    · exact hsecond
    · rename_i hthere
      split
      · exact hsecond
      · rename_i huids
        have hctx : s'.1.redisCtx = true := (hup (by simpa using hthere)).1
        exact hsecond.fetchAndUpsert libc sp o hctx (by simpa using huids) _

end Connections

end MmorpgServer.Storage
