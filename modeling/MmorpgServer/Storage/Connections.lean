/-
MmorpgServer.Storage.Connections — the connections of the database worker
and the calls made on them, `storage/StorageSystem.cpp` and
`storage/redis/redisUserCache.cpp`.

`Storage.StorageSystem` knows of a connection whether it is there and of a
pipeline whether it fails. Here a Redis context holds the commands whose
replies have not been read, each with the number of the pipeline that
appended it, every append and every reply of a pipeline fails or succeeds
for itself, and the calls are recorded in the order they are made. What
the rows say is left out: a reply is known by the command it answers.

hiredis hands out the replies of a context in the order of its commands.
-/
import MmorpgServer.Lib.TransitionSystem
import MmorpgServer.Storage.StorageSystem

namespace MmorpgServer.Storage

open MmorpgServer.Lib

/-! ## Redis contexts -/

/-- A command: its user, and the pipeline it belongs to. -/
structure Command where
  pipeline : Nat
  uid : Uid
  deriving DecidableEq, Repr

/-- `redisContext`: the commands without a reply yet, oldest first. -/
@[ext] structure RedisContext where
  unread : List Command := []
  deriving DecidableEq, Repr

/-- A call, with what it is given. -/
inductive Call where
  | writeUsersRtOnly (c : Option RedisContext)
  | fetchUsers (c : Option RedisContext)
  | appendCommand (c : RedisContext) (cmd : Command)
  /-- the reply wanted, and the command that the reply read answers -/
  | getReply (wanted : Command) (got : Option Command)
  | callSpUpsertUserStateBatch (mysql : Bool)
  | mysqlError (mysql : Bool)
  deriving DecidableEq, Repr

/-- What becomes of each call of a pipeline, by its place, and whether
each reply parses. -/
structure PipelineOutcome where
  append : Nat → Bool
  reply : Nat → Bool
  parses : Nat → Bool

namespace RedisContext

/-- The `redisAppendCommand` loop from the `i`-th command on: the context,
the calls, and whether all of them succeed. -/
def appendCommands (o : PipelineOutcome) :
    Nat → RedisContext → List Command → RedisContext × List Call × Bool
  | _, c, [] => (c, [], true)
  | i, c, cmd :: cmds =>
    if !o.append i then (c, [.appendCommand c cmd], false)
    else
      let r := appendCommands o (i + 1) { unread := c.unread ++ [cmd] } cmds
      (r.1, .appendCommand c cmd :: r.2.1, r.2.2)

/-- The `redisGetReply` loop from the `i`-th reply on. -/
def getReplies (o : PipelineOutcome) :
    Nat → RedisContext → List Command → RedisContext × List Call × Bool
  | _, c, [] => (c, [], true)
  | i, c, cmd :: cmds =>
    if !o.reply i then (c, [], false)
    else
      let r := getReplies o (i + 1) { unread := c.unread.tail } cmds
      (r.1, .getReply cmd c.unread.head? :: r.2.1, r.2.2)

/-- All commands are appended, then all replies read. -/
def pipeline (o : PipelineOutcome) (c : RedisContext) (cmds : List Command) :
    RedisContext × List Call × Bool :=
  let a := c.appendCommands o 0 cmds
  if !a.2.2 then a
  else
    let g := a.1.getReplies o 0 cmds
    (g.1, a.2.1 ++ g.2.1, g.2.2)

end RedisContext

/-! ## The connections -/

/-- What becomes of `redisConnectWithTimeout`. -/
inductive RedisConnect where
  | null
  /-- a context whose `err` is set -/
  | err
  | ok
  deriving DecidableEq, Repr

/-- What becomes of one `connect_db`, call by call. -/
structure ConnectOutcomes where
  redis : RedisConnect
  mysqlInit : Bool
  mysqlConnect : Bool

/-- What becomes of each call of one `handle_db_job`. -/
structure JobOutcomes where
  connect : ConnectOutcomes
  write : PipelineOutcome
  reconnect : ConnectOutcomes
  fetch : PipelineOutcome
  sp : Bool

/-- The connections of `StorageSystem::Impl`. The pipelines are counted
and the calls recorded, oldest first, which the program does not do. -/
structure Connections where
  redisCtx : Option RedisContext := none
  mysql : Bool := false
  pipelines : Nat := 0
  calls : List Call := []

namespace Connections

/-- A call is made. -/
def record (c : Connections) (call : Call) : Connections := { c with calls := c.calls ++ [call] }

/-- `disconnect_db`. -/
def disconnectDb (c : Connections) : Connections := { c with redisCtx := none, mysql := false }

/-- `connect_db`. -/
def connectDb (o : ConnectOutcomes) (c : Connections) : Connections :=
  if c.redisCtx.isSome && c.mysql then c
  else
    match o.redis with
    | .null | .err => { c with redisCtx := none }
    | .ok =>
      let c := { c with redisCtx := some {} }
      if !o.mysqlInit then { c with mysql := false }.disconnectDb
      else
        let c := { c with mysql := true }
        if !o.mysqlConnect then (c.record (.mysqlError c.mysql)).disconnectDb else c

/-- `ensure_connected`. -/
def ensureConnected (o : ConnectOutcomes) (c : Connections) : Connections × Bool :=
  if c.redisCtx.isSome && c.mysql then (c, true)
  else
    let c := c.disconnectDb.connectDb o
    (c, c.redisCtx.isSome && c.mysql)

/-- The pipeline of `WriteUsersRtOnly` and `FetchUsers`: one command for
each user. -/
def runPipeline (o : PipelineOutcome) (uids : List Uid) (c : Connections) : Connections × Bool :=
  match c.redisCtx with
  | none => (c, false)
  | some ctx =>
    if uids.isEmpty then (c, true)
    else
      let r := ctx.pipeline o (uids.map fun uid => { pipeline := c.pipelines, uid })
      ({ c with
          redisCtx := some r.1
          pipelines := c.pipelines + 1
          calls := c.calls ++ r.2.1 },
        r.2.2)

/-- `WriteUsersRtOnly`, called with `redis_ctx`. -/
def writeUsersRtOnly (o : PipelineOutcome) (uids : List Uid) (c : Connections) :
    Connections × Bool :=
  (c.record (.writeUsersRtOnly c.redisCtx)).runPipeline o uids

/-- `FetchUsers`, called with `redis_ctx`: the result, and the users left
in `snap`. -/
def fetchUsers (o : PipelineOutcome) (uids : List Uid) (c : Connections) :
    Connections × Bool × List Uid :=
  let r := (c.record (.fetchUsers c.redisCtx)).runPipeline o uids
  (r.1, r.2, (uids.zipIdx.filter fun x => o.parses x.2).map Prod.fst)

/-- `flush_rt_writes`, for the users of the snapshots in `rt_q_`. -/
def flushRtWrites (o : PipelineOutcome) (rt : List Uid) (c : Connections) : Connections :=
  if rt.isEmpty then c
  else if c.redisCtx.isNone then c
  else
    let r := c.writeUsersRtOnly o rt
    if !r.2 then r.1.disconnectDb else r.1

/-- `handle_db_job`, for a job with the users `uids`. -/
def handleDbJob (o : JobOutcomes) (rt uids : List Uid) (c : Connections) : Connections :=
  let c := c.ensureConnected o.connect
  if !c.2 then c.1
  else
    let c := (c.1.flushRtWrites o.write rt).ensureConnected o.reconnect
    if !c.2 then c.1
    else if uids.isEmpty then c.1
    else
      let f := c.1.fetchUsers o.fetch uids
      if !f.2.1 then f.1.disconnectDb
      else if f.2.2.isEmpty then f.1
      else
        let c := f.1.record (.callSpUpsertUserStateBatch f.1.mysql)
        if !o.sp then (c.record (.mysqlError c.mysql)).disconnectDb else c

end Connections

/-! ## Sequences of calls -/

/-- The hooks and the handler of the worker. -/
inductive ConnectionAction where
  | connectDb (o : ConnectOutcomes)
  | handleDbJob (o : JobOutcomes) (rt uids : List Uid)
  | disconnectDb

/-- One call from the worker thread. -/
def Connections.call (c : Connections) : ConnectionAction → Connections
  | .connectDb o => c.connectDb o
  | .handleDbJob o rt uids => c.handleDbJob o rt uids
  | .disconnectDb => c.disconnectDb

/-- Any sequence of calls. -/
def connectionSystem : System Connections ConnectionAction :=
  .ofFn {} (fun _ _ => True) Connections.call

end MmorpgServer.Storage
