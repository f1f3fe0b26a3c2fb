/-
MmorpgServer.Storage.RedisPipeline — `WriteUsersRtOnly` and `FetchUsers`
of `storage/redis/redisUserCache.cpp`, call by call.

`Storage.RedisUserCache` has what the two functions do to the store, and
`Storage.Connections` which reply they take for the reply to a command.
Here they append their commands to a `redisContext` and read the replies
back with what is in them: any of these calls may fail, any reply may be
an error.

* `RedisCommand` — the commands the two functions format.
* `RedisEnv` — what hiredis, the network and the server decide; `serve`
  is a command under it.
* `Redis.RedisContext` — the context, with the server at its other end.
* `Redis.writeUsersRtOnly`, `Redis.fetchUsers` — the two functions; a context is
  `none` where the pointer is null.

Modelled here and not part of the program: a reply is never a null
pointer when `redisGetReply` returns `REDIS_OK`, as it is on a blocking
context; `taken` records the commands the server has carried out.
-/
import MmorpgServer.Lib.DecimalText
import MmorpgServer.Lib.Pipeline
import MmorpgServer.Storage.RedisUserCache

namespace MmorpgServer.Storage

open MmorpgServer.Lib

variable {F : Type}

/-- `%d` and `atoi` as the C library has them, the rest as given. -/
def Libc.withInts (libc : Libc F) : Libc F :=
  { libc with
    printInt := fun n => String.ofList (printD n)
    atoi := fun str => readD str.toList }

/-- A formatted command. -/
inductive RedisCommand where
  | hset (key : String) (kvs : List (String × String)) (version : Nat)
  | hmget (key : String) (fields : List String)
  deriving DecidableEq

/-- `"HSET %s x %f z %f hp %d sp %d"`. -/
def hsetRt (libc : Libc F) (s : UserSnapshot F) : RedisCommand :=
  .hset (keyRt s.uid) (rtFields libc s) s.version

/-- `"HMGET %s x z hp sp"`. -/
def hmgetRt (uid : Uid) : RedisCommand := .hmget (keyRt uid) ["x", "z", "hp", "sp"]

/-! ## The server -/

/-- A command, carried out by the server. -/
def runCommand (service : RedisService) (store : RedisStore) :
    RedisCommand → RedisStore × Reply
  | .hset key kvs version => service.hset store key kvs version
  | .hmget key fields => (store, service.hmget store key fields)

/-- The server: what it holds, and what it has done. -/
structure RedisServer where
  store : RedisStore
  /-- the commands carried out, in order -/
  taken : List RedisCommand := []

/-- What is outside the program: the server at the other end (`service`),
and whether the `n`-th command finds memory in the output buffer (`room`),
reaches the server (`reaches`), is refused there with an error — out of
memory, a read-only replica — (`refuses`), and its reply comes back
(`answers`). -/
structure RedisEnv where
  service : RedisService
  room : Nat → Bool
  reaches : Nat → Bool
  refuses : Nat → Option String
  answers : Nat → Bool

namespace RedisEnv

/-- Nothing fails and nothing is refused. -/
def faultless (service : RedisService) : RedisEnv :=
  ⟨service, fun _ => true, fun _ => true, fun _ => none, fun _ => true⟩

/-- The reply to the `n`-th command is read. -/
def Arrives (env : RedisEnv) (n : Nat) : Prop := env.reaches n = true ∧ env.answers n = true

instance (env : RedisEnv) (n : Nat) : Decidable (env.Arrives n) :=
  inferInstanceAs (Decidable (_ ∧ _))

/-- What the server makes of the `n`-th command. -/
def execute (env : RedisEnv) (n : Nat) (store : RedisStore) (cmd : RedisCommand) :
    RedisStore × Reply :=
  match env.refuses n with
  | some msg => (store, .error msg)
  | none => runCommand env.service store cmd

/-- The `n`-th command: the server, and the reply that is read. -/
def serve (env : RedisEnv) (n : Nat) (server : RedisServer) (cmd : RedisCommand) :
    RedisServer × Option Reply :=
  if env.reaches n then
    let r := env.execute n server.store cmd
    ({ store := r.1, taken := if r.2.isError then server.taken else server.taken ++ [cmd] },
      if env.answers n then some r.2 else none)
  else (server, none)

end RedisEnv

/-! ## The two functions -/

namespace Redis

/-- `redisContext`. -/
abbrev RedisContext := Pipeline RedisServer RedisCommand Reply

/-- A context that has just been connected. -/
def connected (store : RedisStore) : RedisContext := { server := { store } }

/-- `WriteUsersRtOnly`. The loop that collects the replies looks at none
of them. -/
def writeUsersRtOnly (libc : Libc F) (env : RedisEnv) :
    Option RedisContext → List (UserSnapshot F) → Option RedisContext × Bool
  | none, _ => (none, false)
  | some c, snap =>
    if snap.isEmpty then (some c, true)
    else
      let a := c.appendAll env.room (snap.map (hsetRt libc))
      if !a.2 then (some a.1, false)
      else
        let r := a.1.collect env.serve (fun _ _ _ => ()) () snap
        (some r.1, r.2.2)

/-- `out.push_back`, of a row that is valid. -/
def pushRow (out : List (UserSnapshot F)) : Option (UserSnapshot F) → List (UserSnapshot F)
  | some s => out ++ [s]
  | none => out

/-- `FetchUsers`: the context, `out` and the result. -/
def fetchUsers (libc : Libc F) (env : RedisEnv) :
    Option RedisContext → List Uid → Option RedisContext × List (UserSnapshot F) × Bool
  | none, _ => (none, [], false)
  | some c, uids =>
    if uids.isEmpty then (some c, [], true)
    else
      let a := c.appendAll env.room (uids.map hmgetRt)
      if !a.2 then (some a.1, [], false)
      else
        let version := redisVersion c.server.store
        let r := a.1.collect env.serve
          (fun out uid reply => pushRow out (replyRow libc uid (version uid) reply)) [] uids
        (some r.1, r.2)

/-- A context the worker holds: it frees the context after a call that has
failed. Other clients may change the store between two calls. -/
inductive Held (libc : Libc F) (env : RedisEnv) : RedisContext → Prop
  | connected (store : RedisStore) : Held libc env (connected store)
  | wrote {c c' : RedisContext} {snap : List (UserSnapshot F)} (h : Held libc env c)
      (hw : writeUsersRtOnly libc env (some c) snap = (some c', true)) : Held libc env c'
  | fetched {c c' : RedisContext} {uids : List Uid} {out : List (UserSnapshot F)}
      (h : Held libc env c) (hf : fetchUsers libc env (some c) uids = (some c', out, true)) :
      Held libc env c'
  | others {c : RedisContext} (h : Held libc env c) (store : RedisStore) :
      Held libc env { c with server := { c.server with store } }

/-- One `WriteUsersRtOnly` after another. -/
def writeBatches (libc : Libc F) (env : RedisEnv) (c : Option RedisContext)
    (batches : List (List (UserSnapshot F))) : Option RedisContext :=
  batches.foldl (fun c snap => (writeUsersRtOnly libc env c snap).1) c

/-- Redis has taken the HSET of every snapshot of the list, and nothing
else since. -/
def Accepted (libc : Libc F) (snap : List (UserSnapshot F)) :
    Option RedisContext → Option RedisContext → Prop
  | some c, some c' => c'.server.taken = c.server.taken ++ snap.map (hsetRt libc)
  | _, _ => False

instance (libc : Libc F) (snap : List (UserSnapshot F)) (c c' : Option RedisContext) :
    Decidable (Accepted libc snap c c') :=
  match c, c' with
  | some _, some _ => inferInstanceAs (Decidable (_ = _))
  | none, _ => inferInstanceAs (Decidable False)
  | some _, none => inferInstanceAs (Decidable False)

end Redis

end MmorpgServer.Storage
