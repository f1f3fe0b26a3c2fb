/-
MmorpgServer.Storage.RedisUserCache — the run-time rows of the users in
Redis, `storage/redis/redisUserCache.h` and `.cpp`, and the table
`user_state` behind the stored procedure of `storage/DB/Proc`.

A user's row is the hash under `u:<uid>:rt` with the text fields `x`,
`z`, `hp` and `sp`. `writeUsersRtOnly` sets them with one HSET a
snapshot, `fetchUsers` reads them with one HMGET a user and keeps the
users whose four fields parse.

What the two commands do is the server's business: `RedisService` is a
parameter, with what Redis documents of them. A server may also refuse a
command that is in order, as one does that is loading, busy, read-only or
out of memory; that is part of an outcome.

Modelled here and not part of the program:

* `strtof`, `atoi` and `printf` (`Libc`), of which nothing is assumed;
* a version number on snapshots and rows, which no code reads: it says
  which snapshot a row came from.
-/
import Mathlib
import MmorpgServer.Storage.UserSnapshot

namespace MmorpgServer.Storage

/-- The library functions between numbers and text: `printf` with `%f`
and `%d`, `strtof`, `atoi`, and the cast of a `long long` to `float`. -/
structure Libc (F : Type) where
  printFloat : F → String
  printInt : Int → String
  strtof : String → F
  atoi : String → Int
  floatOfInt : Int → F

/-- `redisReply`, by its `type`. -/
inductive Reply where
  | nil
  | integer (n : Int)
  | string (str : Option String)
  | array (elements : List Reply)
  | error (msg : String)

/-- What a Redis key holds. -/
inductive RedisValue where
  | hash (fields : String → Option String) (version : Nat)
  | other

abbrev RedisStore := String → Option RedisValue

/-- `KeyRt`. -/
def keyRt (uid : Uid) : String := "u:" ++ toString uid ++ ":rt"

theorem keyRt_injective : Function.Injective keyRt := by
  intro a b h
  unfold keyRt at h
  rw [String.append_left_inj, String.append_right_inj] at h
  exact Nat.repr_injective h

/-! ## The server -/

/-- `REDIS_REPLY_ERROR`. -/
def Reply.isError : Reply → Bool
  | .error _ => true
  | _ => false

/-- A field of a hash, as HMGET answers it. -/
def Reply.bulk : Option String → Reply
  | none => .nil
  | some str => .string (some str)

/-- The fields of a key; one that is not there has none. -/
def hashAt (store : RedisStore) (key : String) : String → Option String :=
  match store key with
  | some (.hash fields _) => fields
  | _ => fun _ => none

/-- Set fields of a hash, left to right. -/
def setFields (fields : String → Option String) (kvs : List (String × String)) :
    String → Option String :=
  kvs.foldl (fun f kv => Function.update f kv.1 (some kv.2)) fields

/-- A Redis server, by what it makes of a HSET and a HMGET that it carries
out, and what Redis documents of the two: a hash is created or updated
field by field, and read field by field; a key that holds something else
answers with an error and stays as it is. -/
structure RedisService where
  hset (store : RedisStore) (key : String) (kvs : List (String × String)) (version : Nat) :
    RedisStore × Reply
  hmget (store : RedisStore) (key : String) (fields : List String) : Reply
  hset_hash : ∀ store key kvs version, store key ≠ some .other →
    (hset store key kvs version).1 =
        Function.update store key (some (.hash (setFields (hashAt store key) kvs) version)) ∧
      (hset store key kvs version).2.isError = false
  hset_other : ∀ store key kvs version, store key = some .other →
    (hset store key kvs version).1 = store ∧ (hset store key kvs version).2.isError = true
  hmget_hash : ∀ store key fields, store key ≠ some .other →
    hmget store key fields = .array (fields.map fun k => .bulk (hashAt store key k))
  hmget_other : ∀ store key fields, store key = some .other →
    (hmget store key fields).isError = true

/-- The version of the snapshot a user's row was last written from. -/
def redisVersion (store : RedisStore) (uid : Uid) : Nat :=
  match store (keyRt uid) with
  | some (.hash _ version) => version
  | _ => 0

/-! ## Writing -/

variable {F : Type}

/-- The fields of the HSET of `WriteUsersRtOnly`. -/
def rtFields (libc : Libc F) (s : UserSnapshot F) : List (String × String) :=
  [("x", libc.printFloat s.x), ("z", libc.printFloat s.z),
    ("hp", libc.printInt s.hp), ("sp", libc.printInt s.sp)]

/-- What becomes of the pipeline of `WriteUsersRtOnly`: the server it is
sent to, which of its commands get there, which of them are refused, and
whether a reply to each of them is read. A command may be carried out and
its reply lost. -/
structure WriteOutcome where
  service : RedisService
  reaches : Nat → Bool
  refuses : Nat → Option String
  replies : Bool

/-- Nothing fails and nothing is refused. -/
def WriteOutcome.allOk (service : RedisService) : WriteOutcome :=
  ⟨service, fun _ => true, fun _ => none, true⟩

@[simp] theorem WriteOutcome.allOk_replies (service : RedisService) :
    (WriteOutcome.allOk service).replies = true := rfl

/-- The `i`-th command of the pipeline: the store, and whether the snapshot
was written. -/
def writeOne (libc : Libc F) (o : WriteOutcome) (store : RedisStore) (i : Nat)
    (s : UserSnapshot F) : RedisStore × Bool :=
  if o.reaches i && (o.refuses i).isNone then
    let r := o.service.hset store (keyRt s.uid) (rtFields libc s) s.version
    (r.1, !r.2.isError)
  else (store, false)

/-- The commands of the pipeline from the `i`-th on: the store, and each
snapshot with whether it was written. A reply is freed unread, so an
error answer to a command is not noticed. -/
def writeFrom (libc : Libc F) (o : WriteOutcome) :
    RedisStore → Nat → List (UserSnapshot F) → RedisStore × List (UserSnapshot F × Bool)
  | store, _, [] => (store, [])
  | store, i, s :: snaps =>
    let r := writeOne libc o store i s
    let rest := writeFrom libc o r.1 (i + 1) snaps
    (rest.1, (s, r.2) :: rest.2)

/-- `WriteUsersRtOnly`: the store, what was written, and the result. -/
def writeUsersRtOnly (libc : Libc F) (o : WriteOutcome) (store : RedisStore)
    (snaps : List (UserSnapshot F)) : RedisStore × List (UserSnapshot F × Bool) × Bool :=
  let r := writeFrom libc o store 0 snaps
  (r.1, r.2, snaps.isEmpty || o.replies)

/-! ## Reading -/

/-- `parse_float`. -/
def parseFloat (libc : Libc F) : Reply → Option F
  | .string (some str) => some (libc.strtof str)
  | .integer n => some (libc.floatOfInt n)
  | _ => none

/-- `parse_int`; the cast of a `long long` to `int` wraps. -/
def parseInt (libc : Libc F) : Reply → Option Int
  | .integer n => some (n.bmod (2 ^ 32))
  | .string (some str) => some (libc.atoi str)
  | _ => none

/-- The row in a reply to a user's HMGET, if it has four elements that
parse. -/
def replyRow (libc : Libc F) (uid : Uid) (version : Nat) : Reply → Option (UserSnapshot F)
  | .array [rx, rz, rhp, rsp] => do
    let x ← parseFloat libc rx
    let z ← parseFloat libc rz
    let hp ← parseInt libc rhp
    let sp ← parseInt libc rsp
    pure { uid, x, z, hp, sp, version }
  | _ => none

/-- What becomes of the pipeline of `FetchUsers`: the server it is sent
to, which of its commands are refused, and whether the replies are read. -/
structure FetchOutcome where
  service : RedisService
  refuses : Nat → Option String
  replies : Bool

/-- Nothing fails and nothing is refused. -/
def FetchOutcome.allOk (service : RedisService) : FetchOutcome :=
  ⟨service, fun _ => none, true⟩

@[simp] theorem FetchOutcome.allOk_replies (service : RedisService) :
    (FetchOutcome.allOk service).replies = true := rfl

/-- The reply to the `i`-th HMGET. -/
def FetchOutcome.reply (o : FetchOutcome) (store : RedisStore) (i : Nat) (uid : Uid) : Reply :=
  match o.refuses i with
  | some msg => .error msg
  | none => o.service.hmget store (keyRt uid) ["x", "z", "hp", "sp"]

/-- One pass of the loop of `FetchUsers`: the user's row, if the reply is
one that parses. -/
def fetchUser (libc : Libc F) (o : FetchOutcome) (store : RedisStore) (i : Nat) (uid : Uid) :
    Option (UserSnapshot F) :=
  replyRow libc uid (redisVersion store uid) (o.reply store i uid)

/-- The loop, from the `i`-th reply on. -/
def fetchFrom (libc : Libc F) (o : FetchOutcome) (store : RedisStore) :
    Nat → List Uid → List (UserSnapshot F)
  | _, [] => []
  | i, uid :: uids => (fetchUser libc o store i uid).toList ++ fetchFrom libc o store (i + 1) uids

/-- `FetchUsers`, when every reply is read. A user whose reply is an error
is skipped like one without a row. -/
def fetchUsers (libc : Libc F) (o : FetchOutcome) (store : RedisStore) (uids : List Uid) :
    List (UserSnapshot F) :=
  fetchFrom libc o store 0 uids

/-! ## The table behind the stored procedure -/

/-- `user_state`, by its primary key. -/
abbrev UserTable (F : Type) := Uid → Option (UserSnapshot F)

/-- The version a user's row in the table came from. -/
def UserTable.version (table : UserTable F) (uid : Uid) : Nat :=
  match table uid with
  | none => 0
  | some row => row.version

/-- `sp_upsert_user_state_batch` does what its name and the statement of
`UpsertUserState` say: every user of the batch gets a row of the batch,
no one else's row changes. -/
structure UpsertsBatch (sp : UserTable F → List (UserSnapshot F) → UserTable F) : Prop where
  inBatch : ∀ table rows, ∀ r ∈ rows, ∃ r' ∈ rows, r'.uid = r.uid ∧ sp table rows r.uid = some r'
  outside : ∀ table rows uid, (∀ r ∈ rows, r.uid ≠ uid) → sp table rows uid = table uid

/-- The statement of `UpsertUserState`, row by row. -/
def upsertUserState (table : UserTable F) (rows : List (UserSnapshot F)) : UserTable F :=
  rows.foldl (fun t r => Function.update t r.uid (some r)) table

theorem upsertUserState_upserts : UpsertsBatch (upsertUserState (F := F)) := by
  have houtside : ∀ (rows : List (UserSnapshot F)) (table : UserTable F) (uid : Uid),
      (∀ r ∈ rows, r.uid ≠ uid) → upsertUserState table rows uid = table uid := by
    intro rows
    induction rows with
    | nil => intro table uid _; rfl
    | cons r rows ih =>
      intro table uid h
      show upsertUserState (Function.update table r.uid (some r)) rows uid = table uid
      rw [ih _ _ fun r' hr' => h r' (List.mem_cons_of_mem _ hr'),
        Function.update_of_ne (Ne.symm (h r List.mem_cons_self))]
  refine ⟨fun table rows => ?_, fun table rows uid h => houtside rows table uid h⟩
  induction rows generalizing table with
  | nil => intro r hr; cases hr
  | cons r rows ih =>
    intro r' hr'
    show ∃ r'' ∈ r :: rows, r''.uid = r'.uid ∧
      upsertUserState (Function.update table r.uid (some r)) rows r'.uid = some r''
    by_cases hlater : ∃ q ∈ rows, q.uid = r'.uid
    · obtain ⟨q, hq, hqu⟩ := hlater
      obtain ⟨q', hq', hqu', hrow⟩ := ih (Function.update table r.uid (some r)) q hq
      exact ⟨q', List.mem_cons_of_mem _ hq', hqu'.trans hqu, hqu ▸ hrow⟩
    · -- the last row of this user
      have hrow := houtside rows (Function.update table r.uid (some r)) r'.uid
        fun q hq hqu => hlater ⟨q, hq, hqu⟩
      rcases List.mem_cons.mp hr' with rfl | hr'
      · exact ⟨r', List.mem_cons_self, rfl, by rw [hrow, Function.update_self]⟩
      · exact absurd ⟨r', hr', rfl⟩ hlater

/-- Numbers printed and read as decimal integers. -/
def intLibc : Libc Int where
  printFloat := toString
  printInt := toString
  strtof str := str.toInt?.getD 0
  atoi str := str.toInt?.getD 0
  floatOfInt := id

/-- The number of fields a HSET creates. -/
def createdFields (store : RedisStore) (key : String) (kvs : List (String × String)) : Nat :=
  kvs.countP fun kv => (hashAt store key kv.1).isNone

/-- A server that answers as Redis does. -/
def plainRedis : RedisService where
  hset store key kvs version :=
    match store key with
    | some .other => (store, .error "WRONGTYPE")
    | _ => (Function.update store key (some (.hash (setFields (hashAt store key) kvs) version)),
        .integer (createdFields store key kvs))
  hmget store key fields :=
    match store key with
    | some .other => .error "WRONGTYPE"
    | _ => .array (fields.map fun k => .bulk (hashAt store key k))
  hset_hash store key kvs version h := by
    split
    · rename_i hkey
      exact absurd hkey h
    · exact ⟨rfl, rfl⟩
  hset_other store key kvs version h := by
    rw [h]
    exact ⟨rfl, rfl⟩
  hmget_hash store key fields h := by
    split
    · rename_i hkey
      exact absurd hkey h
    · rfl
  hmget_other store key fields h := by
    rw [h]
    rfl

/-! ## What the rows hold -/

/-- A key that holds no hash. -/
def WrongType (store : RedisStore) (uid : Uid) : Prop := store (keyRt uid) = some .other

instance (store : RedisStore) (uid : Uid) : Decidable (WrongType store uid) :=
  match h : store (keyRt uid) with
  | some .other => isTrue h
  | some (.hash f v) => isFalse fun h' => by rw [WrongType, h] at h'; cases h'
  | none => isFalse fun h' => by rw [WrongType, h] at h'; cases h'

/-- A row with all four fields. -/
def Complete (store : RedisStore) (uid : Uid) : Prop :=
  ∃ f v, store (keyRt uid) = some (.hash f v) ∧ ∀ k ∈ ["x", "z", "hp", "sp"], f k ≠ none

/-- The row of a user, as its four fields read. -/
def storedRow (libc : Libc F) (store : RedisStore) (uid : Uid) : Option (UserSnapshot F) :=
  replyRow libc uid (redisVersion store uid)
    (.array (["x", "z", "hp", "sp"].map fun k => .bulk (hashAt store (keyRt uid) k)))

theorem parseFloat_bulk (libc : Libc F) (field : Option String) :
    parseFloat libc (.bulk field) = field.map libc.strtof := by
  cases field <;> rfl

theorem parseInt_bulk (libc : Libc F) (field : Option String) :
    parseInt libc (.bulk field) = field.map libc.atoi := by
  cases field <;> rfl

theorem replyRow_error {libc : Libc F} {uid : Uid} {version : Nat} {reply : Reply}
    (h : reply.isError = true) : replyRow libc uid version reply = none := by
  cases reply with
  | error msg => rfl
  | nil | integer | string | array => cases h

theorem hashAt_of_wrongType {store : RedisStore} {uid : Uid} (h : WrongType store uid)
    (k : String) : hashAt store (keyRt uid) k = none := by
  unfold WrongType at h
  simp [hashAt, h]

/-- Whichever server it asks, a fetch that is not refused gets the user's
row. -/
theorem fetchUser_eq (libc : Libc F) (o : FetchOutcome) (store : RedisStore) (i : Nat)
    (uid : Uid) : fetchUser libc o store i uid =
      if (o.refuses i).isNone then storedRow libc store uid else none := by
  unfold fetchUser FetchOutcome.reply
  cases o.refuses i with
  | some msg => rfl
  | none =>
    by_cases h : WrongType store uid
    · rw [replyRow_error (o.service.hmget_other _ _ _ h)]
      simp [storedRow, replyRow, hashAt_of_wrongType h, parseFloat_bulk]
    · rw [o.service.hmget_hash _ _ _ h]
      rfl

/-- A user has a row exactly when its hash is complete. -/
theorem storedRow_isSome (libc : Libc F) (store : RedisStore) (uid : Uid) :
    (storedRow libc store uid).isSome = true ↔ Complete store uid := by
  unfold storedRow Complete hashAt
  cases hkey : store (keyRt uid) with
  | none => simp [replyRow, parseFloat_bulk]
  | some value =>
    cases value with
    | other => simp [replyRow, parseFloat_bulk]
    | hash f v =>
      cases hx : f "x" <;> cases hz : f "z" <;> cases hhp : f "hp" <;> cases hsp : f "sp" <;>
        simp [replyRow, parseFloat_bulk, parseInt_bulk, hx, hz, hhp, hsp]

theorem storedRow_uid {libc : Libc F} {store : RedisStore} {uid : Uid} {r : UserSnapshot F}
    (h : storedRow libc store uid = some r) :
    r.uid = uid ∧ r.version = redisVersion store uid := by
  simp only [storedRow, List.map_cons, List.map_nil, replyRow, Option.bind_eq_bind,
    Option.bind_eq_some_iff, Option.pure_def] at h
  obtain ⟨x, -, z, -, hp, -, sp, -, h⟩ := h
  cases h
  exact ⟨rfl, rfl⟩

/-- The rows a fetch returns: those of the users whose HMGET is not
refused. -/
theorem mem_fetchFrom {libc : Libc F} {o : FetchOutcome} {store : RedisStore} {i : Nat}
    {uids : List Uid} {r : UserSnapshot F} :
    r ∈ fetchFrom libc o store i uids ↔ ∃ (j : Nat) (hj : j < uids.length),
      o.refuses (i + j) = none ∧ storedRow libc store uids[j] = some r := by
  induction uids generalizing i with
  | nil => simp [fetchFrom]
  | cons uid uids ih =>
    have hfirst : r ∈ (fetchUser libc o store i uid).toList ↔
        o.refuses i = none ∧ storedRow libc store uid = some r := by
      rw [fetchUser_eq, Option.mem_toList]
      cases o.refuses i <;> simp
    rw [fetchFrom, List.mem_append, hfirst, ih]
    constructor
    · rintro (h | ⟨j, hj, h⟩)
      · exact ⟨0, by simp, h⟩
      · refine ⟨j + 1, by simpa using hj, ?_⟩
        rw [show i + (j + 1) = i + 1 + j by omega]
        exact h
    · rintro ⟨j, hj, h⟩
      cases j with
      | zero => exact .inl h
      | succ j =>
        rw [show i + (j + 1) = i + 1 + j by omega] at h
        exact .inr ⟨j, by simpa using hj, h⟩

theorem mem_fetchUsers_iff {libc : Libc F} {o : FetchOutcome} {store : RedisStore}
    {uids : List Uid} {r : UserSnapshot F} :
    r ∈ fetchUsers libc o store uids ↔ ∃ (j : Nat) (hj : j < uids.length),
      o.refuses j = none ∧ storedRow libc store uids[j] = some r := by
  rw [fetchUsers, mem_fetchFrom]
  simp only [Nat.zero_add]

theorem mem_fetchUsers {libc : Libc F} {o : FetchOutcome} {store : RedisStore}
    {uids : List Uid} {r : UserSnapshot F} (h : r ∈ fetchUsers libc o store uids) :
    r.uid ∈ uids ∧ storedRow libc store r.uid = some r ∧
      r.version = redisVersion store r.uid := by
  obtain ⟨j, hj, -, hr⟩ := mem_fetchUsers_iff.mp h
  obtain ⟨huid, hversion⟩ := storedRow_uid hr
  rw [huid]
  exact ⟨List.getElem_mem hj, hr, hversion⟩

/-- A fetch of which nothing is refused returns the rows there are. -/
theorem fetchUsers_unrefused (libc : Libc F) (o : FetchOutcome) (h : ∀ i, o.refuses i = none)
    (store : RedisStore) (uids : List Uid) :
    fetchUsers libc o store uids = uids.filterMap (storedRow libc store) := by
  have hfrom : ∀ i, fetchFrom libc o store i uids = uids.filterMap (storedRow libc store) := by
    induction uids with
    | nil => exact fun _ => rfl
    | cons uid uids ih =>
      intro i
      rw [fetchFrom, ih, fetchUser_eq, h, List.filterMap_cons]
      cases storedRow libc store uid <;> rfl
  exact hfrom 0

/-- A complete row is fetched when the HMGET of its user is not refused. -/
theorem fetchUsers_complete {libc : Libc F} {o : FetchOutcome} {store : RedisStore}
    {uids : List Uid} {j : Nat} (hj : j < uids.length) (hrefuses : o.refuses j = none)
    (hc : Complete store uids[j]) : ∃ r ∈ fetchUsers libc o store uids,
      r.uid = uids[j] ∧ r.version = redisVersion store uids[j] := by
  obtain ⟨r, hr⟩ := Option.isSome_iff_exists.mp ((storedRow_isSome libc store uids[j]).mpr hc)
  exact ⟨r, mem_fetchUsers_iff.mpr ⟨j, hj, hrefuses, hr⟩, storedRow_uid hr⟩

end MmorpgServer.Storage
