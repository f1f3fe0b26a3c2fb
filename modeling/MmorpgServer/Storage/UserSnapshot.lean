/-
MmorpgServer.Storage.UserSnapshot — the state of a user that a field
worker writes to Redis and the storage worker to the database,
`UserSnapshot` of `storage/redis/redisUserCache.h`.
-/

namespace MmorpgServer.Storage

abbrev Uid := Nat

/-- `UserSnapshot`; `inv_json` is always empty on this path. The version
is not part of the program: no code reads it, it tells snapshots apart. -/
structure UserSnapshot (F : Type) where
  uid : Uid
  x : F
  z : F
  hp : Int
  sp : Int
  version : Nat := 0
  deriving DecidableEq, Repr

end MmorpgServer.Storage
