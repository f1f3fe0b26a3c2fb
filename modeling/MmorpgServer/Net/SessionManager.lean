/-
MmorpgServer.Net.SessionManager — the tables of `net/sessionManager.h`.

Both tables hold weak pointers: what a lookup finds depends on which
sessions have been destroyed meanwhile, and destroying one changes no
table.

Reading the model against the source:

* `S` is the session objects and `sessionId` what `session_id()` returns
  for each. A weak pointer is the session it was made from, a
  `Session::Ptr` the session or `none`.
* Every method holds `mutex_`, so a call is one step. A session is
  destroyed between two steps.
* `remove_session` iterates a hash table, in any order.
-/
import MmorpgServer.Lib.Tables

namespace MmorpgServer.Net

open MmorpgServer.Lib

/-- `SessionManager`. -/
structure SessionManager (S : Type) where
  sessionsBySessionId : Finmap fun _ : Nat => S := ∅
  sessionsByPlayerId : Finmap fun _ : Nat => S := ∅

/-- The manager, and the sessions that are no more. -/
structure ManagedSessions (S : Type) where
  manager : SessionManager S := {}
  destroyed : Finset S := ∅

/-- The calls of the methods, and the end of a session. -/
inductive ManagerAction (S : Type) where
  | addSession (sess : Option S)
  | removeSession (sessionId : Nat) (order : Enumeration Nat)
  | bindPlayer (playerId : Nat) (sess : Option S)
  | unbindPlayer (playerId : Nat)
  | findBySessionId (sessionId : Nat)
  | findByPlayerId (playerId : Nat)
  | destroy (sess : S)

variable {S : Type} [DecidableEq S]

/-- `std::weak_ptr::lock`. -/
def lock (destroyed : Finset S) (sess : S) : Option S :=
  if sess ∈ destroyed then none else some sess

namespace SessionManager

/-- `add_session`. -/
def addSession (sessionId : S → Nat) (sess : Option S) (m : SessionManager S) : SessionManager S :=
  match sess with
  | none => m
  | some s => { m with sessionsBySessionId := m.sessionsBySessionId.insert (sessionId s) s }

/-- The test of the loop of `remove_session`. -/
def dropped (sessionId : S → Nat) (destroyed : Finset S) (sid : Nat) (sess : S) : Bool :=
  match lock destroyed sess with
  | some sp => decide (sessionId sp = sid)
  | none => true

/-- `remove_session`. -/
def removeSession (sessionId : S → Nat) (destroyed : Finset S) (sid : Nat)
    (order : Enumeration Nat) (m : SessionManager S) : SessionManager S :=
  { sessionsBySessionId := m.sessionsBySessionId.erase sid
    sessionsByPlayerId := eraseWhere order (dropped sessionId destroyed sid) m.sessionsByPlayerId }

/-- `bind_player`. -/
def bindPlayer (playerId : Nat) (sess : Option S) (m : SessionManager S) : SessionManager S :=
  match sess with
  | none => m
  | some s => { m with sessionsByPlayerId := m.sessionsByPlayerId.insert playerId s }

/-- `unbind_player`. -/
def unbindPlayer (playerId : Nat) (m : SessionManager S) : SessionManager S :=
  { m with sessionsByPlayerId := m.sessionsByPlayerId.erase playerId }

/-- `find_by_session_id`. -/
def findBySessionId (destroyed : Finset S) (sid : Nat) (m : SessionManager S) : Option S :=
  match m.sessionsBySessionId.lookup sid with
  | none => none
  | some sess => lock destroyed sess

/-- `find_by_player_id`: what it returns, and the tables it leaves. -/
def findByPlayerId (destroyed : Finset S) (playerId : Nat) (m : SessionManager S) :
    Option S × SessionManager S :=
  match m.sessionsByPlayerId.lookup playerId with
  | none => (none, m)
  | some sess =>
    match lock destroyed sess with
    | none => (none, { m with sessionsByPlayerId := m.sessionsByPlayerId.erase playerId })
    | some sp => (some sp, m)

end SessionManager

namespace ManagedSessions

/-- A `Session::Ptr` keeps its session alive. -/
def Enabled (st : ManagedSessions S) : ManagerAction S → Prop
  | .addSession (some s) => s ∉ st.destroyed
  | .bindPlayer _ (some s) => s ∉ st.destroyed
  | _ => True

/-- A call, or the end of a session. -/
def next (sessionId : S → Nat) (st : ManagedSessions S) : ManagerAction S → ManagedSessions S
  | .addSession sess => { st with manager := st.manager.addSession sessionId sess }
  | .removeSession sid order =>
    { st with manager := st.manager.removeSession sessionId st.destroyed sid order }
  | .bindPlayer playerId sess => { st with manager := st.manager.bindPlayer playerId sess }
  | .unbindPlayer playerId => { st with manager := st.manager.unbindPlayer playerId }
  | .findBySessionId _ => st
  | .findByPlayerId playerId =>
    { st with manager := (st.manager.findByPlayerId st.destroyed playerId).2 }
  | .destroy s => { st with destroyed := insert s st.destroyed }

/-- What `find_by_player_id` returns. -/
def ofPlayer (st : ManagedSessions S) (playerId : Nat) : Option S :=
  (st.manager.findByPlayerId st.destroyed playerId).1

/-- What `find_by_session_id` returns. -/
def ofSessionId (st : ManagedSessions S) (sid : Nat) : Option S :=
  st.manager.findBySessionId st.destroyed sid

end ManagedSessions

/-- Calls of the manager and destructions, in any order. -/
def managerSystem (sessionId : S → Nat) : System (ManagedSessions S) (ManagerAction S) :=
  System.ofFn {} ManagedSessions.Enabled (ManagedSessions.next sessionId)

end MmorpgServer.Net
