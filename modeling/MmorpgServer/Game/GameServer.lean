/-
MmorpgServer.Game.GameServer — sessions, logins and fields together: the
network thread of `net/tcp_server.cpp` and `net/session.cpp`, the game
worker with the handlers of `core/handlers`, and the tables they share.

A player is in five tables: `PlayerManager`'s two, `SessionManager`'s
binding, `players_` of a field worker and its index. `GameServer` holds
them all; the two threads work on it in any order.

Reading the model against the source:

* A session object is named by its id, a `Player` object by its. What is
  set once is in `objects`, the rest in `fieldIdOf` and `playerData`;
  field workers see the latter (`attach`).
* A frame is what `on_read` can tell of a payload (`Frame`).
* The game worker's handlers run between other threads' steps: `GamePc`
  is where the one at work stands. It cuts a handler wherever it touches
  what the network thread reads or writes too.
* `core::next_session_id`, `core::next_player_id` and `MakeDatabaseID`
  are not part of the repository: `ServerConfig` has them as sequences.
* A weak pointer to a bound session does not expire, since the player it
  is bound to keeps the session (`GameServer.Inv.bound`).
-/
import MmorpgServer.Game.PlayerManager
import MmorpgServer.Net.Routing
import MmorpgServer.Worker.FieldWorker

namespace MmorpgServer.Game

open MmorpgServer.Lib MmorpgServer.Field MmorpgServer.Net MmorpgServer.Worker Scalar

/-! ## Data -/

abbrev SessionId := Nat

/-- An `int` field id. -/
abbrev FieldId := Int32

/-- `Session`. `closed` is not part of the program: the close callback has
run. -/
structure Session where
  playerId : EntityId := 0
  state : SessionState := .connected
  fieldId : FieldId := 0
  closing : Bool := false
  closed : Bool := false
  deriving DecidableEq

/-- What the handlers read of a `game::Envelope`. -/
inductive Request where
  | ping
  | login (userId token : Option String)
  | enterField (fieldId : UInt32)
  | skillCmd (skill : Int8) (targetId : EntityId)
  /-- a packet without a handler -/
  | other
  deriving DecidableEq

/-- A payload: the envelope it is, if `IsEnvelope` accepts it, and the
answer of `IsFieldCmd`. -/
structure Frame where
  envelope : Option Request
  fieldCmd : Bool := false

/-- The routing of `on_read`. -/
def Frame.route (state : SessionState) (f : Frame) : Route :=
  if state = .inField then
    match f.envelope with
    | some (.skillCmd _ _) => .gameWorker
    | _ => if f.fieldCmd then .fieldWorker else .dropped
  else if f.envelope.isSome then .gameWorker
  else .dropped

/-- A `NetMessage` in the game worker's queue. -/
structure NetMessage where
  session : SessionId
  request : Request
  deriving DecidableEq

/-- A payload sent to a session. -/
inductive Ack where
  | login (playerId : EntityId) (userId : String) (defaultFieldId : Int)
  | enterField (fieldId : UInt32) (playerId : EntityId)
  | skillCmd (skill : Int8) (targetId : EntityId)
  deriving DecidableEq

/-- What the game worker and the sessions hand on. -/
inductive Output where
  | payload (session : SessionId) (ack : Ack)
  | toFieldWorker (fieldId : FieldId) (session : SessionId)
  deriving DecidableEq

/-- Where the game worker is: between two messages, or in a handler. -/
inductive GamePc where
  | idle
  /-- `OnRecv_Login`, after `create_player` -/
  | created (session : SessionId) (playerId : EntityId) (userId : String)
  /-- `OnRecv_Login`, after `set_player_id` -/
  | named (session : SessionId) (playerId : EntityId) (userId : String)
  /-- `OnRecv_EnterField`, after `session->set_field_id` -/
  | prepared (session : SessionId) (playerId : EntityId) (fieldId : UInt32)
  /-- `OnRecv_EnterField`, after `session->set_state` -/
  | inField (session : SessionId) (playerId : EntityId) (fieldId : UInt32)
  deriving DecidableEq

/-- What the repository leaves to others, and whether `set_storage` has
been called. -/
structure ServerConfig (K : Type) where
  nextSessionId : Nat → SessionId
  nextPlayerId : Nat → EntityId
  makeDatabaseID : Nat → EntityId
  field : FieldId → FieldConfig K
  storage : Bool

/-- The server. `added` is not part of the program: it counts the calls of
`add_player` for each player. -/
structure GameServer (K : Type) where
  sessions : SessionId → Option Session := fun _ => none
  sessionCount : Nat := 0
  /-- `TcpServer::sessions_` -/
  connections : List SessionId := []
  sessionsBySessionId : SessionId → Bool := fun _ => false
  sessionsByPlayerId : EntityId → Option SessionId := fun _ => none
  objects : EntityId → Option (Player SessionId) := fun _ => none
  playerCount : Nat := 0
  fieldIdOf : EntityId → FieldId := fun _ => 0
  playerData : EntityId → Worker.Player K
  pm : PlayerManager SessionId := {}
  fields : FieldId → Option (FieldWorker K) := fun _ => none
  queue : List NetMessage := []
  pc : GamePc := .idle
  out : List Output := []
  added : EntityId → Nat := fun _ => 0

namespace GameServer

variable {K : Type} [Scalar K]

/-- A `Player` as constructed. -/
def newPlayer : Worker.Player K where
  pos := ⟨lit 0, lit 0⟩
  moveState := { dir := ⟨lit 0, lit 0⟩, moving := false, speed := playerSpeed, lastInputTime := lit 0 }
  stat := {}
  lastDirtyMarkTime := lit 0

/-- Before anything has happened. -/
def start : GameServer K := { playerData := fun _ => newPlayer }

/-! ## `Session` and `SessionManager` -/

/-- Change a session object. -/
def setSession (st : GameServer K) (s : SessionId) (f : Session → Session) : GameServer K :=
  { st with sessions := Function.update st.sessions s ((st.sessions s).map f) }

/-- `send_payload`. -/
def sendPayload (st : GameServer K) (s : SessionId) (ack : Ack) : GameServer K :=
  match st.sessions s with
  | some sess => if sess.closing then st else { st with out := st.out ++ [.payload s ack] }
  | none => st

/-- `SendToFieldWorker`. -/
def sendToFieldWorker (st : GameServer K) (fieldId : FieldId) (s : SessionId) : GameServer K :=
  if (st.fields fieldId).isSome then { st with out := st.out ++ [.toFieldWorker fieldId s] } else st

/-- `find_by_player_id`. -/
def findByPlayerId (st : GameServer K) (playerId : EntityId) : Option SessionId :=
  st.sessionsByPlayerId playerId

/-- `add_session`. -/
def addSession (st : GameServer K) (s : SessionId) : GameServer K :=
  { st with sessionsBySessionId := Function.update st.sessionsBySessionId s true }

/-- `remove_session`. -/
def removeSession (st : GameServer K) (s : SessionId) : GameServer K :=
  { st with
    sessionsBySessionId := Function.update st.sessionsBySessionId s false
    sessionsByPlayerId := fun pid =>
      if st.sessionsByPlayerId pid = some s then none else st.sessionsByPlayerId pid }

/-- `bind_player`. -/
def bindPlayer (st : GameServer K) (playerId : EntityId) (s : SessionId) : GameServer K :=
  { st with sessionsByPlayerId := Function.update st.sessionsByPlayerId playerId (some s) }

/-! ## The network thread -/

/-- `on_new_conn`, with what `uv_accept` returned. -/
def onNewConn (cfg : ServerConfig K) (st : GameServer K) (accepted : Bool) : GameServer K :=
  let s := cfg.nextSessionId st.sessionCount
  let st := { st with sessionCount := st.sessionCount + 1 }
  if accepted then
    let st := { st with sessions := Function.update st.sessions s (some { playerId := 4 }) }
    let st := st.addSession s
    { st with connections := st.connections ++ [s] }
  else st

/-- `on_read`, for one frame: the state of the session is read here. -/
def onRead (st : GameServer K) (s : SessionId) (f : Frame) : GameServer K :=
  match st.sessions s with
  | none => st
  | some sess =>
    match f.route sess.state with
    | .gameWorker =>
      match f.envelope with
      | some request => { st with queue := st.queue ++ [⟨s, request⟩] }
      | none => st
    | .fieldWorker => st.sendToFieldWorker sess.fieldId s
    | .dropped => st

/-- `on_read`, for the end of the stream or an error. -/
def onReadError (st : GameServer K) (s : SessionId) : GameServer K :=
  st.setSession s fun sess => { sess with closing := true }

/-- `on_closed`, with the callback of `on_new_conn`. -/
def onClosed (st : GameServer K) (s : SessionId) : GameServer K :=
  let st := st.removeSession s
  let st := { st with connections := st.connections.erase s }
  st.setSession s fun sess => { sess with closed := true }

/-! ## Fields -/

/-- A field worker, with what it sees of the rest of the server. -/
def attach (st : GameServer K) (fw : FieldWorker K) : FieldWorker K :=
  { fw with
    player := st.playerData
    registered := fun id => (st.pm.getById id).isSome
    sessions := fun id => (st.findByPlayerId id).isSome }

/-- A field worker at work. -/
def onField (st : GameServer K) (fieldId : FieldId) (f : FieldWorker K → FieldWorker K) :
    GameServer K :=
  match st.fields fieldId with
  | none => st
  | some fw =>
    let fw := f (st.attach fw)
    { st with fields := Function.update st.fields fieldId (some fw), playerData := fw.player }

/-- `FieldManager::create_field`: the fields, and whether there is one of
that id now. -/
def createField (cfg : ServerConfig K) (st : GameServer K) (fieldId : FieldId) :
    GameServer K × Bool :=
  if (st.fields fieldId).isSome then (st, true)
  else if !cfg.storage then (st, false)
  else
    let spawns := if fieldId = 1000 then FieldWorker.spawnMonstersEvenGrid cfg.makeDatabaseID else []
    let fw := FieldWorker.construct (cfg.field fieldId) st.playerData false spawns
    ({ st with fields := Function.update st.fields fieldId (some fw) }, true)

/-- `add_player`, counted. -/
def addPlayer (cfg : ServerConfig K) (st : GameServer K) (fieldId : FieldId) (pid : EntityId) :
    GameServer K :=
  let st := st.onField fieldId fun fw => fw.addPlayer (cfg.field fieldId) pid (st.playerData pid)
  { st with added := Function.update st.added pid (st.added pid + 1) }

/-! ## The game worker -/

/-- `OnRecv_Login`, up to `create_player`. -/
def onRecvLogin (cfg : ServerConfig K) (st : GameServer K) (s : SessionId)
    (userId token : Option String) : GameServer K :=
  let userId := userId.getD ""
  let token := token.getD ""
  if userId = "" ∨ token = "" then st
  else
    let playerId := cfg.nextPlayerId st.playerCount
    let r := st.pm.createPlayer playerId userId (some s)
    { st with
      playerCount := st.playerCount + 1
      pm := r.1
      objects := Function.update st.objects playerId (some r.2)
      fieldIdOf := Function.update st.fieldIdOf playerId 0
      playerData := Function.update st.playerData playerId newPlayer
      pc := .created s playerId userId }

/-- `OnRecv_EnterField`, up to `session->set_field_id`. -/
def onRecvEnterField (cfg : ServerConfig K) (st : GameServer K) (s : SessionId)
    (fieldId : UInt32) : GameServer K :=
  match st.pm.getBySession (some s) with
  | none => st
  | some player =>
    let pid := player.id
    let data := st.playerData pid
    let st := { st with
      fieldIdOf := Function.update st.fieldIdOf pid fieldId.toInt32
      playerData := Function.update st.playerData pid { data with pos := ⟨lit 102.1, lit 155.91⟩ } }
    let r := createField cfg st fieldId.toInt32
    if !r.2 then r.1
    else
      let st := r.1.setSession s fun sess => { sess with fieldId := fieldId.toInt32 }
      { st with pc := .prepared s pid fieldId }

/-- `OnRecv_SkillCmd`. -/
def onRecvSkillCmd (st : GameServer K) (s : SessionId) (skill : Int8) (targetId : EntityId) :
    GameServer K :=
  match st.sessions s with
  | none => st
  | some sess =>
    if sess.fieldId = 0 ∨ sess.playerId = 0 then st.sendPayload s (.skillCmd skill targetId)
    else st.sendToFieldWorker sess.fieldId s

/-- `Dispatcher::dispatch`. -/
def dispatch (cfg : ServerConfig K) (st : GameServer K) (msg : NetMessage) : GameServer K :=
  match msg.request with
  | .ping => st
  | .login userId token => st.onRecvLogin cfg msg.session userId token
  | .enterField fieldId => st.onRecvEnterField cfg msg.session fieldId
  | .skillCmd skill targetId => st.onRecvSkillCmd msg.session skill targetId
  | .other => st

/-- The next step of the game worker: the front of the queue, or the rest
of the handler it is in. -/
def gameStep (cfg : ServerConfig K) (st : GameServer K) : GameServer K :=
  match st.pc with
  | .idle =>
    match st.queue with
    | [] => st
    | msg :: queue => dispatch cfg { st with queue } msg
  | .created s pid userId =>
    let st := st.setSession s fun sess => { sess with playerId := pid }
    { st with pc := .named s pid userId }
  | .named s pid userId =>
    let st := st.bindPlayer pid s
    let st := st.sendPayload s (.login pid userId 1000)
    { st with pc := .idle }
  | .prepared s pid fieldId =>
    let st := st.setSession s fun sess => { sess with state := .inField }
    { st with pc := .inField s pid fieldId }
  | .inField s pid fieldId =>
    let st := st.sendPayload s (.enterField fieldId pid)
    let st := st.addPlayer cfg fieldId.toInt32 pid
    { st with pc := .idle }

end GameServer

/-! ## Runs -/

/-- A step of the network thread, the game worker or a field worker. -/
inductive ServerAction (K : Type) where
  | onNewConn (accepted : Bool)
  | onRead (s : SessionId) (f : Frame)
  | onReadError (s : SessionId)
  | onClosed (s : SessionId)
  | gameWorker
  | fieldWorker (fieldId : FieldId) (a : FieldAction K)

/-- What a field worker does on its own thread. -/
def OwnThread {K : Type} : FieldAction K → Prop
  | .moveInput _ _ _ => True
  | .skill _ _ => True
  | .updateWorld _ _ => True
  | _ => False

namespace GameServer

variable {K : Type} [Scalar K]

def step (cfg : ServerConfig K) (st : GameServer K) : ServerAction K → GameServer K
  | .onNewConn accepted => st.onNewConn cfg accepted
  | .onRead s f => st.onRead s f
  | .onReadError s => st.onReadError s
  | .onClosed s => st.onClosed s
  | .gameWorker => st.gameStep cfg
  | .fieldWorker fieldId a => st.onField fieldId fun fw => fw.step (cfg.field fieldId) a

/-- What the event loop calls when: reads end with the stream, the close
callback comes once, after that. -/
def Allowed (st : GameServer K) : ServerAction K → Prop
  | .onRead s _ | .onReadError s => ∃ sess, st.sessions s = some sess ∧ sess.closing = false
  | .onClosed s => ∃ sess, st.sessions s = some sess ∧ sess.closing = true ∧ sess.closed = false
  | .fieldWorker _ a => OwnThread a
  | _ => True

end GameServer

/-- Every interleaving of the threads, from an empty server on. -/
def gameServerSystem {K : Type} [Scalar K] (cfg : ServerConfig K) :
    System (GameServer K) (ServerAction K) :=
  .ofFn .start GameServer.Allowed (GameServer.step cfg)

end MmorpgServer.Game
