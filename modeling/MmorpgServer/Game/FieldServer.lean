/-
MmorpgServer.Game.FieldServer — the server with the queues of its field
workers.

In `GameServer` a field worker is handed any command at any time. Here a
command comes from where it comes from in the source: the network thread
reads it off a session in `InField` and pushes it to the worker of the
session's field (`SendToFieldWorker`), the game worker forwards a
`SkillCmd`, and the field worker's thread handles the front of its queue
(`FieldWorker::handle_message`). It asks the session for its player then,
not when the command was read.

What a payload in the queue says is up to the client: it is part of the
action that reads it.
-/
import MmorpgServer.Game.GameServer

namespace MmorpgServer.Game

open MmorpgServer.Lib MmorpgServer.Field MmorpgServer.Net MmorpgServer.Worker Scalar

/-- A `NetMessage` in the queue of a field worker: `MessageType::Custom`,
with the entity and direction if it is a `Move` command, or
`MessageType::SkillCmd`. -/
inductive FieldMessage (K : Type) where
  | custom (session : SessionId) (move : Option (EntityId × Option (Vec2 K)))
  | skill (session : SessionId) (targetId : EntityId)

/-- The server and the queues. -/
structure FieldServer (K : Type) where
  server : GameServer K
  fieldQueue : FieldId → List (FieldMessage K) := fun _ => []

/-- A step of a thread. -/
inductive FieldServerAction (K : Type) where
  | onNewConn (accepted : Bool)
  | onRead (s : SessionId) (f : Frame) (move : Option (EntityId × Option (Vec2 K)))
  | onReadError (s : SessionId)
  | onClosed (s : SessionId)
  | gameWorker
  /-- a field worker handles the front of its queue -/
  | handleMessage (fieldId : FieldId)
  | updateWorld (fieldId : FieldId) (policy : List K → Fin 5 → K) (dt : K)

namespace FieldServer

variable {K : Type}

/-- `SendToFieldWorker`. -/
def push (st : FieldServer K) (fieldId : FieldId) (msg : FieldMessage K) : FieldServer K :=
  if (st.server.fields fieldId).isSome then
    { st with
      fieldQueue := Function.update st.fieldQueue fieldId (st.fieldQueue fieldId ++ [msg]) }
  else st

/-- `session->player_id()`. -/
def playerIdOf (st : FieldServer K) (s : SessionId) : Option EntityId :=
  (st.server.sessions s).map Session.playerId

/-- `on_read`, for one frame. -/
def onRead (st : FieldServer K) (s : SessionId) (f : Frame)
    (move : Option (EntityId × Option (Vec2 K))) : FieldServer K :=
  let pushed :=
    match st.server.sessions s with
    | none => st
    | some sess =>
      match f.route sess.state with
      | .fieldWorker => st.push sess.fieldId (.custom s move)
      | _ => st
  { pushed with server := st.server.onRead s f }

variable [Scalar K]

/-- A step of the game worker; a skill of a player in a field goes on to
the field's worker. -/
def gameStep (cfg : ServerConfig K) (st : FieldServer K) : FieldServer K :=
  let pushed :=
    match st.server.pc, st.server.queue with
    | .idle, ⟨s, .skillCmd _ targetId⟩ :: _ =>
      match st.server.sessions s with
      | none => st
      | some sess =>
        if sess.fieldId = 0 ∨ sess.playerId = 0 then st
        else st.push sess.fieldId (.skill s targetId)
    | _, _ => st
  { pushed with server := st.server.gameStep cfg }

/-- What `handle_message` makes of a message, if anything. -/
def fieldAction (st : FieldServer K) : FieldMessage K → Option (FieldAction K)
  | .custom _ none => none
  | .custom s (some (entityId, dir)) => some (.moveInput (st.playerIdOf s) entityId dir)
  | .skill s targetId => some (.skill (st.playerIdOf s) targetId)

/-- The worker of a field handles the front of its queue. -/
def handleMessage (cfg : ServerConfig K) (st : FieldServer K) (fieldId : FieldId) :
    FieldServer K :=
  match st.fieldQueue fieldId with
  | [] => st
  | msg :: rest =>
    let popped := { st with fieldQueue := Function.update st.fieldQueue fieldId rest }
    match st.fieldAction msg with
    | none => popped
    | some a => { popped with server := st.server.step cfg (.fieldWorker fieldId a) }

def step (cfg : ServerConfig K) (st : FieldServer K) : FieldServerAction K → FieldServer K
  | .onNewConn accepted => { st with server := st.server.step cfg (.onNewConn accepted) }
  | .onRead s f move => st.onRead s f move
  | .onReadError s => { st with server := st.server.step cfg (.onReadError s) }
  | .onClosed s => { st with server := st.server.step cfg (.onClosed s) }
  | .gameWorker => st.gameStep cfg
  | .handleMessage fieldId => st.handleMessage cfg fieldId
  | .updateWorld fieldId policy dt =>
    { st with server := st.server.step cfg (.fieldWorker fieldId (.updateWorld policy dt)) }

/-- What the event loop calls when. -/
def Allowed (st : FieldServer K) : FieldServerAction K → Prop
  | .onRead s f _ => st.server.Allowed (.onRead s f)
  | .onReadError s => st.server.Allowed (.onReadError s)
  | .onClosed s => st.server.Allowed (.onClosed s)
  | _ => True

end FieldServer

/-- Every interleaving of the network thread, the game worker and the field
workers, from an empty server on. -/
def fieldServerSystem {K : Type} [Scalar K] (cfg : ServerConfig K) :
    System (FieldServer K) (FieldServerAction K) :=
  .ofFn { server := .start } FieldServer.Allowed (FieldServer.step cfg)

end MmorpgServer.Game
