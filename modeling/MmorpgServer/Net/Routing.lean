/-
MmorpgServer.Net.Routing — where a session sends a payload, and what a
field worker reads of it.

* `FieldProto`, `GameProto` — the tables of `field_generated.h` and
  `game_generated.h`: vtable offsets, the accessors the server uses and
  the generated `Verify` of every type.
* `isEnvelope`, `isSkillEnvelope`, `isFieldCmd`, `route` — the routing of
  `Session::on_read`.
* `handleMessage`, `onClientMoveInput` — the reads of the field worker, in
  their order. A read outside the payload has no value, and neither has
  the function then.
-/
import MmorpgServer.Lib.FlatBuffers

namespace MmorpgServer.Net

open MmorpgServer.Lib.FlatBuffers

/-! ## `field_generated.h` -/

namespace FieldProto

def packetFieldCmd : Nat := 1
def packetCombatEvent : Nat := 2
def packetAiStateEvent : Nat := 3
def packetStatEvent : Nat := 4

def fieldCmdTypeMove : Nat := 2

/-- `Vec2`: two floats, kept as the bits read. -/
def Vec2.vtX : Nat := 4
def Vec2.vtY : Nat := 6

def Vec2.x (b : Buffer) (t : Int) : Option UInt32 := (getField b t vtX 4 0).map UInt32.ofNat
def Vec2.y (b : Buffer) (t : Int) : Option UInt32 := (getField b t vtY 4 0).map UInt32.ofNat

def Vec2.verify (b : Buffer) (t : Int) : Bool :=
  verifyTableStart b t && verifyField b t vtX 4 && verifyField b t vtY 4

def FieldCmd.vtType : Nat := 4
def FieldCmd.vtEntityType : Nat := 6
def FieldCmd.vtEntityId : Nat := 8
def FieldCmd.vtPos : Nat := 10
def FieldCmd.vtDir : Nat := 12
def FieldCmd.vtPrefab : Nat := 14

def FieldCmd.type (b : Buffer) (t : Int) : Option Nat := getField b t vtType 1 0

def FieldCmd.entityId (b : Buffer) (t : Int) : Option UInt64 :=
  (getField b t vtEntityId 8 0).map UInt64.ofNat

def FieldCmd.pos (b : Buffer) (t : Int) : Option (Option Int) := getPointer b t vtPos
def FieldCmd.dir (b : Buffer) (t : Int) : Option (Option Int) := getPointer b t vtDir
def FieldCmd.prefab (b : Buffer) (t : Int) : Option (Option Int) := getPointer b t vtPrefab

def FieldCmd.verify (b : Buffer) (t : Int) : Bool :=
  verifyTableStart b t &&
  verifyField b t vtType 1 &&
  verifyField b t vtEntityType 1 &&
  verifyField b t vtEntityId 8 &&
  verifyOffset b t vtPos && verifyTable (Vec2.verify b) (FieldCmd.pos b t) &&
  verifyOffset b t vtDir && verifyTable (Vec2.verify b) (FieldCmd.dir b t) &&
  verifyOffset b t vtPrefab && verifyString b (FieldCmd.prefab b t)

def CombatEvent.verify (b : Buffer) (t : Int) : Bool :=
  verifyTableStart b t && verifyField b t 4 1 && verifyField b t 6 8 && verifyField b t 8 1 &&
  verifyField b t 10 8 && verifyField b t 12 4 && verifyField b t 14 4

def AiStateEvent.verify (b : Buffer) (t : Int) : Bool :=
  verifyTableStart b t && verifyField b t 4 1 && verifyField b t 6 8 && verifyField b t 8 1

def StatEvent.verify (b : Buffer) (t : Int) : Bool :=
  verifyTableStart b t && verifyField b t 4 1 && verifyField b t 6 8 && verifyField b t 8 4 &&
  verifyField b t 10 4 && verifyField b t 12 4 && verifyField b t 14 4

def Envelope.vtPktType : Nat := 4
def Envelope.vtPkt : Nat := 6

def Envelope.pktType (b : Buffer) (t : Int) : Option Nat := getField b t vtPktType 1 0
def Envelope.pkt (b : Buffer) (t : Int) : Option (Option Int) := getPointer b t vtPkt

/-- `pkt_as_FieldCmd`: the type is read once more. -/
def Envelope.pktAsFieldCmd (b : Buffer) (t : Int) : Option (Option Int) := do
  if (← Envelope.pktType b t) = packetFieldCmd then Envelope.pkt b t else some none

/-- `VerifyPacket`: the `Verify` of the table the type names. -/
def verifyPacket (b : Buffer) (obj : Option (Option Int)) : Option Nat → Bool
  | none => false
  | some type =>
    if type = packetFieldCmd then verifyTable (FieldCmd.verify b) obj
    else if type = packetCombatEvent then verifyTable (CombatEvent.verify b) obj
    else if type = packetAiStateEvent then verifyTable (AiStateEvent.verify b) obj
    else if type = packetStatEvent then verifyTable (StatEvent.verify b) obj
    else true

def Envelope.verify (b : Buffer) (t : Int) : Bool :=
  verifyTableStart b t && verifyField b t vtPktType 1 && verifyOffset b t vtPkt &&
  verifyPacket b (Envelope.pkt b t) (Envelope.pktType b t)

/-- `VerifyEnvelopeBuffer`. -/
def verifyEnvelopeBuffer (b : Buffer) : Bool := verifyBuffer b (Envelope.verify b)

end FieldProto

/-! ## `game_generated.h` -/

namespace GameProto

def packetSkillCmd : Nat := 6

def Ping.verify (b : Buffer) (t : Int) : Bool := verifyTableStart b t && verifyField b t 4 8

def Login.verify (b : Buffer) (t : Int) : Bool :=
  verifyTableStart b t && verifyOffset b t 4 && verifyString b (getPointer b t 4) &&
  verifyOffset b t 6 && verifyString b (getPointer b t 6)

def EnterField.verify (b : Buffer) (t : Int) : Bool :=
  verifyTableStart b t && verifyField b t 4 4

def LoginAck.verify (b : Buffer) (t : Int) : Bool :=
  verifyTableStart b t && verifyField b t 4 1 && verifyField b t 6 8 &&
  verifyOffset b t 8 && verifyString b (getPointer b t 8) && verifyField b t 10 4

def EnterFieldAck.verify (b : Buffer) (t : Int) : Bool :=
  verifyTableStart b t && verifyField b t 4 4 && verifyField b t 6 8

def SkillCmd.verify (b : Buffer) (t : Int) : Bool :=
  verifyTableStart b t && verifyField b t 4 1 && verifyField b t 6 8

def SkillCmdAck.verify (b : Buffer) (t : Int) : Bool :=
  verifyTableStart b t && verifyField b t 4 1 && verifyField b t 6 8 && verifyField b t 8 1 &&
  verifyField b t 10 1

def verifyPacket (b : Buffer) (obj : Option (Option Int)) : Option Nat → Bool
  | none => false
  | some 1 => verifyTable (Ping.verify b) obj
  | some 2 => verifyTable (Login.verify b) obj
  | some 3 => verifyTable (EnterField.verify b) obj
  | some 4 => verifyTable (LoginAck.verify b) obj
  | some 5 => verifyTable (EnterFieldAck.verify b) obj
  | some 6 => verifyTable (SkillCmd.verify b) obj
  | some 7 => verifyTable (SkillCmdAck.verify b) obj
  | some _ => true

def Envelope.pktType (b : Buffer) (t : Int) : Option Nat := getField b t 4 1 0

def Envelope.verify (b : Buffer) (t : Int) : Bool :=
  verifyTableStart b t && verifyField b t 4 1 && verifyOffset b t 6 &&
  verifyPacket b (getPointer b t 6) (Envelope.pktType b t)

end GameProto

/-! ## The session -/

inductive SessionState
  | connected | loggedIn | inField
  deriving DecidableEq, Repr

/-- Where `on_read` hands a payload on. -/
inductive Route
  | gameWorker | fieldWorker | dropped
  deriving DecidableEq, Repr

def isEnvelope (payload : Buffer) : Bool := verifyBuffer payload (GameProto.Envelope.verify payload)

def isSkillEnvelope (payload : Buffer) : Bool :=
  isEnvelope payload &&
    (getRoot payload).bind (GameProto.Envelope.pktType payload) == some GameProto.packetSkillCmd

def isFieldCmd (payload : Buffer) : Bool := verifyBuffer payload (FieldProto.FieldCmd.verify payload)

/-- The routing of `on_read`, for a session with a game worker. -/
def route (state : SessionState) (payload : Buffer) : Route :=
  if state = .inField then
    if isSkillEnvelope payload then .gameWorker
    else if isFieldCmd payload then .fieldWorker
    else .dropped
  else if isEnvelope payload then .gameWorker
  else .dropped

/-! ## The field worker -/

open FieldProto

/-- A move input that reached its player: who, and the direction as the
bits of its floats. -/
structure MoveInput where
  entityId : UInt64
  dx : UInt32
  dy : UInt32
  deriving DecidableEq, Repr

/-- `FieldWorker::on_client_move_input` up to the direction it reads.
`session` is the player of the session, if there is a session; `players`
are the keys of `players_`. The inner `none` is an early return. -/
def onClientMoveInput (b : Buffer) (cmd : Int) (session : Option UInt64)
    (players : UInt64 → Bool) : Option (Option MoveInput) := do
  match session with
  | none => return none
  | some playerId =>
    if playerId ≠ (← FieldCmd.entityId b cmd) then return none
    if (← FieldCmd.type b cmd) ≠ fieldCmdTypeMove then return none
    let entityId ← FieldCmd.entityId b cmd
    if !players entityId then return none
    match ← FieldCmd.dir b cmd with
    | none => return none
    | some dir =>
      let dx ← Vec2.x b dir
      let dy ← Vec2.y b dir
      return some ⟨entityId, dx, dy⟩

/-- `FieldWorker::handle_message` for a message of type `Custom`, which is
how `on_read` marks what it routes to a field worker. -/
def handleMessage (b : Buffer) (session : Option UInt64) (players : UInt64 → Bool) :
    Option (Option MoveInput) := do
  let env ← getRoot b
  if (← Envelope.pktType b env) ≠ packetFieldCmd then return none
  match ← Envelope.pktAsFieldCmd b env with
  | none => return none
  | some cmd =>
    if (← FieldCmd.type b cmd) = fieldCmdTypeMove then onClientMoveInput b cmd session players
    else return none

end MmorpgServer.Net
