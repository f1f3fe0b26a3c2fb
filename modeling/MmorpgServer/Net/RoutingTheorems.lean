/-
MmorpgServer.Net.RoutingTheorems — when a routed payload is safe to decode.

The gate of an in-field session verifies a payload as a `FieldCmd`; the
field worker decodes it as an `Envelope`. The two share the first vtable
slots, so the gate covers the root, its vtable and the one byte of
`pkt_type`, but nothing that lies behind the offset of `pkt`.

* `handleMessage_of_verifyEnvelopeBuffer` — the generated verifier of the
  type that is decoded would be enough.
* `field_payload_decodes_iff` — with the gate there is, the reads stay in
  the payload exactly when the verifier's checks hold of the fields read
  behind that offset.
-/
import MmorpgServer.Net.Routing

namespace MmorpgServer.Net

open MmorpgServer.Lib.FlatBuffers FieldProto

variable {b : Buffer} {session : Option UInt64} {players : UInt64 → Bool}

/-! ## The fields a command is read through -/

/-- The verifier's checks of the fields a move input reads: the id, and
if it is that of the session's player and the player is in the field, the
direction with its two floats. -/
def moveVerify (b : Buffer) (session : Option UInt64) (players : UInt64 → Bool) (cmd : Int) :
    Bool :=
  match session with
  | none => true
  | some playerId =>
    verifyField b cmd FieldCmd.vtEntityId 8 &&
    (FieldCmd.entityId b cmd != some playerId || !players playerId ||
      verifyOffset b cmd FieldCmd.vtDir &&
      verifyTable (fun dir => verifyField b dir Vec2.vtX 4 && verifyField b dir Vec2.vtY 4)
        (FieldCmd.dir b cmd))

/-- The checks of the fields a command is read through. -/
def commandVerify (b : Buffer) (session : Option UInt64) (players : UInt64 → Bool) (cmd : Int) :
    Bool :=
  verifyField b cmd FieldCmd.vtType 1 &&
  (FieldCmd.type b cmd != some fieldCmdTypeMove || moveVerify b session players cmd)

/-- The part of `Envelope.verify` the gate leaves out, for the fields that
are read: the offset of a `FieldCmd` packet and what it leads to. -/
def packetVerify (b : Buffer) (session : Option UInt64) (players : UInt64 → Bool) (env : Int) :
    Bool :=
  Envelope.pktType b env != some packetFieldCmd ||
  verifyOffset b env Envelope.vtPkt &&
  verifyTable (commandVerify b session players) (Envelope.pkt b env)

/-! ## Reads that have a value -/

theorem entityId_isSome (b : Buffer) (cmd : Int) :
    (FieldCmd.entityId b cmd).isSome = verifyField b cmd FieldCmd.vtEntityId 8 := by
  rw [verifyField_eq_isSome b cmd _ _ 0, FieldCmd.entityId, Option.isSome_map]

theorem x_isSome (b : Buffer) (dir : Int) :
    (Vec2.x b dir).isSome = verifyField b dir Vec2.vtX 4 := by
  rw [verifyField_eq_isSome b dir _ _ 0, Vec2.x, Option.isSome_map]

theorem y_isSome (b : Buffer) (dir : Int) :
    (Vec2.y b dir).isSome = verifyField b dir Vec2.vtY 4 := by
  rw [verifyField_eq_isSome b dir _ _ 0, Vec2.y, Option.isSome_map]

/-- A move input whose type has been read stays in the payload exactly
when the checks of its other fields hold. -/
theorem onClientMoveInput_isSome {cmd : Int} (htype : FieldCmd.type b cmd = some fieldCmdTypeMove) :
    (onClientMoveInput b cmd session players).isSome = moveVerify b session players cmd := by
  unfold onClientMoveInput moveVerify
  cases session with
  | none => rfl
  | some playerId =>
    simp only [← entityId_isSome, htype]
    cases hid : FieldCmd.entityId b cmd with
    | none => rfl
    | some entityId =>
      by_cases heq : playerId = entityId
      · subst heq
        cases hp : players playerId with
        | false => simp [hp]
        | true =>
          have hdir := verifyOffset_eq_isSome b cmd FieldCmd.vtDir
          change _ = (FieldCmd.dir b cmd).isSome at hdir
          rw [hdir]
          rcases hd : FieldCmd.dir b cmd with _ | _ | dir
          · simp [hp]
          · simp [verifyTable]
          · simp only [verifyTable, ← x_isSome, ← y_isSome]
            cases hx : Vec2.x b dir <;> cases hy : Vec2.y b dir <;> simp [hp, hx, hy]
      · simp [heq, Ne.symm heq]

/-- From a root table whose `pkt_type` can be read, the handler stays in
the payload exactly when the checks behind the packet's offset hold. -/
theorem handleMessage_isSome {env : Int} {type : Nat} (hroot : getRoot b = some env)
    (htype : Envelope.pktType b env = some type) :
    (handleMessage b session players).isSome = packetVerify b session players env := by
  unfold handleMessage packetVerify Envelope.pktAsFieldCmd
  simp only [hroot, htype]
  by_cases hcmd : type = packetFieldCmd
  · subst hcmd
    have hoff := verifyOffset_eq_isSome b env Envelope.vtPkt
    change _ = (Envelope.pkt b env).isSome at hoff
    rw [hoff]
    rcases hpkt : Envelope.pkt b env with _ | _ | cmd
    · simp [htype, hpkt]
    · simp [htype, hpkt, verifyTable]
    · have hty := verifyField_eq_isSome b cmd FieldCmd.vtType 1 0
      change _ = (FieldCmd.type b cmd).isSome at hty
      simp only [verifyTable, commandVerify, hty]
      cases ht : FieldCmd.type b cmd with
      | none => simp [htype, hpkt, ht]
      | some t =>
        by_cases hmove : t = fieldCmdTypeMove
        · subst hmove
          simp [htype, hpkt, ht, onClientMoveInput_isSome ht]
        · simp [htype, hpkt, ht, hmove]
  · simp [htype, hcmd]

/-! ## The two verifiers -/

/-- The gate: the root of an accepted payload is there, and so is the byte
of its first slot, the type of a command and of a packet alike. -/
theorem pktType_of_isFieldCmd (h : isFieldCmd b = true) :
    ∃ env type, getRoot b = some env ∧ Envelope.pktType b env = some type := by
  obtain ⟨env, hroot, hverify⟩ := verifyBuffer_eq_true.mp h
  simp only [FieldCmd.verify, Bool.and_eq_true] at hverify
  have hslot : verifyField b env FieldCmd.vtType 1 = true := by tauto
  rw [verifyField_eq_isSome b env _ _ 0] at hslot
  obtain ⟨type, htype⟩ := Option.isSome_iff_exists.mp hslot
  exact ⟨env, type, hroot, htype⟩

theorem moveVerify_of_verify {cmd : Int} (h : FieldCmd.verify b cmd = true) :
    moveVerify b session players cmd = true := by
  simp only [FieldCmd.verify, Bool.and_eq_true] at h
  obtain ⟨⟨⟨⟨⟨⟨⟨-, hid⟩, -⟩, -⟩, hdir⟩, hvec⟩, -⟩, -⟩ := h
  unfold moveVerify
  cases session with
  | none => rfl
  | some playerId =>
    have hxy : verifyTable (fun dir => verifyField b dir Vec2.vtX 4 && verifyField b dir Vec2.vtY 4)
        (FieldCmd.dir b cmd) = true := by
      rcases hd : FieldCmd.dir b cmd with _ | _ | dir <;> rw [hd] at hvec
      · cases hvec
      · rfl
      · have hv : Vec2.verify b dir = true := hvec
        simp only [Vec2.verify, Bool.and_eq_true] at hv
        simp [verifyTable, hv.1.2, hv.2]
    simp [hid, hdir, hxy]

/-- **The verifier of the decoded type is enough.** A payload that is a
well-formed `Envelope` is decoded without leaving it, whoever sent it. -/
theorem handleMessage_of_verifyEnvelopeBuffer (h : verifyEnvelopeBuffer b = true)
    (session : Option UInt64) (players : UInt64 → Bool) :
    (handleMessage b session players).isSome = true := by
  obtain ⟨env, hroot, hverify⟩ := verifyBuffer_eq_true.mp h
  simp only [Envelope.verify, Bool.and_eq_true] at hverify
  obtain ⟨⟨⟨-, hslot⟩, hoff⟩, hpacket⟩ := hverify
  rw [verifyField_eq_isSome b env _ _ 0] at hslot
  obtain ⟨type, htype⟩ := Option.isSome_iff_exists.mp hslot
  change Envelope.pktType b env = some type at htype
  rw [handleMessage_isSome hroot htype, packetVerify, htype]
  by_cases hcmd : type = packetFieldCmd
  · subst hcmd
    rw [htype, verifyPacket, if_pos rfl] at hpacket
    have hread : verifyTable (commandVerify b session players) (Envelope.pkt b env) = true := by
      rcases hpkt : Envelope.pkt b env with _ | _ | cmd <;> rw [hpkt] at hpacket
      · cases hpacket
      · rfl
      · have hv : FieldCmd.verify b cmd = true := hpacket
        have hmove : moveVerify b session players cmd = true := moveVerify_of_verify hv
        simp only [FieldCmd.verify, Bool.and_eq_true] at hv
        have hty : verifyField b cmd FieldCmd.vtType 1 = true := by tauto
        simp [verifyTable, commandVerify, hty, hmove]
    simp [hoff, hread]
  · simp [hcmd]

/-! ## Routed payloads -/

theorem isFieldCmd_of_route {payload : Buffer} (h : route .inField payload = .fieldWorker) :
    isFieldCmd payload = true := by
  unfold route at h
  rw [if_pos rfl] at h
  split at h
  · cases h
  · split at h
    · assumption
    · cases h

/-- **When a routed payload is safe to decode.** For every payload an
in-field session hands to its field worker, every session and every set
of players: the reads of the worker stay in the payload exactly when the
payload is no `FieldCmd` packet, or the verifier's checks hold of the
packet's offset and of the fields read behind it. -/
theorem field_payload_decodes_iff (payload : Buffer) (session : Option UInt64)
    (players : UInt64 → Bool) (h : route .inField payload = .fieldWorker) :
    (handleMessage payload session players).isSome = true ↔
      verifyBuffer payload (packetVerify payload session players) = true := by
  obtain ⟨env, type, hroot, htype⟩ := pktType_of_isFieldCmd (isFieldCmd_of_route h)
  rw [handleMessage_isSome hroot htype, verifyBuffer, hroot]

/-- An `Envelope` with the move of player 7 along the first axis. -/
def moveEnvelope : Buffer :=
  [12, 0, 0, 0,
    -- the vtable of the envelope, and the envelope: its type and the offset of its packet
    8, 0, 12, 0, 4, 0, 8, 0,
    8, 0, 0, 0, 1, 0, 0, 0, 20, 0, 0, 0,
    -- the vtable of the command, and the command: type, id and the offset of its direction
    14, 0, 20, 0, 4, 0, 0, 0, 8, 0, 0, 0, 16, 0, 0, 0,
    16, 0, 0, 0, 2, 0, 0, 0, 7, 0, 0, 0, 0, 0, 0, 0, 12, 0, 0, 0,
    -- the vtable of the direction, and the direction
    8, 0, 12, 0, 4, 0, 8, 0,
    8, 0, 0, 0, 0, 0, 128, 63, 0, 0, 0, 0]

/-- A client's move is routed, is decoded and is safe to decode. -/
theorem field_payload_decodes_iff_move :
    route .inField moveEnvelope = .fieldWorker ∧
    handleMessage moveEnvelope (some 7) (fun id => id == 7) =
      some (some ⟨7, 0x3f800000, 0⟩) ∧
    ((handleMessage moveEnvelope (some 7) fun id => id == 7).isSome = true ↔
      verifyBuffer moveEnvelope (packetVerify moveEnvelope (some 7) fun id => id == 7) = true) := by
  have hroute : route .inField moveEnvelope = .fieldWorker := by decide
  exact ⟨hroute, by decide, field_payload_decodes_iff moveEnvelope (some 7) _ hroute⟩

/-- A bare `FieldCmd` of type `Leave` and entity type `Player`, the last
two of its eighteen bytes. -/
def leaveCmd : Buffer :=
  [12, 0, 0, 0,
    8, 0, 6, 0, 4, 0, 5, 0,
    8, 0, 0, 0, 1, 0]

/-- The gate accepts it and routes it to the field worker, which takes its
type for the packet type and reads the packet's offset past the end. -/
theorem field_payload_decodes_leave :
    route .inField leaveCmd = .fieldWorker ∧ verifyEnvelopeBuffer leaveCmd = false ∧
    handleMessage leaveCmd (some 7) (fun id => id == 7) = none := by
  decide

end MmorpgServer.Net
