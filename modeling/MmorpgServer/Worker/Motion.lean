/-
MmorpgServer.Worker.Motion — what moves the players of a field.

A field worker does many things, but the way a player goes depends on
little: its own position and move state, the clock and the accumulated
frame time. `Motions` is that much of a field worker and `Motions.step`
what an action makes of it. Here players move side by side: there is no
order, no index, no session and no monster.

This is not part of the program. `step_motions`, in
`Worker.MotionTheorems`, connects it to the field worker. `HasMoved` says
of the history of a field worker that it has moved a player.
-/
import MmorpgServer.Worker.FieldWorker

namespace MmorpgServer.Worker

open MmorpgServer.Lib MmorpgServer.Field Scalar

variable {K : Type}

/-! ## One player -/

/-- Where a player is and how it moves. -/
structure Motion (K : Type) where
  pos : Vec2 K
  moveState : PlayerMoveState K
  deriving DecidableEq, Repr

def Player.motion (p : Player K) : Motion K := ⟨p.pos, p.moveState⟩

@[simp] theorem Player.motion_pos (p : Player K) : p.motion.pos = p.pos := rfl

@[simp] theorem Player.motion_moveState (p : Player K) : p.motion.moveState = p.moveState := rfl

namespace Motion

variable [Scalar K]

/-- A player that stands still. -/
def halt (m : Motion K) : Motion K :=
  { m with moveState := { m.moveState with
      moving := false, dir := ⟨lit 0, lit 0⟩, speed := lit 0 } }

/-- A direction sent by the client of the player. -/
def input (worldTime : K) (m : Motion K) (d : Vec2 K) : Motion K :=
  let len2 := d.x * d.x + d.y * d.y
  let heard : Motion K := { m with moveState := { m.moveState with lastInputTime := worldTime } }
  if len2 < lit 0.0001 then
    if m.moveState.moving then heard.halt else heard
  else
    let invLen := lit 1 / sqrt len2
    { heard with moveState := { heard.moveState with
        moving := true, dir := ⟨d.x * invLen, d.y * invLen⟩, speed := lit 4.5 } }

/-- A player moves on for a time `step`. -/
def advance (step : K) (m : Motion K) : Motion K :=
  let mv := m.moveState
  { m with pos :=
    ⟨m.pos.x + mv.dir.x * mv.speed * step, m.pos.y + mv.dir.y * mv.speed * step⟩ }

/-- One tick: a player not heard of for too long stops. -/
def tick (worldTime step : K) (m : Motion K) : Motion K :=
  if m.moveState.moving ∧ lit 0.5 < worldTime - m.moveState.lastInputTime then m.halt
  else if m.moveState.moving then m.advance step
  else m

end Motion

/-! ## All players -/

/-- The players of a field, and the clocks their ticks go by. -/
structure Motions (K : Type) where
  players : Finset EntityId
  motion : EntityId → Motion K
  worldTime : K
  playerAcc : K

namespace Motions

variable [Scalar K]

/-- Every player of the field moves on. -/
def tick (step : K) (ms : Motions K) : Motions K :=
  { ms with motion := fun pid =>
      if pid ∈ ms.players then (ms.motion pid).tick ms.worldTime step else ms.motion pid }

/-- A tick and its share of the frame time. -/
def pass (ms : Motions K) : Motions K :=
  { ms.tick playerStep with playerAcc := ms.playerAcc - playerStep }

/-- The passes of one frame, with `loops` left. -/
def playerLoop : Nat → Motions K → Motions K
  | 0, ms => ms
  | loops + 1, ms => if playerStep ≤ ms.playerAcc then playerLoop loops ms.pass else ms

/-- A frame. -/
def frame (dt : K) (ms : Motions K) : Motions K :=
  if dt ≤ lit 0 then ms
  else playerLoop 5 { ms with worldTime := ms.worldTime + dt, playerAcc := ms.playerAcc + dt }

/-- The input of a session's player, if it is taken. -/
def accepted (ms : Motions K) (session : Option EntityId) (entityId : EntityId)
    (dir : Option (Vec2 K)) : Option (Vec2 K) :=
  if session = some entityId ∧ entityId ∈ ms.players then dir else none

def setMotion (ms : Motions K) (pid : EntityId) (m : Motion K) : Motions K :=
  { ms with motion := Function.update ms.motion pid m }

def step (ms : Motions K) : FieldAction K → Motions K
  | .addPlayer pid p => { ms.setMotion pid p.motion with players := insert pid ms.players }
  | .removePlayer pid => { ms with players := ms.players.erase pid }
  | .moveInput session entityId dir =>
    match ms.accepted session entityId dir with
    | none => ms
    | some d => ms.setMotion entityId ((ms.motion entityId).input ms.worldTime d)
  | .updateWorld _ dt => ms.frame dt
  | .skill _ _ | .setSession _ _ | .setRegistered _ _ => ms

end Motions

/-- The players of a field alone, from an empty field on. -/
def motionSystem [Scalar K] : System (Motions K) (FieldAction K) where
  init ms := ms.players = ∅ ∧ ms.worldTime = lit 0 ∧ ms.playerAcc = lit 0
  step ms a ms' := ms' = ms.step a

/-- What a field worker knows of its players' motion. -/
def FieldWorker.motions (fw : FieldWorker K) : Motions K where
  players := fw.players
  motion pid := (fw.player pid).motion
  worldTime := fw.worldTime
  playerAcc := fw.playerAcc

/-! ## Having moved -/

variable [Scalar K]

/-- A tick of the players moves this one on. -/
def FieldWorker.Goes (fw : FieldWorker K) (pid : EntityId) : Prop :=
  pid ∈ fw.players ∧ (fw.player pid).moveState.moving = true ∧
    ¬ lit 0.5 < fw.worldTime - (fw.player pid).moveState.lastInputTime

instance (fw : FieldWorker K) (pid : EntityId) : Decidable (fw.Goes pid) :=
  inferInstanceAs (Decidable (_ ∧ _ ∧ _))

/-- The step moves the player: `update_world` comes to a tick of the
players, at which it moves and was heard of not too long ago. -/
def FieldAction.Moves (fw : FieldWorker K) (pid : EntityId) : FieldAction K → Prop
  | .updateWorld _ dt => ¬ dt ≤ lit 0 ∧ playerStep ≤ fw.playerAcc + dt ∧
      ({ fw with worldTime := fw.worldTime + dt } : FieldWorker K).Goes pid
  | _ => False

/-- A step of the history moved the player, and none after it `resets`
this. -/
def HasMoved (resets : FieldAction K → Prop) (pid : EntityId) :
    List (FieldWorker K × FieldAction K) → Prop
  | [] => False
  | (fw, a) :: l => ¬ resets a ∧ (a.Moves fw pid ∨ HasMoved resets pid l)

end MmorpgServer.Worker
