/-
MmorpgServer.Game.PlayerManager — `PlayerManager` of
`game/PlayerManager.h` and `game/PlayerManager.cpp`: the players who have
logged in, by id and by session.

Sessions are any type `S`. A session pointer is an `Option S`, `none` for
`nullptr`; it is the key of `idBySession_` as well as what a player holds.
Of a `Player` the object itself is modelled here, what changes while it
plays is in `Worker.Player`.
-/
import MmorpgServer.Field.AoiWorld
import MmorpgServer.Lib.TransitionSystem

namespace MmorpgServer.Game

open MmorpgServer.Lib MmorpgServer.Field

universe u

/-- `Player`: what its constructor sets. -/
structure Player (S : Type u) where
  id : EntityId
  session : Option S
  name : String
  prefabName : String := "Paladin"
  deriving DecidableEq, Repr

/-- `PlayerManager`. -/
structure PlayerManager (S : Type u) where
  playersById : EntityId → Option (Player S) := fun _ => none
  idBySession : Option S → Option EntityId := fun _ => none

namespace PlayerManager

variable {S : Type u} [DecidableEq S]

/-- `get_by_session`. -/
def getBySession (pm : PlayerManager S) (sess : Option S) : Option (Player S) :=
  match pm.idBySession sess with
  | none => none
  | some id => pm.playersById id

/-- `get_by_id`. -/
def getById (pm : PlayerManager S) (id : EntityId) : Option (Player S) := pm.playersById id

/-- `create_player`. -/
def createPlayer (pm : PlayerManager S) (id : EntityId) (name : String) (sess : Option S) :
    PlayerManager S × Player S :=
  let p : Player S := { id, session := sess, name }
  ({ playersById := Function.update pm.playersById id (some p)
     idBySession := Function.update pm.idBySession sess (some id) }, p)

/-- `remove_by_session`. -/
def removeBySession (pm : PlayerManager S) (sess : Option S) : PlayerManager S :=
  match pm.idBySession sess with
  | none => pm
  | some id =>
    { playersById := Function.update pm.playersById id none
      idBySession := Function.update pm.idBySession sess none }

/-- `remove_by_id`. -/
def removeById (pm : PlayerManager S) (id : EntityId) : PlayerManager S :=
  match pm.playersById id with
  | none => pm
  | some p =>
    { playersById := Function.update pm.playersById id none
      idBySession :=
        if p.session.isSome then Function.update pm.idBySession p.session none
        else pm.idBySession }

end PlayerManager

/-! ## Runs -/

/-- The calls that change a `PlayerManager`. -/
inductive PlayerManagerAction (S : Type u) where
  | createPlayer (id : EntityId) (name : String) (sess : Option S)
  | removeBySession (sess : Option S)
  | removeById (id : EntityId)

/-- A `PlayerManager` and the ids it has been given. -/
structure PlayerManagerState (S : Type u) where
  pm : PlayerManager S := {}
  used : List EntityId := []

variable {S : Type u} [DecidableEq S]

def PlayerManagerState.step (st : PlayerManagerState S) : PlayerManagerAction S →
    PlayerManagerState S
  | .createPlayer id name sess => ⟨(st.pm.createPlayer id name sess).1, id :: st.used⟩
  | .removeBySession sess => { st with pm := st.pm.removeBySession sess }
  | .removeById id => { st with pm := st.pm.removeById id }

/-- No id is given to two players. -/
def PlayerManagerState.Fresh (st : PlayerManagerState S) : PlayerManagerAction S → Prop
  | .createPlayer id _ _ => id ∉ st.used
  | _ => True

/-- Every sequence of calls. -/
def playerManagerSystem (S : Type u) [DecidableEq S] :
    System (PlayerManagerState S) (PlayerManagerAction S) :=
  .ofFn {} PlayerManagerState.Fresh PlayerManagerState.step

end MmorpgServer.Game
