/-
MmorpgServer.Field.FieldAoiSystem — the field's wrapper of the index,
`field/FieldAoiSystem.h` and `field/FieldAoiSystem.cpp`.

The wrapper installs a callback on the index that keeps a second table,
`watchers_`: for every subject the vector of the players that were told
about it, maintained event by event. `forEachWatcher` broadcasts over
that vector, not over the watcher sets of the index. Once the field is
initialised every event is also handed on to `sendFunc_`.

The callback touches nothing of the index, so the events of one call are
handled after the call, in their order.
-/
import MmorpgServer.Field.AoiWorld

namespace MmorpgServer.Field

open MmorpgServer.Lib

/-- `FieldAoiSystem`. -/
structure FieldAoiSystem (P : Type) where
  aoi : AoiWorld P := {}
  sendFunc : Bool := false
  watchers : EntityId → Option (List EntityId) := fun _ => none
  initialized : Bool := false

namespace FieldAoiSystem

variable {P : Type}

/-- `set_send_func`, which installs the callback on the index. -/
def setSendFunc (f : FieldAoiSystem P) : FieldAoiSystem P :=
  { f with sendFunc := true, aoi := f.aoi.setSendCallback }

/-- `set_initialized`. -/
def setInitialized (f : FieldAoiSystem P) (v : Bool) : FieldAoiSystem P :=
  { f with initialized := v }

/-- What an event does to the vector of its subject. -/
def updateVec (vec : List EntityId) (watcherId : EntityId) : AoiEventType → List EntityId
  | .snapshot | .enter | .move => if watcherId ∈ vec then vec else vec ++ [watcherId]
  | .leave => vec.erase watcherId

/-- The lambda of `setup_aoi_callback`: keep `watchers_`, and hand the
event on once the field is initialised. -/
def callback (f : FieldAoiSystem P) (d : Delivery P) : FieldAoiSystem P × List (Delivery P) :=
  let vec := (f.watchers d.ev.subjectId).getD []
  let vec' := updateVec vec d.watcherId d.ev.type
  ({ f with watchers := Function.update f.watchers d.ev.subjectId (some vec') },
    if !f.initialized || !f.sendFunc then [] else [d])

/-- A call of the index, its events handled by the callback. -/
def handle (f : FieldAoiSystem P) (r : AoiWorld P × List (Delivery P)) :
    FieldAoiSystem P × List (Delivery P) :=
  emitLoop callback { f with aoi := r.1 } r.2

/-- `FieldAoiSystem::add_entity`. -/
def addEntity (cfg : AoiConfig P) (f : FieldAoiSystem P) (id : EntityId) (isPlayer : Bool)
    (pos : P) : FieldAoiSystem P × List (Delivery P) :=
  f.handle (f.aoi.addEntity cfg id isPlayer pos)

/-- `FieldAoiSystem::move_entity`. -/
def moveEntity (cfg : AoiConfig P) (f : FieldAoiSystem P) (id : EntityId) (pos : P) :
    FieldAoiSystem P × List (Delivery P) :=
  f.handle (f.aoi.moveEntity cfg id pos)

/-- `FieldAoiSystem::remove_entity`. -/
def removeEntity (cfg : AoiConfig P) (f : FieldAoiSystem P) (id : EntityId) :
    FieldAoiSystem P × List (Delivery P) :=
  let r := f.handle (f.aoi.removeEntity cfg id)
  ({ r.1 with watchers := Function.update r.1.watchers id none }, r.2)

/-- `FieldAoiSystem::for_each_watcher`: the ids `fn` is called with, in
order. -/
def forEachWatcher (f : FieldAoiSystem P) (subjectId : EntityId) : List EntityId :=
  match f.watchers subjectId with
  | none => []
  | some vec => vec

end FieldAoiSystem

end MmorpgServer.Field
