/-
MmorpgServer.Field.AoiWorld — the area-of-interest index of
`field/AoiWorld.h` and `field/AoiWorld.cpp`.

The world is cut into square sectors. An entity stands in one sector; a
player also watches the `(2R+1) × (2R+1)` block of sectors around its own
(its view window). The index keeps three redundant tables — the sector of
each entity, the entities of each sector, the watchers of each sector —
and reports every change of visibility through `sendCb_` as a list of
`Delivery`, in the order of the calls of the callback.

Reading the model against the source:

* `unordered_map` is a partial function, `unordered_set` a `Finset`. The
  order in which a hash container happens to be iterated is an input
  (`AoiConfig.order`, one `AoiOrder` per call), so every theorem holds for
  every order.
* Positions are abstract (`P`). All the code asks of a position is the
  integer cell `floor(pos / sectorSize_)` (`AoiConfig.cell`), which
  `worldToSector` clamps at zero as `world_to_sector` does.
* `sendCb_` is never called back into the index, so its calls are
  collected and returned.
* Ids are natural numbers; every `uint64_t` is one.
-/
import Mathlib.Data.Finset.Image
import Mathlib.Data.Int.Interval
import Mathlib.Data.Prod.Lex
import Mathlib.Logic.Function.Basic
import MmorpgServer.Lib.Enumeration
import MmorpgServer.Lib.Loop

namespace MmorpgServer.Field

open MmorpgServer.Lib

abbrev EntityId := Nat

/-- `AoiSectorCoord`. -/
structure AoiSectorCoord where
  x : Int
  y : Int
  deriving DecidableEq, Repr

/-- Lexicographic key of a sector. -/
def AoiSectorCoord.key (c : AoiSectorCoord) : Int ×ₗ Int := toLex (c.x, c.y)

theorem AoiSectorCoord.key_injective : Function.Injective AoiSectorCoord.key := by
  rintro ⟨x, y⟩ ⟨x', y'⟩ h
  simpa [AoiSectorCoord.key] using h

/-- `AoiEvent::Type`. -/
inductive AoiEventType where
  | enter
  | leave
  | move
  | snapshot
  deriving DecidableEq, Repr

/-- `AoiEvent`. -/
structure AoiEvent (P : Type) where
  type : AoiEventType
  subjectId : EntityId
  position : P
  deriving DecidableEq, Repr

/-- One call `sendCb_(watcherId, ev)`. -/
structure Delivery (P : Type) where
  watcherId : EntityId
  ev : AoiEvent P
  deriving DecidableEq, Repr

/-- `AoiWorld::Entity`. -/
structure Entity (P : Type) where
  id : EntityId
  isPlayer : Bool
  pos : P
  sector : AoiSectorCoord
  subscribed : Finset AoiSectorCoord := ∅

/-- `AoiWorld::Sector`. -/
structure Sector where
  entities : Finset EntityId := ∅
  watchers : Finset EntityId := ∅

/-- The iteration orders one call meets: of the entities and of the
watchers of each sector, of the player's subscribed set and of the set
rebuilt for it. -/
structure AoiOrder where
  entities : AoiSectorCoord → Enumeration EntityId
  watchers : AoiSectorCoord → Enumeration EntityId
  subscribed : Enumeration AoiSectorCoord
  newSet : Enumeration AoiSectorCoord

/-- What does not change after construction: the cell of a position, the
constructor's radius argument, and the iteration order of call `n`. -/
structure AoiConfig (P : Type) where
  cell : P → Int × Int
  viewRadiusSectors : Int
  order : Nat → AoiOrder

namespace AoiConfig

variable {P : Type}

/-- `viewRadius_`, as the constructor sets it. -/
def viewRadius (cfg : AoiConfig P) : Int :=
  if 0 < cfg.viewRadiusSectors then cfg.viewRadiusSectors else 1

/-- `AoiWorld::world_to_sector`. -/
def worldToSector (cfg : AoiConfig P) (pos : P) : AoiSectorCoord :=
  let sx := (cfg.cell pos).1
  let sy := (cfg.cell pos).2
  ⟨if sx < 0 then 0 else sx, if sy < 0 then 0 else sy⟩

/-- `for (int d = -viewRadius_; d <= viewRadius_; ++d)`. -/
def offsets (cfg : AoiConfig P) : List Int :=
  (List.range (2 * cfg.viewRadius + 1).toNat).map fun (i : Nat) => (i : Int) - cfg.viewRadius

/-- `AoiWorld::collect_view_sectors`, of an entity standing in `sector`. -/
def collectViewSectors (cfg : AoiConfig P) (sector : AoiSectorCoord) : List AoiSectorCoord :=
  cfg.offsets.flatMap fun dy => cfg.offsets.filterMap fun dx =>
    let sc : AoiSectorCoord := ⟨sector.x + dx, sector.y + dy⟩
    if sc.x < 0 ∨ sc.y < 0 then none else some sc

/-- The set built from `collectViewSectors` (`newSet`). -/
def viewWindow (cfg : AoiConfig P) (sector : AoiSectorCoord) : Finset AoiSectorCoord :=
  (cfg.collectViewSectors sector).toFinset

end AoiConfig

/-- `AoiWorld`: the two maps, whether a callback is installed, and the
number of calls made so far, which selects the iteration orders. -/
structure AoiWorld (P : Type) where
  entities : EntityId → Option (Entity P) := fun _ => none
  sectors : AoiSectorCoord → Option Sector := fun _ => none
  sendCb : Bool := false
  calls : Nat := 0

namespace AoiWorld

variable {P : Type}

/-- `set_send_callback`. -/
def setSendCallback (w : AoiWorld P) : AoiWorld P := { w with sendCb := true }

/-- `get_entity`. -/
def getEntity (w : AoiWorld P) (id : EntityId) : Option (Entity P) := w.entities id

/-- `get_sector`. -/
def getSector (w : AoiWorld P) (c : AoiSectorCoord) : Option Sector := w.sectors c

/-- The sector `get_or_create_sector` returns. -/
def getOrCreateSector (w : AoiWorld P) (c : AoiSectorCoord) : Sector := (w.sectors c).getD {}

/-- Write back the sector at `c`. -/
def setSector (w : AoiWorld P) (c : AoiSectorCoord) (s : Sector) : AoiWorld P :=
  { w with sectors := Function.update w.sectors c (some s) }

/-- Write back the entity under `id`. -/
def setEntity (w : AoiWorld P) (id : EntityId) (e : Entity P) : AoiWorld P :=
  { w with entities := Function.update w.entities id (some e) }

/-- `entities_.erase`. -/
def eraseEntity (w : AoiWorld P) (id : EntityId) : AoiWorld P :=
  { w with entities := Function.update w.entities id none }

/-- The call is over: the next one meets the next iteration orders. -/
def endCall (w : AoiWorld P) : AoiWorld P := { w with calls := w.calls + 1 }

/-- `AoiWorld::enter_sector`. -/
def enterSector (w : AoiWorld P) (id : EntityId) (c : AoiSectorCoord) : AoiWorld P :=
  let s := w.getOrCreateSector c
  w.setSector c { s with entities := insert id s.entities }

/-- `AoiWorld::leave_sector`. -/
def leaveSector (w : AoiWorld P) (id : EntityId) (c : AoiSectorCoord) : AoiWorld P :=
  match w.sectors c with
  | none => w
  | some s => w.setSector c { s with entities := s.entities.erase id }

/-- `AoiWorld::broadcast_to_sector_watchers`. -/
def broadcastToSectorWatchers (ord : AoiOrder) (w : AoiWorld P) (c : AoiSectorCoord)
    (ev : AoiEvent P) (excludeId : EntityId) : List (Delivery P) :=
  if !w.sendCb then []
  else match w.sectors c with
    | none => []
    | some s => ((ord.watchers c).list s.watchers).filterMap fun watcherId =>
        if excludeId ≠ 0 ∧ watcherId = excludeId then none else some ⟨watcherId, ev⟩

/-- One pass of the `toRemove` loop of `rebuild_player_subscriptions`:
the watcher stops watching `sc`, and loses what stands there unless the
entity's own sector is still in view. -/
def unwatchSector (ord : AoiOrder) (e : Entity P) (newSet : Finset AoiSectorCoord)
    (w : AoiWorld P) (sc : AoiSectorCoord) : AoiWorld P × List (Delivery P) :=
  match w.sectors sc with
  | none => (w, [])
  | some s =>
    let evs :=
      if w.sendCb then
        ((ord.entities sc).list s.entities).filterMap fun otherId =>
          if otherId = e.id then none
          else match w.getEntity otherId with
            | none => none
            | some other =>
              if other.sector ∈ newSet then none
              else some ⟨e.id, ⟨.leave, otherId, other.pos⟩⟩
      else []
    (w.setSector sc { s with watchers := s.watchers.erase e.id }, evs)

/-- One pass of the `toAdd` loop: the watcher starts watching `sc` and is
told what stands there. -/
def watchSector (ord : AoiOrder) (e : Entity P) (w : AoiWorld P) (sc : AoiSectorCoord) :
    AoiWorld P × List (Delivery P) :=
  let s := w.getOrCreateSector sc
  let evs :=
    if w.sendCb then
      ((ord.entities sc).list s.entities).filterMap fun otherId =>
        if otherId = e.id then none
        else match w.getEntity otherId with
          | none => none
          | some other => some ⟨e.id, ⟨.snapshot, other.id, other.pos⟩⟩
    else []
  (w.setSector sc { s with watchers := insert e.id s.watchers }, evs)

/-- `AoiWorld::rebuild_player_subscriptions`. The reference `e` is the
entry of `entities_` under `e.id`, so the last line writes it back. -/
def rebuildPlayerSubscriptions (cfg : AoiConfig P) (ord : AoiOrder) (w : AoiWorld P)
    (e : Entity P) : AoiWorld P × List (Delivery P) :=
  let newSet := cfg.viewWindow e.sector
  let toRemove := (ord.subscribed.list e.subscribed).filter (· ∉ newSet)
  let toAdd := (ord.newSet.list newSet).filter (· ∉ e.subscribed)
  let r₁ := emitLoop (unwatchSector ord e newSet) w toRemove
  let r₂ := emitLoop (watchSector ord e) r₁.1 toAdd
  (r₂.1.setEntity e.id { e with subscribed := newSet }, r₁.2 ++ r₂.2)

/-- `AoiWorld::add_entity`. -/
def addEntity (cfg : AoiConfig P) (w : AoiWorld P) (id : EntityId) (isPlayer : Bool) (pos : P) :
    AoiWorld P × List (Delivery P) :=
  let ord := cfg.order w.calls
  let e : Entity P := { id, isPlayer, pos, sector := cfg.worldToSector pos }
  let w₁ := (w.setEntity id e).enterSector id e.sector
  let r := if isPlayer then rebuildPlayerSubscriptions cfg ord w₁ e else (w₁, [])
  (r.1.endCall, r.2 ++ broadcastToSectorWatchers ord r.1 e.sector ⟨.enter, id, pos⟩ id)

/-- One pass of the loop of `remove_entity` over `e.subscribed`. -/
def dropWatcher (id : EntityId) (w : AoiWorld P) (sc : AoiSectorCoord) : AoiWorld P :=
  match w.sectors sc with
  | none => w
  | some s => w.setSector sc { s with watchers := s.watchers.erase id }

/-- `AoiWorld::remove_entity`. -/
def removeEntity (cfg : AoiConfig P) (w : AoiWorld P) (id : EntityId) :
    AoiWorld P × List (Delivery P) :=
  match w.entities id with
  | none => (w, [])
  | some e =>
    let ord := cfg.order w.calls
    let evs := broadcastToSectorWatchers ord w e.sector ⟨.leave, id, e.pos⟩ id
    let w₁ := w.leaveSector id e.sector
    let w₂ := if e.isPlayer then (ord.subscribed.list e.subscribed).foldl (dropWatcher e.id) w₁
      else w₁
    ((w₂.eraseEntity id).endCall, evs)

/-- The Leave / Enter part of `move_entity`, sent when the subject has
changed sector: watchers of the old sector only lose it, watchers of the
new sector only gain it. -/
def crossingEvents (ord : AoiOrder) (w : AoiWorld P) (id : EntityId) (pos : P)
    (oldSector newSector : AoiSectorCoord) : List (Delivery P) :=
  let oldS := w.getSector oldSector
  let newS := w.getSector newSector
  let isIn (s : Option Sector) (watcherId : EntityId) : Bool :=
    match s with
    | none => false
    | some s => watcherId ∈ s.watchers
  let leaves := match oldS with
    | none => []
    | some s => ((ord.watchers oldSector).list s.watchers).filterMap fun watcherId =>
        if isIn newS watcherId then none
        else if watcherId = id then none
        else some ⟨watcherId, ⟨.leave, id, pos⟩⟩
  let enters := match newS with
    | none => []
    | some s => ((ord.watchers newSector).list s.watchers).filterMap fun watcherId =>
        if isIn oldS watcherId then none
        else if watcherId = id then none
        else some ⟨watcherId, ⟨.enter, id, pos⟩⟩
  leaves ++ enters

/-- `AoiWorld::move_entity`. -/
def moveEntity (cfg : AoiConfig P) (w : AoiWorld P) (id : EntityId) (newPos : P) :
    AoiWorld P × List (Delivery P) :=
  match w.entities id with
  | none => (w, [])
  | some e₀ =>
    let ord := cfg.order w.calls
    let oldSector := e₀.sector
    let e : Entity P := { e₀ with pos := newPos, sector := cfg.worldToSector newPos }
    let sectorChanged := !decide (e.sector = oldSector)
    let w₁ := w.setEntity id e
    let w₂ := if sectorChanged then (w₁.leaveSector id oldSector).enterSector id e.sector else w₁
    let r := if e.isPlayer then rebuildPlayerSubscriptions cfg ord w₂ e else (w₂, [])
    if !r.1.sendCb then (r.1.endCall, r.2)
    else
      let crossing :=
        if sectorChanged then crossingEvents ord r.1 id newPos oldSector e.sector else []
      let ev : AoiEvent P := ⟨.move, id, newPos⟩
      let echo := if e.isPlayer then [⟨id, ev⟩] else []
      (r.1.endCall, r.2 ++ crossing ++ broadcastToSectorWatchers ord r.1 e.sector ev id ++ echo)

/-- `AoiWorld::update_player_aoi`. -/
def updatePlayerAoi (cfg : AoiConfig P) (w : AoiWorld P) (playerId : EntityId) :
    AoiWorld P × List (Delivery P) :=
  match w.entities playerId with
  | none => (w, [])
  | some e =>
    if !e.isPlayer then (w, [])
    else
      let r := rebuildPlayerSubscriptions cfg (cfg.order w.calls) w e
      (r.1.endCall, r.2)

end AoiWorld

end MmorpgServer.Field
