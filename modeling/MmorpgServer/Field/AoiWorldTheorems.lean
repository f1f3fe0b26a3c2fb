/-
MmorpgServer.Field.AoiWorldTheorems — the representation invariant of the
area-of-interest index.

`AoiWorld.Inv` says that the three redundant tables agree: an id is in a
sector's entity set exactly when its entity stands there, in a sector's
watcher set exactly when it is a registered player subscribed to it, and
a player's subscriptions are exactly its view window.

`rebuildPlayerSubscriptions` is entered with the invariant broken for one
player only; `Rebuildable` is that broken form and `rebuild_inv` the
lemma that the function repairs it. Each public operation is then a short
argument: show what it leaves behind is `Rebuildable`, and repair.
-/
import MmorpgServer.Field.AoiWorld
import MmorpgServer.Lib.TransitionSystem
import Mathlib.Algebra.Order.Group.Abs
import Mathlib.Algebra.Order.Group.Int

namespace MmorpgServer.Field

open MmorpgServer.Lib

variable {P : Type}

/-! ## The view window -/

namespace AoiConfig

theorem viewRadius_pos (cfg : AoiConfig P) : 0 < cfg.viewRadius := by
  unfold viewRadius
  split <;> omega

theorem mem_offsets (cfg : AoiConfig P) (d : Int) :
    d ∈ cfg.offsets ↔ -cfg.viewRadius ≤ d ∧ d ≤ cfg.viewRadius := by
  have hR := cfg.viewRadius_pos
  simp only [offsets, List.mem_map, List.mem_range]
  constructor
  · rintro ⟨i, hi, rfl⟩
    omega
  · rintro ⟨h₁, h₂⟩
    exact ⟨(d + cfg.viewRadius).toNat, by omega, by omega⟩

/-- The view window: the block of sectors around `s`, clipped at the map
edge. -/
theorem mem_viewWindow (cfg : AoiConfig P) (s c : AoiSectorCoord) :
    c ∈ cfg.viewWindow s ↔
      0 ≤ c.x ∧ 0 ≤ c.y ∧ |c.x - s.x| ≤ cfg.viewRadius ∧ |c.y - s.y| ≤ cfg.viewRadius := by
  simp only [viewWindow, collectViewSectors, List.mem_toFinset, List.mem_flatMap,
    List.mem_filterMap, mem_offsets, abs_le]
  constructor
  · rintro ⟨dy, hdy, dx, hdx, h⟩
    split at h
    · simp at h
    · rename_i hneg
      obtain rfl := Option.some.inj h
      simp only at hneg ⊢
      omega
  · rintro ⟨hx, hy, ⟨hx₁, hx₂⟩, hy₁, hy₂⟩
    refine ⟨c.y - s.y, ⟨by omega, by omega⟩, c.x - s.x, ⟨by omega, by omega⟩, ?_⟩
    have h₁ : s.x + (c.x - s.x) = c.x := by omega
    have h₂ : s.y + (c.y - s.y) = c.y := by omega
    simp only [h₁, h₂]
    rw [if_neg (by omega)]

/-- Sectors are never negative, whatever the cell of the position. -/
theorem worldToSector_nonneg (cfg : AoiConfig P) (p : P) :
    0 ≤ (cfg.worldToSector p).x ∧ 0 ≤ (cfg.worldToSector p).y := by
  simp only [worldToSector]
  constructor <;> split <;> omega

/-- Being in view is symmetric between the sectors of two positions. -/
theorem viewWindow_comm (cfg : AoiConfig P) (p q : P) :
    cfg.worldToSector p ∈ cfg.viewWindow (cfg.worldToSector q) ↔
      cfg.worldToSector q ∈ cfg.viewWindow (cfg.worldToSector p) := by
  have hp := cfg.worldToSector_nonneg p
  have hq := cfg.worldToSector_nonneg q
  simp only [mem_viewWindow, abs_le]
  omega

end AoiConfig

/-! ## Rewriting one row of a table -/

section

variable {α β : Type} [DecidableEq α] {t : α → Option β} {Q : α → β → Prop}

/-- What holds of the other rows and of the one written holds of all. -/
theorem forall_update_of_ne {a : α} {b : β} (h : ∀ i e, i ≠ a → t i = some e → Q i e)
    (hb : Q a b) : ∀ i e, Function.update t a (some b) i = some e → Q i e := by
  intro i e hi
  by_cases hia : i = a
  · subst hia
    rw [Function.update_self] at hi
    cases hi
    exact hb
  · rw [Function.update_of_ne hia] at hi
    exact h i e hia hi

theorem forall_update_some {a : α} {b : β} (h : ∀ i e, t i = some e → Q i e) (hb : Q a b) :
    ∀ i e, Function.update t a (some b) i = some e → Q i e :=
  forall_update_of_ne (fun i e _ => h i e) hb

/-- Erasing a row leaves the others. -/
theorem of_update_none {a i : α} {e : β} (hi : Function.update t a none i = some e) :
    i ≠ a ∧ t i = some e := by
  by_cases hia : i = a
  · subst hia
    simp at hi
  · rw [Function.update_of_ne hia] at hi
    exact ⟨hia, hi⟩

end

namespace AoiWorld

/-! ## The tables of a world -/

/-- `sectors_[c].entities`, empty for a sector never created. -/
def entitiesAt (w : AoiWorld P) (c : AoiSectorCoord) : Finset EntityId :=
  (w.getOrCreateSector c).entities

/-- `sectors_[c].watchers`. -/
def watchersAt (w : AoiWorld P) (c : AoiSectorCoord) : Finset EntityId :=
  (w.getOrCreateSector c).watchers

/-- The same entities, and in every sector the same two sets; a sector
never created counts as an empty one. -/
structure SameTables (w w' : AoiWorld P) : Prop where
  entities : w.entities = w'.entities
  entitiesAt : w.entitiesAt = w'.entitiesAt
  watchersAt : w.watchersAt = w'.watchersAt

@[simp] theorem setSector_entities (w : AoiWorld P) (c : AoiSectorCoord) (s : Sector) :
    (w.setSector c s).entities = w.entities := rfl

@[simp] theorem setSector_sendCb (w : AoiWorld P) (c : AoiSectorCoord) (s : Sector) :
    (w.setSector c s).sendCb = w.sendCb := rfl

@[simp] theorem getOrCreateSector_setSector (w : AoiWorld P) (c c' : AoiSectorCoord)
    (s : Sector) :
    (w.setSector c s).getOrCreateSector c' = if c' = c then s else w.getOrCreateSector c' := by
  by_cases h : c' = c
  · subst h; simp [getOrCreateSector, setSector]
  · simp [getOrCreateSector, setSector, h]

theorem getOrCreateSector_of_some {w : AoiWorld P} {c : AoiSectorCoord} {s : Sector}
    (h : w.sectors c = some s) : w.getOrCreateSector c = s := by
  simp [getOrCreateSector, h]

theorem getOrCreateSector_of_none {w : AoiWorld P} {c : AoiSectorCoord}
    (h : w.sectors c = none) : w.getOrCreateSector c = {} := by
  simp [getOrCreateSector, h]

@[simp] theorem entitiesAt_setEntity (w : AoiWorld P) (id : EntityId) (e : Entity P) :
    (w.setEntity id e).entitiesAt = w.entitiesAt := rfl

@[simp] theorem watchersAt_setEntity (w : AoiWorld P) (id : EntityId) (e : Entity P) :
    (w.setEntity id e).watchersAt = w.watchersAt := rfl

@[simp] theorem entitiesAt_eraseEntity (w : AoiWorld P) (id : EntityId) :
    (w.eraseEntity id).entitiesAt = w.entitiesAt := rfl

@[simp] theorem watchersAt_eraseEntity (w : AoiWorld P) (id : EntityId) :
    (w.eraseEntity id).watchersAt = w.watchersAt := rfl

@[simp] theorem entitiesAt_endCall (w : AoiWorld P) : w.endCall.entitiesAt = w.entitiesAt := rfl

@[simp] theorem watchersAt_endCall (w : AoiWorld P) : w.endCall.watchersAt = w.watchersAt := rfl

@[simp] theorem entities_endCall (w : AoiWorld P) : w.endCall.entities = w.entities := rfl

@[simp] theorem entities_setEntity (w : AoiWorld P) (id : EntityId) (e : Entity P) :
    (w.setEntity id e).entities = Function.update w.entities id (some e) := rfl

@[simp] theorem entities_eraseEntity (w : AoiWorld P) (id : EntityId) :
    (w.eraseEntity id).entities = Function.update w.entities id none := rfl

@[simp] theorem sendCb_setEntity (w : AoiWorld P) (id : EntityId) (e : Entity P) :
    (w.setEntity id e).sendCb = w.sendCb := rfl

@[simp] theorem entities_enterSector (w : AoiWorld P) (id : EntityId) (c : AoiSectorCoord) :
    (w.enterSector id c).entities = w.entities := rfl

@[simp] theorem sendCb_enterSector (w : AoiWorld P) (id : EntityId) (c : AoiSectorCoord) :
    (w.enterSector id c).sendCb = w.sendCb := rfl

@[simp] theorem entities_leaveSector (w : AoiWorld P) (id : EntityId) (c : AoiSectorCoord) :
    (w.leaveSector id c).entities = w.entities := by
  unfold leaveSector; split <;> rfl

@[simp] theorem sendCb_leaveSector (w : AoiWorld P) (id : EntityId) (c : AoiSectorCoord) :
    (w.leaveSector id c).sendCb = w.sendCb := by
  unfold leaveSector; split <;> rfl

theorem entitiesAt_enterSector (w : AoiWorld P) (id : EntityId) (c c' : AoiSectorCoord) :
    (w.enterSector id c).entitiesAt c' =
      if c' = c then insert id (w.entitiesAt c) else w.entitiesAt c' := by
  simp only [enterSector, entitiesAt, getOrCreateSector_setSector]
  split <;> rfl

@[simp] theorem watchersAt_enterSector (w : AoiWorld P) (id : EntityId) (c : AoiSectorCoord) :
    (w.enterSector id c).watchersAt = w.watchersAt := by
  funext c'
  simp only [enterSector, watchersAt, getOrCreateSector_setSector]
  split
  · rename_i h; subst h; rfl
  · rfl

theorem entitiesAt_leaveSector (w : AoiWorld P) (id : EntityId) (c c' : AoiSectorCoord) :
    (w.leaveSector id c).entitiesAt c' =
      if c' = c then (w.entitiesAt c).erase id else w.entitiesAt c' := by
  unfold leaveSector
  split
  · rename_i hc
    simp only [entitiesAt]
    split
    · rename_i h; subst h; simp [getOrCreateSector_of_none hc]
    · rfl
  · rename_i s hs
    simp only [entitiesAt, getOrCreateSector_setSector, getOrCreateSector_of_some hs]
    split <;> rfl

@[simp] theorem watchersAt_leaveSector (w : AoiWorld P) (id : EntityId) (c : AoiSectorCoord) :
    (w.leaveSector id c).watchersAt = w.watchersAt := by
  unfold leaveSector
  split
  · rfl
  · rename_i s hs
    funext c'
    simp only [watchersAt, getOrCreateSector_setSector]
    split
    · rename_i h; subst h; rw [getOrCreateSector_of_some hs]
    · rfl

/-! ## One pass of each loop over sectors -/

/-- Two worlds with the same entities, the same entity sets and the same
callback: they differ in their watcher sets only. -/
structure SameBut (w w' : AoiWorld P) : Prop where
  entities : w'.entities = w.entities
  entitiesAt : w'.entitiesAt = w.entitiesAt
  sendCb : w'.sendCb = w.sendCb

theorem SameBut.refl (w : AoiWorld P) : SameBut w w := ⟨rfl, rfl, rfl⟩

theorem SameBut.trans {w₁ w₂ w₃ : AoiWorld P} (h : SameBut w₁ w₂) (h' : SameBut w₂ w₃) :
    SameBut w₁ w₃ :=
  ⟨h'.entities.trans h.entities, h'.entitiesAt.trans h.entitiesAt, h'.sendCb.trans h.sendCb⟩

theorem sameBut_setSector {w : AoiWorld P} {c : AoiSectorCoord} {s : Sector}
    (h : s.entities = w.entitiesAt c) : SameBut w (w.setSector c s) := by
  refine ⟨rfl, ?_, rfl⟩
  funext c'
  simp only [entitiesAt, getOrCreateSector_setSector]
  split
  · rename_i hc; subst hc; exact h
  · rfl

theorem watchersAt_setSector (w : AoiWorld P) (c c' : AoiSectorCoord) (s : Sector) :
    (w.setSector c s).watchersAt c' = if c' = c then s.watchers else w.watchersAt c' := by
  simp only [watchersAt, getOrCreateSector_setSector]
  split <;> rfl

theorem dropWatcher_sameBut (w : AoiWorld P) (id : EntityId) (sc : AoiSectorCoord) :
    SameBut w (dropWatcher id w sc) := by
  unfold dropWatcher
  split
  · exact .refl w
  · rename_i s hs
    exact sameBut_setSector (by simp [entitiesAt, getOrCreateSector_of_some hs])

theorem watchersAt_dropWatcher (w : AoiWorld P) (id : EntityId) (sc c : AoiSectorCoord) :
    (dropWatcher id w sc).watchersAt c =
      if c = sc then (w.watchersAt c).erase id else w.watchersAt c := by
  unfold dropWatcher
  split
  · rename_i hsc
    split
    · rename_i h; subst h; simp [watchersAt, getOrCreateSector_of_none hsc]
    · rfl
  · rename_i s hs
    rw [watchersAt_setSector]
    split
    · rename_i h; subst h; simp [watchersAt, getOrCreateSector_of_some hs]
    · rfl

/-- The watcher side of `unwatchSector` is `dropWatcher`. -/
theorem unwatchSector_fst (ord : AoiOrder) (e : Entity P) (newSet : Finset AoiSectorCoord)
    (w : AoiWorld P) (sc : AoiSectorCoord) :
    (unwatchSector ord e newSet w sc).1 = dropWatcher e.id w sc := by
  unfold unwatchSector dropWatcher
  split <;> rfl

theorem watchSector_sameBut (ord : AoiOrder) (e : Entity P) (w : AoiWorld P)
    (sc : AoiSectorCoord) : SameBut w (watchSector ord e w sc).1 :=
  sameBut_setSector rfl

theorem watchersAt_watchSector (ord : AoiOrder) (e : Entity P) (w : AoiWorld P)
    (sc c : AoiSectorCoord) :
    (watchSector ord e w sc).1.watchersAt c =
      if c = sc then insert e.id (w.watchersAt c) else w.watchersAt c := by
  simp only [watchSector, watchersAt_setSector]
  split
  · rename_i h; subst h; rfl
  · rfl

/-! ## The loops -/

theorem unwatchLoop_sameBut (ord : AoiOrder) (e : Entity P) (newSet : Finset AoiSectorCoord)
    (w : AoiWorld P) (L : List AoiSectorCoord) :
    SameBut w (emitLoop (unwatchSector ord e newSet) w L).1 :=
  emitLoop_state (I := SameBut w)
    (fun s a h => h.trans (unwatchSector_fst ord e newSet s a ▸ dropWatcher_sameBut s e.id a))
    (.refl w) L

theorem watchLoop_sameBut (ord : AoiOrder) (e : Entity P) (w : AoiWorld P)
    (L : List AoiSectorCoord) : SameBut w (emitLoop (watchSector ord e) w L).1 :=
  emitLoop_state (I := SameBut w) (fun s a h => h.trans (watchSector_sameBut ord e s a))
    (.refl w) L

theorem dropLoop_sameBut (id : EntityId) (w : AoiWorld P) (L : List AoiSectorCoord) :
    SameBut w (L.foldl (dropWatcher id) w) := by
  induction L generalizing w with
  | nil => exact .refl w
  | cons sc L ih => exact (dropWatcher_sameBut w id sc).trans (ih _)

theorem mem_watchersAt_dropLoop (id : EntityId) (w : AoiWorld P) (L : List AoiSectorCoord)
    (c : AoiSectorCoord) (v : EntityId) :
    v ∈ (L.foldl (dropWatcher id) w).watchersAt c ↔
      v ∈ w.watchersAt c ∧ ¬ (v = id ∧ c ∈ L) := by
  induction L generalizing w with
  | nil => simp
  | cons sc L ih =>
    rw [List.foldl_cons, ih, watchersAt_dropWatcher]
    by_cases h : c = sc
    · simp [h]; tauto
    · simp [h]

theorem mem_watchersAt_unwatchLoop (ord : AoiOrder) (e : Entity P)
    (newSet : Finset AoiSectorCoord) (w : AoiWorld P) (L : List AoiSectorCoord)
    (c : AoiSectorCoord) (v : EntityId) :
    v ∈ (emitLoop (unwatchSector ord e newSet) w L).1.watchersAt c ↔
      v ∈ w.watchersAt c ∧ ¬ (v = e.id ∧ c ∈ L) := by
  rw [← mem_watchersAt_dropLoop e.id w L c v]
  have hfold : (emitLoop (unwatchSector ord e newSet) w L).1 = L.foldl (dropWatcher e.id) w := by
    induction L generalizing w with
    | nil => rfl
    | cons sc L ih => simp only [emitLoop, List.foldl_cons, ih, unwatchSector_fst]
  rw [hfold]

theorem mem_watchersAt_watchLoop (ord : AoiOrder) (e : Entity P) (w : AoiWorld P)
    (L : List AoiSectorCoord) (c : AoiSectorCoord) (v : EntityId) :
    v ∈ (emitLoop (watchSector ord e) w L).1.watchersAt c ↔
      v ∈ w.watchersAt c ∨ (v = e.id ∧ c ∈ L) := by
  induction L generalizing w with
  | nil => simp
  | cons sc L ih =>
    simp only [emitLoop]
    rw [ih, watchersAt_watchSector]
    by_cases h : c = sc
    · simp [h]; tauto
    · simp [h]

/-! ## The invariant -/

/-- The representation invariant. -/
structure Inv (cfg : AoiConfig P) (w : AoiWorld P) : Prop where
  idOk : ∀ i e, w.entities i = some e → e.id = i
  sectorOk : ∀ i e, w.entities i = some e → e.sector = cfg.worldToSector e.pos
  entitiesOk : ∀ c i, i ∈ w.entitiesAt c ↔ ∃ e, w.entities i = some e ∧ e.sector = c
  watchersOk : ∀ c v, v ∈ w.watchersAt c ↔
    ∃ e, w.entities v = some e ∧ e.isPlayer = true ∧ c ∈ e.subscribed
  subscribedOk : ∀ i e, w.entities i = some e →
    e.subscribed = if e.isPlayer then cfg.viewWindow e.sector else ∅

/-- The entity table determines the others. -/
theorem Inv.sameTables {cfg : AoiConfig P} {w w' : AoiWorld P} (hw : Inv cfg w) (hw' : Inv cfg w')
    (h : w.entities = w'.entities) : SameTables w w' := by
  refine ⟨h, ?_, ?_⟩
  · funext c
    ext i
    rw [hw.entitiesOk, hw'.entitiesOk, h]
  · funext c
    ext v
    rw [hw.watchersOk, hw'.watchersOk, h]

/-- The state `rebuildPlayerSubscriptions` is entered in: the invariant
holds except that the subscriptions of the player `e` are out of date.
Its watcher entries still cover what it subscribed to, and lie inside
that or the new window. -/
structure Rebuildable (cfg : AoiConfig P) (w : AoiWorld P) (e : Entity P) : Prop where
  self : w.entities e.id = some e
  player : e.isPlayer = true
  idOk : ∀ i e, w.entities i = some e → e.id = i
  sectorOk : ∀ i e, w.entities i = some e → e.sector = cfg.worldToSector e.pos
  entitiesOk : ∀ c i, i ∈ w.entitiesAt c ↔ ∃ e, w.entities i = some e ∧ e.sector = c
  watchersOk : ∀ c v, v ≠ e.id → (v ∈ w.watchersAt c ↔
    ∃ e, w.entities v = some e ∧ e.isPlayer = true ∧ c ∈ e.subscribed)
  subscribedOk : ∀ i e', i ≠ e.id → w.entities i = some e' →
    e'.subscribed = if e'.isPlayer then cfg.viewWindow e'.sector else ∅
  ownCovers : ∀ c ∈ e.subscribed, e.id ∈ w.watchersAt c
  ownWithin : ∀ c, e.id ∈ w.watchersAt c → c ∈ e.subscribed ∨ c ∈ cfg.viewWindow e.sector

/-- What a rebuild leaves: the same tables, except that the player's
subscriptions and its watcher entries are its view window. -/
theorem rebuild_entities (cfg : AoiConfig P) (ord : AoiOrder) (w : AoiWorld P) (e : Entity P) :
    (rebuildPlayerSubscriptions cfg ord w e).1.entities =
      Function.update w.entities e.id
        (some { e with subscribed := cfg.viewWindow e.sector }) := by
  simp only [rebuildPlayerSubscriptions, entities_setEntity]
  rw [(watchLoop_sameBut _ _ _ _).entities, (unwatchLoop_sameBut _ _ _ _ _).entities]

theorem rebuild_entitiesAt (cfg : AoiConfig P) (ord : AoiOrder) (w : AoiWorld P)
    (e : Entity P) :
    (rebuildPlayerSubscriptions cfg ord w e).1.entitiesAt = w.entitiesAt := by
  simp only [rebuildPlayerSubscriptions, entitiesAt_setEntity]
  rw [(watchLoop_sameBut _ _ _ _).entitiesAt, (unwatchLoop_sameBut _ _ _ _ _).entitiesAt]

theorem rebuild_sendCb (cfg : AoiConfig P) (ord : AoiOrder) (w : AoiWorld P) (e : Entity P) :
    (rebuildPlayerSubscriptions cfg ord w e).1.sendCb = w.sendCb := by
  simp only [rebuildPlayerSubscriptions, sendCb_setEntity]
  rw [(watchLoop_sameBut _ _ _ _).sendCb, (unwatchLoop_sameBut _ _ _ _ _).sendCb]

theorem rebuild_watchersAt (cfg : AoiConfig P) (ord : AoiOrder) (w : AoiWorld P) (e : Entity P)
    (c : AoiSectorCoord) (v : EntityId) :
    v ∈ (rebuildPlayerSubscriptions cfg ord w e).1.watchersAt c ↔
      (v ∈ w.watchersAt c ∧ ¬ (v = e.id ∧ c ∈ e.subscribed ∧ c ∉ cfg.viewWindow e.sector)) ∨
        (v = e.id ∧ c ∈ cfg.viewWindow e.sector ∧ c ∉ e.subscribed) := by
  simp only [rebuildPlayerSubscriptions, watchersAt_setEntity, mem_watchersAt_watchLoop,
    mem_watchersAt_unwatchLoop, List.mem_filter, Enumeration.mem_iff, decide_eq_true_eq]

/-- A rebuild repairs the invariant. -/
theorem rebuild_inv {cfg : AoiConfig P} {ord : AoiOrder} {w : AoiWorld P} {e : Entity P}
    (h : Rebuildable cfg w e) : Inv cfg (rebuildPlayerSubscriptions cfg ord w e).1 := by
  have hent := rebuild_entities cfg ord w e
  refine ⟨?_, ?_, ?_, ?_, ?_⟩
  · rw [hent]
    exact forall_update_some h.idOk rfl
  · rw [hent]
    exact forall_update_some h.sectorOk (h.sectorOk _ e h.self)
  · intro c i
    rw [rebuild_entitiesAt, h.entitiesOk, hent]
    by_cases hie : i = e.id
    · subst hie; simp [h.self]
    · rw [Function.update_of_ne hie]
  · intro c v
    rw [rebuild_watchersAt, hent]
    by_cases hve : v = e.id
    · subst hve
      have h₁ := h.ownCovers c
      have h₂ := h.ownWithin c
      simp [h.player]
      tauto
    · rw [Function.update_of_ne hve, ← h.watchersOk c v hve]
      simp [hve]
  · rw [hent]
    exact forall_update_of_ne h.subscribedOk (by simp [h.player])

/-! ## The operations keep the invariant -/

theorem inv_endCall {cfg : AoiConfig P} {w : AoiWorld P} (h : Inv cfg w) : Inv cfg w.endCall :=
  ⟨h.idOk, h.sectorOk, h.entitiesOk, h.watchersOk, h.subscribedOk⟩

theorem inv_empty (cfg : AoiConfig P) (b : Bool) : Inv cfg ({ sendCb := b } : AoiWorld P) := by
  refine ⟨?_, ?_, ?_, ?_, ?_⟩ <;> intros <;> simp_all [entitiesAt, watchersAt, getOrCreateSector]

/-- An id may be added when it is not registered, or as a player in the
sector it is registered in. -/
def Addable (cfg : AoiConfig P) (w : AoiWorld P) (id : EntityId) (isPlayer : Bool) (pos : P) :
    Prop :=
  ∀ e₀, w.entities id = some e₀ → isPlayer = true ∧ e₀.sector = cfg.worldToSector pos

/-- The entity `addEntity` registers, before its subscriptions are built. -/
def newEntity (cfg : AoiConfig P) (id : EntityId) (isPlayer : Bool) (pos : P) : Entity P :=
  { id, isPlayer, pos, sector := cfg.worldToSector pos }

/-- The world `addEntity` has built when it comes to the subscriptions. -/
def placed (cfg : AoiConfig P) (w : AoiWorld P) (id : EntityId) (isPlayer : Bool) (pos : P) :
    AoiWorld P :=
  (w.setEntity id (newEntity cfg id isPlayer pos)).enterSector id (cfg.worldToSector pos)

theorem addEntity_fst (cfg : AoiConfig P) (w : AoiWorld P) (id : EntityId) (isPlayer : Bool)
    (pos : P) :
    (w.addEntity cfg id isPlayer pos).1 =
      (if isPlayer then rebuildPlayerSubscriptions cfg (cfg.order w.calls)
          (placed cfg w id isPlayer pos) (newEntity cfg id isPlayer pos)
        else (placed cfg w id isPlayer pos, [])).1.endCall := rfl

theorem mem_entitiesAt_placed {cfg : AoiConfig P} {w : AoiWorld P} (hw : Inv cfg w)
    {id : EntityId} {isPlayer : Bool} {pos : P} (ha : Addable cfg w id isPlayer pos)
    (c : AoiSectorCoord) (i : EntityId) :
    i ∈ (placed cfg w id isPlayer pos).entitiesAt c ↔
      ∃ e, (placed cfg w id isPlayer pos).entities i = some e ∧ e.sector = c := by
  simp only [placed, entitiesAt_enterSector, entities_enterSector, entitiesAt_setEntity,
    entities_setEntity]
  by_cases hi : i = id
  · subst hi
    simp only [Function.update_self, Option.some.injEq, exists_eq_left', newEntity]
    split
    · rename_i hc; simp [hc]
    · rename_i hc
      rw [hw.entitiesOk]
      constructor
      · rintro ⟨e₀, he₀, hs⟩
        exact absurd (hs.symm.trans (ha e₀ he₀).2) hc
      · intro h; exact absurd h.symm hc
  · rw [Function.update_of_ne hi, ← hw.entitiesOk]
    split
    · rename_i hc; simp [hc, hi]
    · rfl

theorem placed_rebuildable {cfg : AoiConfig P} {w : AoiWorld P} (hw : Inv cfg w)
    {id : EntityId} {pos : P} (ha : Addable cfg w id true pos) :
    Rebuildable cfg (placed cfg w id true pos) (newEntity cfg id true pos) := by
  have hent : (placed cfg w id true pos).entities =
      Function.update w.entities id (some (newEntity cfg id true pos)) := rfl
  have hwat : (placed cfg w id true pos).watchersAt = w.watchersAt := watchersAt_enterSector _ _ _
  refine ⟨by simp [hent, newEntity], rfl, ?_, ?_, mem_entitiesAt_placed hw ha, ?_, ?_, ?_, ?_⟩
  · exact forall_update_some hw.idOk rfl
  · exact forall_update_some hw.sectorOk rfl
  · intro c v hv
    replace hv : v ≠ id := hv
    rw [hwat, hent, Function.update_of_ne hv]
    exact hw.watchersOk c v
  · intro i e hne hi
    replace hne : i ≠ id := hne
    rw [hent, Function.update_of_ne hne] at hi
    exact hw.subscribedOk i e hi
  · intro c hc
    simp [newEntity] at hc
  · intro c hc
    right
    rw [hwat] at hc
    obtain ⟨e₀, he₀, hp, hs⟩ := (hw.watchersOk c id).mp hc
    rw [hw.subscribedOk id e₀ he₀, hp, if_pos rfl, (ha e₀ he₀).2] at hs
    exact hs

theorem placed_inv {cfg : AoiConfig P} {w : AoiWorld P} (hw : Inv cfg w) {id : EntityId}
    {pos : P} (ha : Addable cfg w id false pos) : Inv cfg (placed cfg w id false pos) := by
  have hfresh : w.entities id = none := by
    cases h : w.entities id with
    | none => rfl
    | some e₀ => exact absurd (ha e₀ h).1 (by decide)
  have hent : (placed cfg w id false pos).entities =
      Function.update w.entities id (some (newEntity cfg id false pos)) := rfl
  refine ⟨forall_update_some hw.idOk rfl, forall_update_some hw.sectorOk rfl,
    mem_entitiesAt_placed hw ha, ?_, forall_update_some hw.subscribedOk rfl⟩
  · intro c v
    rw [show (placed cfg w id false pos).watchersAt = w.watchersAt from
      watchersAt_enterSector _ _ _, hw.watchersOk, hent]
    by_cases hv : v = id
    · subst hv; simp [hfresh, newEntity]
    · rw [Function.update_of_ne hv]

theorem addEntity_inv {cfg : AoiConfig P} {w : AoiWorld P} (hw : Inv cfg w) {id : EntityId}
    {isPlayer : Bool} {pos : P} (ha : Addable cfg w id isPlayer pos) :
    Inv cfg (w.addEntity cfg id isPlayer pos).1 := by
  rw [addEntity_fst]
  cases isPlayer with
  | true => exact inv_endCall (rebuild_inv (placed_rebuildable hw ha))
  | false => exact inv_endCall (placed_inv hw ha)

/-- The entity `addEntity` leaves registered. -/
def addedEntity (cfg : AoiConfig P) (id : EntityId) (isPlayer : Bool) (pos : P) : Entity P :=
  { newEntity cfg id isPlayer pos with
    subscribed := if isPlayer then cfg.viewWindow (cfg.worldToSector pos) else ∅ }

theorem addEntity_entities_eq (cfg : AoiConfig P) (w : AoiWorld P) (id : EntityId)
    (isPlayer : Bool) (pos : P) :
    (w.addEntity cfg id isPlayer pos).1.entities =
      Function.update w.entities id (some (addedEntity cfg id isPlayer pos)) := by
  rw [addEntity_fst, entities_endCall]
  cases isPlayer with
  | true =>
    rw [if_pos rfl, rebuild_entities]
    exact Function.update_idem _ _ _
  | false => rfl

theorem addEntity_entitiesAt (cfg : AoiConfig P) (w : AoiWorld P) (id : EntityId)
    (isPlayer : Bool) (pos : P) (c : AoiSectorCoord) :
    (w.addEntity cfg id isPlayer pos).1.entitiesAt c =
      if c = cfg.worldToSector pos then insert id (w.entitiesAt c) else w.entitiesAt c := by
  have hplaced : (placed cfg w id isPlayer pos).entitiesAt c =
      if c = cfg.worldToSector pos then insert id (w.entitiesAt c) else w.entitiesAt c := by
    rw [placed, entitiesAt_enterSector, entitiesAt_setEntity]
    by_cases hc : c = cfg.worldToSector pos <;> simp [hc]
  rw [addEntity_fst, entitiesAt_endCall]
  cases isPlayer with
  | true => rw [if_pos rfl, rebuild_entitiesAt, hplaced]
  | false => rw [if_neg (by decide), hplaced]

theorem mem_watchersAt_addEntity (cfg : AoiConfig P) (w : AoiWorld P) (id : EntityId)
    (isPlayer : Bool) (pos : P) (c : AoiSectorCoord) (v : EntityId) :
    v ∈ (w.addEntity cfg id isPlayer pos).1.watchersAt c ↔
      v ∈ w.watchersAt c ∨ (v = id ∧ c ∈ (addedEntity cfg id isPlayer pos).subscribed) := by
  have hplaced : (placed cfg w id isPlayer pos).watchersAt = w.watchersAt :=
    watchersAt_enterSector _ _ _
  rw [addEntity_fst, watchersAt_endCall]
  cases isPlayer with
  | true =>
    -- the new record subscribes to nothing, so the rebuild only adds
    rw [if_pos rfl, rebuild_watchersAt, hplaced]
    simp [newEntity, addedEntity]
  | false =>
    rw [if_neg (by decide), hplaced]
    simp [addedEntity]

/-- Removing takes the entity's own watcher entries, as its record lists
them. -/
theorem mem_watchersAt_removeEntity {cfg : AoiConfig P} {w : AoiWorld P} {id : EntityId}
    {e : Entity P} (he : w.entities id = some e) (c : AoiSectorCoord) (v : EntityId) :
    v ∈ (w.removeEntity cfg id).1.watchersAt c ↔
      v ∈ w.watchersAt c ∧ ¬ (v = e.id ∧ e.isPlayer = true ∧ c ∈ e.subscribed) := by
  simp only [removeEntity, he, watchersAt_endCall, watchersAt_eraseEntity]
  cases hp : e.isPlayer with
  | true => simp [mem_watchersAt_dropLoop, Enumeration.mem_iff]
  | false => simp

/-- Under the invariant these are all its entries. -/
theorem removeEntity_watchersAt {cfg : AoiConfig P} {w : AoiWorld P} (hw : Inv cfg w)
    {id : EntityId} {e : Entity P} (he : w.entities id = some e) (c : AoiSectorCoord)
    (v : EntityId) :
    v ∈ (w.removeEntity cfg id).1.watchersAt c ↔ v ∈ w.watchersAt c ∧ v ≠ id := by
  have hown : id ∈ w.watchersAt c ↔ e.isPlayer = true ∧ c ∈ e.subscribed := by
    simp [hw.watchersOk, he]
  rw [mem_watchersAt_removeEntity he, hw.idOk id e he, ← hown]
  refine and_congr_right fun hv => not_congr ⟨fun h => h.1, fun h => ⟨h, h ▸ hv⟩⟩

theorem removeEntity_entities {cfg : AoiConfig P} {w : AoiWorld P} {id : EntityId}
    {e : Entity P} (he : w.entities id = some e) :
    (w.removeEntity cfg id).1.entities = Function.update w.entities id none := by
  simp only [removeEntity, he, entities_endCall, entities_eraseEntity]
  cases e.isPlayer with
  | true => simp only [if_true, (dropLoop_sameBut _ _ _).entities, entities_leaveSector]
  | false => simp only [Bool.false_eq_true, if_false, entities_leaveSector]

theorem removeEntity_entitiesAt {cfg : AoiConfig P} {w : AoiWorld P} {id : EntityId}
    {e : Entity P} (he : w.entities id = some e) (c : AoiSectorCoord) :
    (w.removeEntity cfg id).1.entitiesAt c =
      if c = e.sector then (w.entitiesAt e.sector).erase id else w.entitiesAt c := by
  simp only [removeEntity, he, entitiesAt_endCall, entitiesAt_eraseEntity]
  cases e.isPlayer with
  | true =>
    simp only [if_true, (dropLoop_sameBut _ _ _).entitiesAt, entitiesAt_leaveSector]
  | false => simp only [Bool.false_eq_true, if_false, entitiesAt_leaveSector]

/-- Removing an id that is not registered does nothing. -/
theorem removeEntity_of_none {cfg : AoiConfig P} {w : AoiWorld P} {id : EntityId}
    (h : w.entities id = none) : w.removeEntity cfg id = (w, []) := by
  simp [removeEntity, h]

theorem removeEntity_inv {cfg : AoiConfig P} {w : AoiWorld P} (hw : Inv cfg w) (id : EntityId) :
    Inv cfg (w.removeEntity cfg id).1 := by
  cases he : w.entities id with
  | none => rw [removeEntity_of_none he]; exact hw
  | some e =>
    have hent : (w.removeEntity cfg id).1.entities = _ := removeEntity_entities he
    have hother : ∀ i e', (w.removeEntity cfg id).1.entities i = some e' →
        i ≠ id ∧ w.entities i = some e' := fun i e' hi => of_update_none (hent ▸ hi)
    refine ⟨?_, ?_, ?_, ?_, ?_⟩
    · exact fun i e' hi => hw.idOk i e' (hother i e' hi).2
    · exact fun i e' hi => hw.sectorOk i e' (hother i e' hi).2
    · intro c i
      rw [removeEntity_entitiesAt he, hent]
      by_cases hii : i = id
      · subst hii
        simp only [Function.update_self, reduceCtorEq, false_and, exists_false, iff_false]
        split
        · simp
        · rename_i hc
          rw [hw.entitiesOk]
          rintro ⟨e', he', hs⟩
          rw [he] at he'
          obtain rfl := Option.some.inj he'
          exact hc hs.symm
      · rw [Function.update_of_ne hii, ← hw.entitiesOk]
        split
        · rename_i hc; simp [hc, hii]
        · rfl
    · intro c v
      rw [removeEntity_watchersAt hw he, hent]
      by_cases hv : v = id
      · subst hv; simp
      · rw [Function.update_of_ne hv, hw.watchersOk]
        simp [hv]
    · exact fun i e' hi => hw.subscribedOk i e' (hother i e' hi).2

/-- The entity after `moveEntity`, before its subscriptions are rebuilt. -/
def movedEntity (cfg : AoiConfig P) (e₀ : Entity P) (newPos : P) : Entity P :=
  { e₀ with pos := newPos, sector := cfg.worldToSector newPos }

/-- The world `moveEntity` has built when it comes to the subscriptions. -/
def relocated (cfg : AoiConfig P) (w : AoiWorld P) (id : EntityId) (e₀ : Entity P)
    (newPos : P) : AoiWorld P :=
  let e := movedEntity cfg e₀ newPos
  let w₁ := w.setEntity id e
  if !decide (e.sector = e₀.sector) then (w₁.leaveSector id e₀.sector).enterSector id e.sector
  else w₁

/-- The subscriptions part of `moveEntity`. -/
def resubscribed (cfg : AoiConfig P) (w : AoiWorld P) (id : EntityId) (e₀ : Entity P)
    (newPos : P) : AoiWorld P × List (Delivery P) :=
  if e₀.isPlayer then rebuildPlayerSubscriptions cfg (cfg.order w.calls)
    (relocated cfg w id e₀ newPos) (movedEntity cfg e₀ newPos)
  else (relocated cfg w id e₀ newPos, [])

/-- What `moveEntity` sends about the subject itself, once the
subscriptions are rebuilt. -/
def subjectEvents (cfg : AoiConfig P) (w w' : AoiWorld P) (id : EntityId) (e₀ : Entity P)
    (newPos : P) : List (Delivery P) :=
  let ord := cfg.order w.calls
  let e := movedEntity cfg e₀ newPos
  let ev : AoiEvent P := ⟨.move, id, newPos⟩
  (if !decide (e.sector = e₀.sector) then crossingEvents ord w' id newPos e₀.sector e.sector
    else []) ++
  broadcastToSectorWatchers ord w' e.sector ev id ++ (if e.isPlayer then [⟨id, ev⟩] else [])

theorem moveEntity_eq {cfg : AoiConfig P} {w : AoiWorld P} {id : EntityId} {e₀ : Entity P}
    (he : w.entities id = some e₀) (newPos : P) :
    w.moveEntity cfg id newPos =
      ((resubscribed cfg w id e₀ newPos).1.endCall,
        (resubscribed cfg w id e₀ newPos).2 ++
          if (resubscribed cfg w id e₀ newPos).1.sendCb then
            subjectEvents cfg w (resubscribed cfg w id e₀ newPos).1 id e₀ newPos else []) := by
  rw [moveEntity, he]
  show (if !(resubscribed cfg w id e₀ newPos).1.sendCb then _ else _) = _
  cases (resubscribed cfg w id e₀ newPos).1.sendCb with
  | false =>
    simp only [Bool.not_false, if_true, Bool.false_eq_true, if_false, List.append_nil]
    rfl
  | true =>
    simp only [Bool.not_true, Bool.false_eq_true, if_false, if_true, subjectEvents,
      List.append_assoc]
    rfl

theorem moveEntity_fst {cfg : AoiConfig P} {w : AoiWorld P} {id : EntityId} {e₀ : Entity P}
    (he : w.entities id = some e₀) (newPos : P) :
    (w.moveEntity cfg id newPos).1 = (resubscribed cfg w id e₀ newPos).1.endCall := by
  rw [moveEntity_eq he]

theorem relocated_entities (cfg : AoiConfig P) (w : AoiWorld P) (id : EntityId)
    (e₀ : Entity P) (newPos : P) :
    (relocated cfg w id e₀ newPos).entities =
      Function.update w.entities id (some (movedEntity cfg e₀ newPos)) := by
  simp only [relocated]
  split
  · rw [entities_enterSector, entities_leaveSector, entities_setEntity]
  · rfl

theorem relocated_watchersAt (cfg : AoiConfig P) (w : AoiWorld P) (id : EntityId)
    (e₀ : Entity P) (newPos : P) :
    (relocated cfg w id e₀ newPos).watchersAt = w.watchersAt := by
  simp only [relocated]
  split
  · rw [watchersAt_enterSector, watchersAt_leaveSector, watchersAt_setEntity]
  · rfl

theorem relocated_sendCb (cfg : AoiConfig P) (w : AoiWorld P) (id : EntityId)
    (e₀ : Entity P) (newPos : P) : (relocated cfg w id e₀ newPos).sendCb = w.sendCb := by
  simp only [relocated]
  split
  · rw [sendCb_enterSector, sendCb_leaveSector, sendCb_setEntity]
  · rfl

theorem mem_entitiesAt_relocated {cfg : AoiConfig P} {w : AoiWorld P} (hw : Inv cfg w)
    {id : EntityId} {e₀ : Entity P} (he : w.entities id = some e₀) (newPos : P)
    (c : AoiSectorCoord) (i : EntityId) :
    i ∈ (relocated cfg w id e₀ newPos).entitiesAt c ↔
      ∃ e, (relocated cfg w id e₀ newPos).entities i = some e ∧ e.sector = c := by
  have hold : ∀ c, id ∈ w.entitiesAt c ↔ e₀.sector = c := by
    intro c; simp [hw.entitiesOk, he]
  rw [relocated_entities]
  simp only [relocated]
  by_cases hsec : (movedEntity cfg e₀ newPos).sector = e₀.sector
  · simp only [hsec, decide_true, Bool.not_true, Bool.false_eq_true, if_false,
      entitiesAt_setEntity]
    by_cases hi : i = id
    · subst hi; simp [hold, hsec]
    · rw [Function.update_of_ne hi, hw.entitiesOk]
  · simp only [hsec, decide_false, Bool.not_false, if_true, entitiesAt_enterSector,
      entitiesAt_leaveSector, entitiesAt_setEntity]
    by_cases hi : i = id
    · subst hi
      simp only [Function.update_self, Option.some.injEq, exists_eq_left']
      split
      · rename_i hc; simp [hc]
      · rename_i hc
        split
        · rename_i hc'; simp [hc', hsec]
        · rename_i hc'
          rw [hold]
          exact ⟨fun h => absurd h.symm hc', fun h => absurd h.symm hc⟩
    · rw [Function.update_of_ne hi, ← hw.entitiesOk]
      split
      · rename_i hc
        subst hc
        simp [hi]
      · split
        · rename_i hc; subst hc; simp [hi]
        · rfl

theorem relocated_rebuildable {cfg : AoiConfig P} {w : AoiWorld P} (hw : Inv cfg w)
    {id : EntityId} {e₀ : Entity P} (he : w.entities id = some e₀)
    (hp : e₀.isPlayer = true) (newPos : P) :
    Rebuildable cfg (relocated cfg w id e₀ newPos) (movedEntity cfg e₀ newPos) := by
  have hent := relocated_entities cfg w id e₀ newPos
  have hwat := relocated_watchersAt cfg w id e₀ newPos
  have hid : (movedEntity cfg e₀ newPos).id = id := hw.idOk id e₀ he
  refine ⟨by simp [hent, hid], hp, ?_, ?_, mem_entitiesAt_relocated hw he newPos, ?_, ?_, ?_, ?_⟩
  · rw [hent]
    exact forall_update_some hw.idOk hid
  · rw [hent]
    exact forall_update_some hw.sectorOk rfl
  · intro c v hv
    rw [hid] at hv
    rw [hwat, hent, Function.update_of_ne hv]
    exact hw.watchersOk c v
  · intro i e hne hi
    rw [hid] at hne
    rw [hent, Function.update_of_ne hne] at hi
    exact hw.subscribedOk i e hi
  · intro c hc
    rw [hid, hwat, hw.watchersOk]
    exact ⟨e₀, he, hp, hc⟩
  · intro c hc
    left
    rw [hid, hwat, hw.watchersOk] at hc
    obtain ⟨e, he', -, hs⟩ := hc
    rw [he] at he'
    obtain rfl := Option.some.inj he'
    exact hs

theorem relocated_inv {cfg : AoiConfig P} {w : AoiWorld P} (hw : Inv cfg w)
    {id : EntityId} {e₀ : Entity P} (he : w.entities id = some e₀)
    (hp : e₀.isPlayer = false) (newPos : P) : Inv cfg (relocated cfg w id e₀ newPos) := by
  have hent := relocated_entities cfg w id e₀ newPos
  refine ⟨?_, ?_, mem_entitiesAt_relocated hw he newPos, ?_, ?_⟩
  · rw [hent]
    exact forall_update_some hw.idOk (hw.idOk id e₀ he)
  · rw [hent]
    exact forall_update_some hw.sectorOk rfl
  · intro c v
    rw [relocated_watchersAt, hw.watchersOk, hent]
    by_cases hv : v = id
    · subst hv; simp [he, hp, movedEntity]
    · rw [Function.update_of_ne hv]
  · have hsub := hw.subscribedOk id e₀ he
    rw [hent]
    exact forall_update_some hw.subscribedOk (by simpa [movedEntity, hp] using hsub)

theorem resubscribed_inv {cfg : AoiConfig P} {w : AoiWorld P} (hw : Inv cfg w)
    {id : EntityId} {e₀ : Entity P} (he : w.entities id = some e₀) (newPos : P) :
    Inv cfg (resubscribed cfg w id e₀ newPos).1 := by
  unfold resubscribed
  cases hp : e₀.isPlayer with
  | true => exact rebuild_inv (relocated_rebuildable hw he hp newPos)
  | false => exact relocated_inv hw he hp newPos

/-- The entity a move leaves registered. -/
def settledEntity (cfg : AoiConfig P) (e₀ : Entity P) (newPos : P) : Entity P :=
  { movedEntity cfg e₀ newPos with
    subscribed := if e₀.isPlayer then cfg.viewWindow (cfg.worldToSector newPos) else ∅ }

/-- A move rewrites the mover's entity and no other. -/
theorem resubscribed_entities_eq {cfg : AoiConfig P} {w : AoiWorld P} (hw : Inv cfg w)
    {id : EntityId} {e₀ : Entity P} (he : w.entities id = some e₀) (newPos : P) :
    (resubscribed cfg w id e₀ newPos).1.entities =
      Function.update w.entities id (some (settledEntity cfg e₀ newPos)) := by
  have hsub := hw.subscribedOk id e₀ he
  obtain rfl : e₀.id = id := hw.idOk id e₀ he
  rw [resubscribed, settledEntity]
  cases hp : e₀.isPlayer with
  | true =>
    rw [if_pos rfl, if_pos rfl, rebuild_entities, relocated_entities]
    exact Function.update_idem _ _ _
  | false =>
    rw [hp, if_neg (by decide)] at hsub
    rw [if_neg (by decide), if_neg (by decide), relocated_entities, ← hsub]
    rfl

theorem moveEntity_entities {cfg : AoiConfig P} {w : AoiWorld P} (hw : Inv cfg w)
    {id : EntityId} {e₀ : Entity P} (he : w.entities id = some e₀) (newPos : P) :
    (w.moveEntity cfg id newPos).1.entities =
      Function.update w.entities id (some (settledEntity cfg e₀ newPos)) := by
  rw [moveEntity_fst he, entities_endCall, resubscribed_entities_eq hw he]

theorem moveEntity_of_none {cfg : AoiConfig P} {w : AoiWorld P} {id : EntityId}
    (h : w.entities id = none) (newPos : P) : w.moveEntity cfg id newPos = (w, []) := by
  simp [moveEntity, h]

theorem moveEntity_inv {cfg : AoiConfig P} {w : AoiWorld P} (hw : Inv cfg w) (id : EntityId)
    (newPos : P) : Inv cfg (w.moveEntity cfg id newPos).1 := by
  cases he : w.entities id with
  | none => rw [moveEntity_of_none he]; exact hw
  | some e₀ => rw [moveEntity_fst he]; exact inv_endCall (resubscribed_inv hw he newPos)

/-- A consistent world is always `Rebuildable` for its players. -/
theorem rebuildable_of_inv {cfg : AoiConfig P} {w : AoiWorld P} (hw : Inv cfg w)
    {id : EntityId} {e : Entity P} (he : w.entities id = some e) (hp : e.isPlayer = true) :
    Rebuildable cfg w e := by
  have hid := hw.idOk id e he
  refine ⟨hid ▸ he, hp, hw.idOk, hw.sectorOk, hw.entitiesOk, fun c v _ => hw.watchersOk c v,
    fun i e' _ hi => hw.subscribedOk i e' hi, ?_, ?_⟩
  · intro c hc
    rw [hid, hw.watchersOk]
    exact ⟨e, he, hp, hc⟩
  · intro c hc
    left
    rw [hid, hw.watchersOk] at hc
    obtain ⟨e', he', -, hs⟩ := hc
    rw [he] at he'
    obtain rfl := Option.some.inj he'
    exact hs

theorem updatePlayerAoi_inv {cfg : AoiConfig P} {w : AoiWorld P} (hw : Inv cfg w)
    (id : EntityId) : Inv cfg (w.updatePlayerAoi cfg id).1 := by
  unfold updatePlayerAoi
  cases he : w.entities id with
  | none => exact hw
  | some e =>
    cases hp : e.isPlayer with
    | true => simpa [hp] using inv_endCall (rebuild_inv (rebuildable_of_inv hw he hp))
    | false => simpa [hp] using hw

/-! ## Positions -/

/-- Every registered entity is at a position of `Q`. -/
def AllAt (Q : P → Prop) (w : AoiWorld P) : Prop := ∀ i e, w.entities i = some e → Q e.pos

variable {Q : P → Prop} {w : AoiWorld P}

theorem AllAt.update (h : w.AllAt Q) {w' : AoiWorld P} {id : EntityId} {e : Entity P}
    (hent : w'.entities = Function.update w.entities id (some e)) (he : Q e.pos) : w'.AllAt Q := by
  rw [AllAt, hent]
  exact forall_update_some h he

theorem AllAt.rebuild (h : w.AllAt Q) (cfg : AoiConfig P) (ord : AoiOrder) {e : Entity P}
    (he : Q e.pos) : (rebuildPlayerSubscriptions cfg ord w e).1.AllAt Q :=
  h.update (rebuild_entities cfg ord w e) he

theorem AllAt.addEntity (h : w.AllAt Q) (cfg : AoiConfig P) (id : EntityId) (isPlayer : Bool)
    {pos : P} (hpos : Q pos) : (w.addEntity cfg id isPlayer pos).1.AllAt Q := by
  have hplaced : (placed cfg w id isPlayer pos).AllAt Q :=
    h.update (e := newEntity cfg id isPlayer pos) rfl hpos
  rw [addEntity_fst]
  cases isPlayer with
  | true => exact hplaced.rebuild cfg _ hpos
  | false => exact hplaced

theorem AllAt.removeEntity (h : w.AllAt Q) (cfg : AoiConfig P) (id : EntityId) :
    (w.removeEntity cfg id).1.AllAt Q := by
  cases he : w.entities id with
  | none =>
    rw [removeEntity_of_none he]
    exact h
  | some e =>
    intro i e' hi
    rw [removeEntity_entities he] at hi
    exact h i e' (of_update_none hi).2

theorem AllAt.moveEntity (h : w.AllAt Q) (cfg : AoiConfig P) (id : EntityId) {newPos : P}
    (hpos : Q newPos) : (w.moveEntity cfg id newPos).1.AllAt Q := by
  cases he : w.entities id with
  | none =>
    rw [moveEntity_of_none he]
    exact h
  | some e₀ =>
    have hrelocated : (relocated cfg w id e₀ newPos).AllAt Q :=
      h.update (relocated_entities cfg w id e₀ newPos) hpos
    rw [moveEntity_fst he]
    unfold resubscribed
    split
    · exact hrelocated.rebuild cfg _ hpos
    · exact hrelocated

end AoiWorld

/-! ## Runs of the index -/

/-- A call of one of the public operations. -/
inductive AoiOp (P : Type) where
  | addEntity (id : EntityId) (isPlayer : Bool) (pos : P)
  | removeEntity (id : EntityId)
  | moveEntity (id : EntityId) (newPos : P)
  | updatePlayerAoi (playerId : EntityId)

/-- The call, made. -/
def AoiWorld.call (cfg : AoiConfig P) (w : AoiWorld P) :
    AoiOp P → AoiWorld P × List (Delivery P)
  | .addEntity id isPlayer pos => w.addEntity cfg id isPlayer pos
  | .removeEntity id => w.removeEntity cfg id
  | .moveEntity id newPos => w.moveEntity cfg id newPos
  | .updatePlayerAoi id => w.updatePlayerAoi cfg id

/-- Ids are added only while they are not registered. -/
def AoiOp.Fresh (w : AoiWorld P) : AoiOp P → Prop
  | .addEntity id _ _ => w.entities id = none
  | _ => True

/-- The index under any sequence of calls, from the empty world, with or
without a callback installed. -/
def aoiSystem (cfg : AoiConfig P) (sendCb : Bool) : System (AoiWorld P) (AoiOp P) :=
  .ofFn { sendCb } (fun w op => op.Fresh w) (fun w op => (w.call cfg op).1)

theorem AoiWorld.call_inv {cfg : AoiConfig P} {w : AoiWorld P} (hw : w.Inv cfg) {op : AoiOp P}
    (hop : op.Fresh w) : (w.call cfg op).1.Inv cfg := by
  cases op with
  | addEntity id isPlayer pos =>
    refine addEntity_inv hw fun e₀ he₀ => ?_
    rw [show w.entities id = none from hop] at he₀
    cases he₀
  | removeEntity id => exact removeEntity_inv hw id
  | moveEntity id newPos => exact moveEntity_inv hw id newPos
  | updatePlayerAoi id => exact updatePlayerAoi_inv hw id

theorem aoiSystem_inv {cfg : AoiConfig P} {sendCb : Bool} {l : List (AoiWorld P × AoiOp P)}
    {w : AoiWorld P} (r : Run (aoiSystem cfg sendCb) l w) : w.Inv cfg := by
  refine r.invariant ?_ ?_
  · rintro w rfl
    exact AoiWorld.inv_empty cfg sendCb
  · rintro w op w' hw ⟨hop, rfl⟩
    exact AoiWorld.call_inv hw hop

/-- **The representation invariant of the index**, in every state any
sequence of calls reaches. -/
theorem aoi_tables_agree (cfg : AoiConfig P) (sendCb : Bool)
    (l : List (AoiWorld P × AoiOp P)) (w : AoiWorld P) (r : Run (aoiSystem cfg sendCb) l w) :
    (∀ c i, i ∈ w.entitiesAt c ↔
      ∃ e, w.entities i = some e ∧ e.sector = c ∧ c = cfg.worldToSector e.pos) ∧
    (∀ c v, v ∈ w.watchersAt c ↔
      ∃ e, w.entities v = some e ∧ e.isPlayer = true ∧ c ∈ e.subscribed) ∧
    (∀ i e, w.entities i = some e →
      (e.isPlayer = true → ∀ c, c ∈ e.subscribed ↔ 0 ≤ c.x ∧ 0 ≤ c.y ∧
        |c.x - e.sector.x| ≤ cfg.viewRadius ∧ |c.y - e.sector.y| ≤ cfg.viewRadius) ∧
      (e.isPlayer = false → e.subscribed = ∅)) := by
  have hw := aoiSystem_inv r
  refine ⟨?_, hw.watchersOk, ?_⟩
  · intro c i
    rw [hw.entitiesOk]
    constructor
    · rintro ⟨e, he, rfl⟩
      exact ⟨e, he, rfl, hw.sectorOk i e he⟩
    · rintro ⟨e, he, hs, -⟩
      exact ⟨e, he, hs⟩
  · intro i e he
    have hsub := hw.subscribedOk i e he
    constructor
    · intro hp c
      rw [hsub, hp, if_pos rfl, AoiConfig.mem_viewWindow]
    · intro hp
      simpa [hp] using hsub

/-- A grid whose positions are cells, with sorted containers and radius 1. -/
def gridConfig : AoiConfig (Int × Int) where
  cell := id
  viewRadiusSectors := 1
  order _ :=
    { entities := fun _ => .increasing
      watchers := fun _ => .increasing
      subscribed := .byKey AoiSectorCoord.key AoiSectorCoord.key_injective
      newSet := .byKey AoiSectorCoord.key AoiSectorCoord.key_injective }

/-- Player 7 at the map corner, monster 9 diagonally next to it. -/
def gridCalls : List (AoiOp (Int × Int)) :=
  [.addEntity 7 true (0, 0), .addEntity 9 false (1, 1)]

/-- The world after `gridCalls`. -/
def gridWorld : AoiWorld (Int × Int) :=
  gridCalls.foldl (fun w op => (w.call gridConfig op).1) { sendCb := true }

theorem aoi_tables_agree_grid :
    7 ∈ gridWorld.watchersAt ⟨1, 1⟩ ∧ 9 ∈ gridWorld.entitiesAt ⟨1, 1⟩ := by
  have r₀ : Run (aoiSystem gridConfig true) [] _ := .start rfl
  have r₂ := (r₀.next (.addEntity 7 true (0, 0)) ⟨rfl, rfl⟩).next
    (.addEntity 9 false (1, 1)) ⟨rfl, rfl⟩
  obtain ⟨hentities, hwatchers, hsubscribed⟩ := aoi_tables_agree gridConfig true _ gridWorld r₂
  refine ⟨(hwatchers _ _).mpr ⟨_, rfl, rfl, ?_⟩, (hentities _ _).mpr ⟨_, rfl, rfl, rfl⟩⟩
  exact (((hsubscribed 7 _ rfl).1 rfl) _).mpr (by decide)

end MmorpgServer.Field
