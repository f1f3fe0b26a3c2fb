/-
MmorpgServer.Field.AoiEchoTheorems — what an entity is told about itself.

The loops of the index pass over the entity whose call it is, and
`broadcast_to_sector_watchers` excludes it. Two deliveries remain. A player
that moves is echoed its own Move. And the excluded id 0 means that nobody
is excluded, so a player with the id 0 is told of its own Enter.

`watchers_` therefore lists a player under its own id from its first move
on, not from its entry on (`FieldAoiSystem.moveEntity_lists`,
`FieldAoiSystem.addEntity_lists`). Nothing here needs an id to be added
only once.
-/
import MmorpgServer.Field.FieldAoiSystemTheorems

namespace MmorpgServer.Field

open MmorpgServer.Lib

variable {P : Type}

namespace AoiWorld

/-- Every entity is registered under its own id. -/
def Keyed (w : AoiWorld P) : Prop := ∀ i e, w.entities i = some e → e.id = i

/-- A player is registered under the id. -/
def PlayerAt (w : AoiWorld P) (id : EntityId) : Prop :=
  ∃ e, w.entities id = some e ∧ e.isPlayer = true

variable {cfg : AoiConfig P} {w : AoiWorld P}

/-! ## Registration -/

theorem Keyed.addEntity (h : w.Keyed) (cfg : AoiConfig P) (id : EntityId) (isPlayer : Bool)
    (pos : P) : (w.addEntity cfg id isPlayer pos).1.Keyed := by
  rw [Keyed, addEntity_entities_eq]
  exact forall_update_some h rfl

theorem Keyed.removeEntity (h : w.Keyed) (cfg : AoiConfig P) (id : EntityId) :
    (w.removeEntity cfg id).1.Keyed := by
  cases he : w.entities id with
  | none =>
    rw [removeEntity_of_none he]
    exact h
  | some e =>
    intro i e' hi
    rw [removeEntity_entities he] at hi
    exact h i e' (of_update_none hi).2

/-- A move rewrites the entry of the entity that moves. -/
theorem Keyed.moved_entities (h : w.Keyed) (cfg : AoiConfig P) {id : EntityId} {e₀ : Entity P}
    (he : w.entities id = some e₀) (newPos : P) :
    ∃ e, (w.moveEntity cfg id newPos).1.entities = Function.update w.entities id (some e) ∧
      e.id = id ∧ e.isPlayer = e₀.isPlayer := by
  obtain rfl : e₀.id = id := h id e₀ he
  rw [moveEntity_fst he, entities_endCall, resubscribed]
  cases hp : e₀.isPlayer with
  | true =>
    rw [if_pos rfl, rebuild_entities, relocated_entities]
    exact ⟨_, Function.update_idem _ _ _, rfl, hp⟩
  | false =>
    rw [if_neg (by decide), relocated_entities]
    exact ⟨_, rfl, rfl, hp⟩

theorem Keyed.moveEntity (h : w.Keyed) (cfg : AoiConfig P) (id : EntityId) (newPos : P) :
    (w.moveEntity cfg id newPos).1.Keyed := by
  cases he : w.entities id with
  | none =>
    rw [moveEntity_of_none he]
    exact h
  | some e₀ =>
    obtain ⟨e, hent, hid, -⟩ := h.moved_entities cfg he newPos
    rw [Keyed, hent]
    exact forall_update_some h hid

theorem PlayerAt.addEntity {v : EntityId} (h : w.PlayerAt v) (cfg : AoiConfig P)
    {id : EntityId} (hid : id ≠ v) (isPlayer : Bool) (pos : P) :
    (w.addEntity cfg id isPlayer pos).1.PlayerAt v := by
  obtain ⟨e, he, hp⟩ := h
  exact ⟨e, by rw [addEntity_entities_eq, Function.update_of_ne hid.symm, he], hp⟩

theorem playerAt_addEntity (cfg : AoiConfig P) (w : AoiWorld P) (id : EntityId) (pos : P) :
    (w.addEntity cfg id true pos).1.PlayerAt id :=
  ⟨_, by rw [addEntity_entities_eq, Function.update_self], rfl⟩

theorem PlayerAt.removeEntity {v : EntityId} (h : w.PlayerAt v) (cfg : AoiConfig P)
    {id : EntityId} (hid : id ≠ v) : (w.removeEntity cfg id).1.PlayerAt v := by
  obtain ⟨e, he, hp⟩ := h
  cases hrem : w.entities id with
  | none => exact ⟨e, by rw [removeEntity_of_none hrem, he], hp⟩
  | some e' => exact ⟨e, by rw [removeEntity_entities hrem, Function.update_of_ne hid.symm, he], hp⟩

theorem PlayerAt.moveEntity {v : EntityId} (h : w.PlayerAt v) (hw : w.Keyed)
    (cfg : AoiConfig P) (id : EntityId) (newPos : P) :
    (w.moveEntity cfg id newPos).1.PlayerAt v := by
  obtain ⟨e, he, hp⟩ := h
  cases hmove : w.entities id with
  | none => exact ⟨e, by rw [moveEntity_of_none hmove, he], hp⟩
  | some e₀ =>
    obtain ⟨e', hent, -, hp'⟩ := hw.moved_entities cfg hmove newPos
    by_cases hv : v = id
    · subst hv
      obtain rfl := Option.some.inj (he.symm.trans hmove)
      exact ⟨e', by rw [hent, Function.update_self], hp'.trans hp⟩
    · exact ⟨e, by rw [hent, Function.update_of_ne hv, he], hp⟩

/-! ## What is delivered to the subject -/

/-- A broadcast does not reach the excluded id, unless that is 0. -/
theorem broadcast_spec {ord : AoiOrder} {c : AoiSectorCoord} {ev : AoiEvent P}
    {excludeId : EntityId} (hcb : w.sendCb = true) {d : Delivery P}
    (hd : d ∈ broadcastToSectorWatchers ord w c ev excludeId) :
    d.ev = ev ∧ (d.watcherId = excludeId → excludeId = 0) := by
  rw [broadcast_eq ord hcb] at hd
  obtain ⟨v, -, hv⟩ := List.mem_filterMap.mp hd
  split at hv
  · cases hv
  · rename_i hexclude
    obtain rfl := Option.some.inj hv
    exact ⟨rfl, fun h => by_contra fun h0 => hexclude ⟨h0, h⟩⟩

theorem crossing_spec {ord : AoiOrder} {id : EntityId} {pos : P} {old new : AoiSectorCoord}
    {d : Delivery P} (hd : d ∈ crossingEvents ord w id pos old new) :
    d.ev.subjectId = id ∧ d.watcherId ≠ id := by
  rw [crossingEvents_eq] at hd
  rcases List.mem_append.mp hd with hd | hd
  all_goals
    obtain ⟨v, -, hv⟩ := List.mem_filterMap.mp hd
    split at hv
    · cases hv
    · split at hv
      · cases hv
      · rename_i hne
        obtain rfl := Option.some.inj hv
        exact ⟨rfl, hne⟩

/-- A rebuild tells its player of the others. -/
theorem rebuild_spec {ord : AoiOrder} {e : Entity P} (hcb : w.sendCb = true) (hw : w.Keyed)
    {d : Delivery P} (hd : d ∈ (rebuildPlayerSubscriptions cfg ord w e).2) :
    d.watcherId = e.id ∧ d.ev.subjectId ≠ e.id := by
  rw [rebuild_snd cfg ord hcb] at hd
  rcases List.mem_append.mp hd with hd | hd
  · obtain ⟨sc, -, hd⟩ := List.mem_flatMap.mp hd
    obtain ⟨x, -, hx⟩ := List.mem_filterMap.mp hd
    obtain ⟨hs, hv⟩ := leaveFor_spec hx
    refine ⟨hv, fun h => ?_⟩
    rw [leaveFor, if_pos (hs.symm.trans h)] at hx
    cases hx
  · obtain ⟨sc, -, hd⟩ := List.mem_flatMap.mp hd
    obtain ⟨x, -, hx⟩ := List.mem_filterMap.mp hd
    obtain ⟨hs, hv⟩ := snapshotFor_spec hw hx
    refine ⟨hv, fun h => ?_⟩
    rw [snapshotFor, if_pos (hs.symm.trans h)] at hx
    cases hx

/-- **An entity that is added** is told of itself only if its id is 0. -/
theorem addEntity_own (hcb : w.sendCb = true) (hw : w.Keyed) {id : EntityId} {isPlayer : Bool}
    {pos : P} {d : Delivery P} (hd : d ∈ (w.addEntity cfg id isPlayer pos).2)
    (hown : d.watcherId = d.ev.subjectId) :
    d.ev.subjectId = id ∧ id = 0 ∧ d.ev.type = .enter := by
  rw [addEntity_snd] at hd
  rcases List.mem_append.mp hd with hd | hd
  · cases isPlayer with
    | false => cases hd
    | true =>
      rw [if_pos rfl] at hd
      have hplaced : (placed cfg w id true pos).Keyed := forall_update_some hw rfl
      obtain ⟨hv, hs⟩ := rebuild_spec (by exact hcb) hplaced hd
      exact absurd (hown.symm.trans hv) hs
  · obtain ⟨hev, hzero⟩ := broadcast_spec (by rw [addEntity_sendCb, hcb]) hd
    have hs : d.ev.subjectId = id := by rw [hev]
    exact ⟨hs, hzero (hown.trans hs), by rw [hev]⟩

/-- A player with the id 0 is told of itself. -/
theorem addEntity_zero (hcb : w.sendCb = true) (pos : P) :
    (⟨0, ⟨.enter, 0, pos⟩⟩ : Delivery P) ∈ (w.addEntity cfg 0 true pos).2 := by
  have hsector : cfg.worldToSector pos ∈ cfg.viewWindow (cfg.worldToSector pos) := by
    obtain ⟨hx, hy⟩ := cfg.worldToSector_nonneg pos
    have hradius := cfg.viewRadius_pos
    rw [AoiConfig.mem_viewWindow, sub_self, sub_self, abs_zero]
    exact ⟨hx, hy, hradius.le, hradius.le⟩
  rw [addEntity_snd, broadcast_eq _ (by rw [addEntity_sendCb, hcb])]
  refine List.mem_append_right _ (List.mem_filterMap.mpr ⟨0, ?_, by simp⟩)
  rw [Enumeration.mem_iff, mem_watchersAt_addEntity]
  exact .inr ⟨rfl, hsector⟩

/-- **An entity that moves** is told of itself only by the echo. -/
theorem moveEntity_own (hcb : w.sendCb = true) (hw : w.Keyed) {id : EntityId} {newPos : P}
    {d : Delivery P} (hd : d ∈ (w.moveEntity cfg id newPos).2)
    (hown : d.watcherId = d.ev.subjectId) : d.ev.subjectId = id ∧ d.ev.type = .move := by
  cases he : w.entities id with
  | none =>
    rw [moveEntity_of_none he] at hd
    cases hd
  | some e₀ =>
    have hcb' := (resubscribed_sendCb cfg w id e₀ newPos).trans hcb
    rw [moveEntity_eq he, if_pos hcb'] at hd
    rcases List.mem_append.mp hd with hd | hd
    · rw [resubscribed] at hd
      split at hd
      · have hrelocated : (relocated cfg w id e₀ newPos).Keyed := by
          rw [Keyed, relocated_entities]
          exact forall_update_some hw (hw id e₀ he)
        obtain ⟨hv, hs⟩ := rebuild_spec (by rw [relocated_sendCb, hcb]) hrelocated hd
        exact absurd (hown.symm.trans hv) hs
      · cases hd
    · rw [subjectEvents] at hd
      rcases List.mem_append.mp hd with hd | hd
      · rcases List.mem_append.mp hd with hd | hd
        · split at hd
          · obtain ⟨hs, hv⟩ := crossing_spec hd
            exact absurd (hown.trans hs) hv
          · cases hd
        · obtain ⟨hev, -⟩ := broadcast_spec hcb' hd
          rw [hev]
          exact ⟨rfl, rfl⟩
      · split at hd
        · rw [List.mem_singleton.mp hd]
          exact ⟨rfl, rfl⟩
        · cases hd

/-- A player that moves is told of it. -/
theorem moveEntity_echo (hcb : w.sendCb = true) {id : EntityId} (h : w.PlayerAt id)
    (newPos : P) : (⟨id, ⟨.move, id, newPos⟩⟩ : Delivery P) ∈ (w.moveEntity cfg id newPos).2 := by
  obtain ⟨e, he, hp⟩ := h
  have hp' : (movedEntity cfg e newPos).isPlayer = true := hp
  rw [moveEntity_eq he, if_pos ((resubscribed_sendCb cfg w id e newPos).trans hcb), subjectEvents,
    hp']
  simp

/-- What is sent when an entity is removed is about it. -/
theorem removeEntity_about (hcb : w.sendCb = true) {id : EntityId} {d : Delivery P}
    (hd : d ∈ (w.removeEntity cfg id).2) : d.ev.subjectId = id := by
  cases he : w.entities id with
  | none =>
    rw [removeEntity_of_none he] at hd
    cases hd
  | some e =>
    have hevs : (w.removeEntity cfg id).2 = broadcastToSectorWatchers (cfg.order w.calls) w
        e.sector ⟨.leave, id, e.pos⟩ id := by
      simp only [AoiWorld.removeEntity, he]
    rw [hevs] at hd
    rw [(broadcast_spec hcb hd).1]

end AoiWorld

/-! ## The own row of the table -/

namespace FieldAoiSystem

/-- As long as it is told of no Leave of its own, an entity stays on its
own list, and comes onto it as soon as it is told of itself. -/
theorem mem_own_emitLoop (f : FieldAoiSystem P) {L : List (Delivery P)} {s : EntityId}
    (hL : ∀ d ∈ L, d.watcherId = s → d.ev.subjectId = s → d.ev.type ≠ .leave) :
    s ∈ (emitLoop callback f L).1.forEachWatcher s ↔
      s ∈ f.forEachWatcher s ∨ ∃ d ∈ L, d.watcherId = s ∧ d.ev.subjectId = s := by
  induction L generalizing f with
  | nil => simp [emitLoop]
  | cons d L ih =>
    rw [List.forall_mem_cons] at hL
    rw [emitLoop, ih _ hL.2, forEachWatcher_callback, List.exists_mem_cons_iff, ← or_assoc]
    refine or_congr ?_ Iff.rfl
    by_cases hs : s = d.ev.subjectId
    · rw [if_pos hs]
      by_cases hw : d.watcherId = s
      · have hleave := hL.1 hw hs.symm
        rw [hw]
        cases htype : d.ev.type with
        | leave => exact absurd htype hleave
        | enter | move | snapshot =>
          simp only [updateVec, hs, and_self, or_true, iff_true]
          split
          · assumption
          · simp
      · cases d.ev.type with
        | leave => simp [updateVec, List.mem_erase_of_ne (Ne.symm hw), hw]
        | enter | move | snapshot =>
          simp only [updateVec]
          split <;> simp [hw, Ne.symm hw]
    · rw [if_neg hs]
      simp [Ne.symm hs]

theorem mem_own_handle (f : FieldAoiSystem P) (r : AoiWorld P × List (Delivery P)) {s : EntityId}
    (hL : ∀ d ∈ r.2, d.watcherId = s → d.ev.subjectId = s → d.ev.type ≠ .leave) :
    s ∈ (f.handle r).1.forEachWatcher s ↔
      s ∈ f.forEachWatcher s ∨ ∃ d ∈ r.2, d.watcherId = s ∧ d.ev.subjectId = s :=
  mem_own_emitLoop { f with aoi := r.1 } hL

variable {cfg : AoiConfig P} {f : FieldAoiSystem P}

/-- **Adding** lists a player under its own id only if that is 0. -/
theorem addEntity_lists (hcb : f.aoi.sendCb = true) (hw : f.aoi.Keyed) {id s : EntityId}
    {isPlayer : Bool} (hs : s = id → isPlayer = true) (pos : P) :
    s ∈ (f.addEntity cfg id isPlayer pos).1.forEachWatcher s ↔
      s ∈ f.forEachWatcher s ∨ (s = id ∧ s = 0) := by
  have hown : ∀ d ∈ (f.aoi.addEntity cfg id isPlayer pos).2, d.watcherId = s →
      d.ev.subjectId = s → s = id ∧ s = 0 ∧ d.ev.type = .enter := by
    intro d hd hv hsub
    obtain ⟨hid, hzero, htype⟩ := AoiWorld.addEntity_own hcb hw hd (hv.trans hsub.symm)
    have hsid := hsub.symm.trans hid
    exact ⟨hsid, hsid.trans hzero, htype⟩
  rw [addEntity, mem_own_handle]
  · refine or_congr Iff.rfl ⟨?_, ?_⟩
    · rintro ⟨d, hd, hv, hsub⟩
      exact ⟨(hown d hd hv hsub).1, (hown d hd hv hsub).2.1⟩
    · rintro ⟨rfl, rfl⟩
      obtain rfl := hs rfl
      exact ⟨_, AoiWorld.addEntity_zero hcb pos, rfl, rfl⟩
  · intro d hd hv hsub
    rw [(hown d hd hv hsub).2.2]
    nofun

/-- **Moving** lists a player under its own id. -/
theorem moveEntity_lists (hcb : f.aoi.sendCb = true) (hw : f.aoi.Keyed) {id s : EntityId}
    (hs : s = id → f.aoi.PlayerAt id) (pos : P) :
    s ∈ (f.moveEntity cfg id pos).1.forEachWatcher s ↔ s ∈ f.forEachWatcher s ∨ s = id := by
  have hown : ∀ d ∈ (f.aoi.moveEntity cfg id pos).2, d.watcherId = s → d.ev.subjectId = s →
      s = id ∧ d.ev.type = .move := by
    intro d hd hv hsub
    obtain ⟨hid, htype⟩ := AoiWorld.moveEntity_own hcb hw hd (hv.trans hsub.symm)
    exact ⟨hsub.symm.trans hid, htype⟩
  rw [moveEntity, mem_own_handle]
  · refine or_congr Iff.rfl ⟨?_, ?_⟩
    · rintro ⟨d, hd, hv, hsub⟩
      exact (hown d hd hv hsub).1
    · rintro rfl
      exact ⟨_, AoiWorld.moveEntity_echo hcb (hs rfl) pos, rfl, rfl⟩
  · intro d hd hv hsub
    rw [(hown d hd hv hsub).2]
    nofun

/-- **Removing** takes the row of the entity away, and leaves the others
on their own. -/
theorem removeEntity_lists (hcb : f.aoi.sendCb = true) {id s : EntityId} :
    s ∈ (f.removeEntity cfg id).1.forEachWatcher s ↔ s ∈ f.forEachWatcher s ∧ s ≠ id := by
  have hrow := (call_eq cfg f (.removeEntity id)).2 s
  rw [show (f.removeEntity cfg id).1.forEachWatcher s = _ from hrow]
  by_cases hs : id = s
  · rw [if_pos (by rw [hs]; rfl)]
    simp [hs]
  · have habout : ∀ d ∈ (f.aoi.removeEntity cfg id).2, d.ev.subjectId ≠ s := fun d hd h =>
      hs ((AoiWorld.removeEntity_about hcb hd).symm.trans h)
    rw [if_neg (by exact fun h => hs (Option.some.inj h)), mem_own_handle]
    · constructor
      · rintro (h | ⟨d, hd, -, hsub⟩)
        · exact ⟨h, Ne.symm hs⟩
        · exact absurd hsub (habout d hd)
      · exact fun h => .inl h.1
    · exact fun d hd _ hsub => absurd hsub (habout d hd)

/-- What is known of the own rows of a table: an id that is not in `ids`
is on its own list if and only if it was `told`. The `players` are
registered as such. -/
structure Lists (ids : List EntityId) (players : Finset EntityId) (told : EntityId → Prop)
    (f : FieldAoiSystem P) : Prop where
  sendCb : f.aoi.sendCb = true
  keyed : f.aoi.Keyed
  registered : ∀ v ∈ players, f.aoi.PlayerAt v
  apart : ∀ v ∈ players, v ∉ ids
  own : ∀ v, v ∉ ids → (v ∈ f.forEachWatcher v ↔ told v)

variable {ids : List EntityId} {players : Finset EntityId} {told told' : EntityId → Prop}

theorem Lists.congr (h : f.Lists ids players told) (htold : ∀ v, v ∉ ids → (told v ↔ told' v)) :
    f.Lists ids players told' :=
  { h with own := fun v hv => (h.own v hv).trans (htold v hv) }

/-- A player moves, or something whose row does not count. -/
theorem Lists.move (h : f.Lists ids players told) {id : EntityId} (hid : id ∈ players ∨ id ∈ ids)
    (pos : P) : (f.moveEntity cfg id pos).1.Lists ids players fun v => told v ∨ v = id := by
  have haoi : (f.moveEntity cfg id pos).1.aoi = (f.aoi.moveEntity cfg id pos).1 := handle_aoi _ _
  refine ⟨?_, ?_, fun v hv => ?_, h.apart, fun v hv => ?_⟩
  · rw [haoi]
    exact (AoiWorld.call_sendCb cfg f.aoi (.moveEntity id pos)).trans h.sendCb
  · rw [haoi]
    exact h.keyed.moveEntity cfg id pos
  · rw [haoi]
    exact (h.registered v hv).moveEntity h.keyed cfg id pos
  · rw [moveEntity_lists h.sendCb h.keyed, h.own v hv]
    rintro rfl
    exact h.registered v (hid.resolve_right hv)

/-- A player is added, also one that is there already. -/
theorem Lists.add (h : f.Lists ids players told) {id : EntityId} (hid : id ∉ ids) (pos : P) :
    (f.addEntity cfg id true pos).1.Lists ids (insert id players) fun v =>
      told v ∨ (v = id ∧ v = 0) := by
  have haoi : (f.addEntity cfg id true pos).1.aoi = (f.aoi.addEntity cfg id true pos).1 :=
    handle_aoi _ _
  refine ⟨?_, ?_, fun v hv => ?_, fun v hv => ?_, fun v hv => ?_⟩
  · rw [haoi, AoiWorld.addEntity_sendCb, h.sendCb]
  · rw [haoi]
    exact h.keyed.addEntity cfg id true pos
  · rw [haoi]
    by_cases hvid : v = id
    · subst hvid
      exact AoiWorld.playerAt_addEntity cfg f.aoi v pos
    · exact (h.registered v ((Finset.mem_insert.mp hv).resolve_left hvid)).addEntity cfg
        (Ne.symm hvid) true pos
  · rcases Finset.mem_insert.mp hv with rfl | hv
    · exact hid
    · exact h.apart v hv
  · rw [addEntity_lists h.sendCb h.keyed fun _ => rfl, h.own v hv]

/-- Something whose row does not count is added. -/
theorem Lists.add_other (h : f.Lists ids players told) {id : EntityId} (hid : id ∈ ids) (pos : P) :
    (f.addEntity cfg id false pos).1.Lists ids players told := by
  have haoi : (f.addEntity cfg id false pos).1.aoi = (f.aoi.addEntity cfg id false pos).1 :=
    handle_aoi _ _
  have hne : ∀ v, v ∉ ids → v ≠ id := fun v hv hvid => hv (hvid ▸ hid)
  refine ⟨?_, ?_, fun v hv => ?_, h.apart, fun v hv => ?_⟩
  · rw [haoi, AoiWorld.addEntity_sendCb, h.sendCb]
  · rw [haoi]
    exact h.keyed.addEntity cfg id false pos
  · rw [haoi]
    exact (h.registered v hv).addEntity cfg (hne v (h.apart v hv)).symm false pos
  · rw [addEntity_lists h.sendCb h.keyed fun hvid => absurd hvid (hne v hv), h.own v hv]
    exact or_iff_left fun hvid => hne v hv hvid.1

/-- An entity is removed. -/
theorem Lists.remove (h : f.Lists ids players told) (id : EntityId) :
    (f.removeEntity cfg id).1.Lists ids (players.erase id) fun v => told v ∧ v ≠ id := by
  have haoi : (f.removeEntity cfg id).1.aoi = (f.aoi.removeEntity cfg id).1 := handle_aoi _ _
  refine ⟨?_, ?_, fun v hv => ?_, fun v hv => h.apart v (Finset.mem_of_mem_erase hv),
    fun v hv => ?_⟩
  · rw [haoi, AoiWorld.removeEntity_sendCb, h.sendCb]
  · rw [haoi]
    exact h.keyed.removeEntity cfg id
  · obtain ⟨hvid, hv⟩ := Finset.mem_erase.mp hv
    rw [haoi]
    exact (h.registered v hv).removeEntity cfg (Ne.symm hvid)
  · rw [removeEntity_lists h.sendCb, h.own v hv]

/-- Something whose row does not count is removed. -/
theorem Lists.remove_other (h : f.Lists ids players told) {id : EntityId} (hid : id ∈ ids) :
    (f.removeEntity cfg id).1.Lists ids players told := by
  have hremoved : (f.removeEntity cfg id).1.Lists _ _ _ := h.remove id
  rw [Finset.erase_eq_of_notMem fun hmem => h.apart id hmem hid] at hremoved
  exact hremoved.congr fun v hv => and_iff_left fun hvid => hv (hvid ▸ hid)

end FieldAoiSystem

end MmorpgServer.Field
