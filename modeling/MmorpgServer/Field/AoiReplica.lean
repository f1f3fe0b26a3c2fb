/-
MmorpgServer.Field.AoiReplica — what a client makes of the events it is
sent is what the index says it sees.

The abstract statement of the index's purpose is `seen`: the position of
`s` if `s` is registered and stands in the view window of the registered
player `w`, and nothing otherwise. A client folds the deliveries addressed
to it into a map (`deliverAll` of `Lib.Replica`): Snapshot and Enter
insert, Move overwrites, Leave deletes; deliveries about the client itself
are dropped.

One lemma per source of events (`heard_broadcast`, `heard_crossing`,
`heard_rebuild`) computes what one client hears about one subject. From
them every operation is a `Diff` between what was seen before and after
the call, whoever moved: `call_diff`. `client_replica` follows by
induction over the run.
-/
import MmorpgServer.Field.AoiWorldTheorems
import MmorpgServer.Lib.Replica

namespace MmorpgServer.Field

open MmorpgServer.Lib

variable {P : Type}

/-! ## Deliveries as updates of a client's map -/

/-- What a client does with an event. -/
def AoiEvent.update (ev : AoiEvent P) : Update P :=
  match ev.type with
  | .enter => .insert ev.position
  | .snapshot => .insert ev.position
  | .move => .overwrite ev.position
  | .leave => .delete

/-- The deliveries as messages keyed by watcher and subject; a delivery
about its own watcher is ignored. -/
def updates (L : List (Delivery P)) : List ((EntityId × EntityId) × Update P) :=
  (L.filter fun d => d.watcherId ≠ d.ev.subjectId).map fun d =>
    ((d.watcherId, d.ev.subjectId), d.ev.update)

/-- What `v` hears about `s`. -/
def heard (v s : EntityId) (L : List (Delivery P)) : List (Update P) := channel (v, s) (updates L)

@[simp] theorem heard_nil (v s : EntityId) : heard v s ([] : List (Delivery P)) = [] := rfl

theorem heard_append (v s : EntityId) (L L' : List (Delivery P)) :
    heard v s (L ++ L') = heard v s L ++ heard v s L' := by
  simp [heard, updates, channel_append]

theorem heard_flatMap {ι : Type} (v s : EntityId) (l : List ι) (f : ι → List (Delivery P)) :
    heard v s (l.flatMap f) = l.flatMap fun i => heard v s (f i) := by
  induction l with
  | nil => rfl
  | cons i l ih => simp only [List.flatMap_cons, heard_append, ih]

theorem heard_singleton {v s : EntityId} (hvs : v ≠ s) (d : Delivery P) :
    heard v s [d] = if d.watcherId = v ∧ d.ev.subjectId = s then [d.ev.update] else [] := by
  by_cases h : d.watcherId = v ∧ d.ev.subjectId = s
  · obtain ⟨rfl, rfl⟩ := h
    simp [heard, updates, hvs, channel]
  · rw [if_neg h]
    by_cases hd : d.watcherId = d.ev.subjectId
    · simp [heard, updates, hd]
    · simp only [heard, updates, channel, hd, ne_eq, not_false_eq_true, decide_true,
        List.filter_cons_of_pos, List.filter_nil, List.map_cons, List.map_nil, Prod.mk.injEq, h,
        if_false, List.filterMap_cons_none, List.filterMap_nil]

/-- Nobody else's delivery is heard. -/
theorem heard_of_watcher_ne {v s : EntityId} (hvs : v ≠ s) {o : Option (Delivery P)}
    (ho : ∀ d, o = some d → d.watcherId ≠ v) : heard v s o.toList = [] := by
  cases o with
  | none => rfl
  | some d => rw [Option.toList_some, heard_singleton hvs, if_neg fun h => ho d rfl h.1]

theorem heard_self (v : EntityId) (L : List (Delivery P)) : heard v v L = [] := by
  simp only [heard, channel, updates, List.filterMap_eq_nil_iff, List.mem_map, List.mem_filter]
  rintro _ ⟨d, ⟨-, hd⟩, rfl⟩
  have hne : d.watcherId ≠ d.ev.subjectId := by simpa using hd
  simp only [Prod.mk.injEq, ite_eq_right_iff, reduceCtorEq, imp_false]
  rintro ⟨h₁, h₂⟩
  exact hne (h₁.trans h₂.symm)

/-- A loop over a set that can only concern `v` and `s` at one element. -/
theorem heard_filterMap {ι : Type} [DecidableEq ι] (E : Enumeration ι) (S : Finset ι)
    (f : ι → Option (Delivery P)) {v s : EntityId} (hvs : v ≠ s) (a : ι)
    (hf : ∀ x ∈ S, x ≠ a → ∀ d, f x = some d → ¬ (d.watcherId = v ∧ d.ev.subjectId = s)) :
    heard v s ((E.list S).filterMap f) = if a ∈ S then heard v s (f a).toList else [] := by
  rw [List.filterMap_eq_flatMap_toList, heard_flatMap, E.flatMap_single S _ a]
  intro x hx hxa
  cases hfx : f x with
  | none => rfl
  | some d =>
    rw [Option.toList_some, heard_singleton hvs, if_neg (hf x hx hxa d hfx)]

namespace AoiWorld

/-! ## What one client hears about one subject -/

theorem broadcast_eq (ord : AoiOrder) {w : AoiWorld P} (hcb : w.sendCb = true)
    (c : AoiSectorCoord) (ev : AoiEvent P) (excludeId : EntityId) :
    broadcastToSectorWatchers ord w c ev excludeId =
      ((ord.watchers c).list (w.watchersAt c)).filterMap fun watcherId =>
        if excludeId ≠ 0 ∧ watcherId = excludeId then none else some ⟨watcherId, ev⟩ := by
  simp only [broadcastToSectorWatchers, hcb, Bool.not_true, Bool.false_eq_true, if_false]
  cases hc : w.sectors c with
  | none => simp [watchersAt, getOrCreateSector_of_none hc]
  | some s => simp [watchersAt, getOrCreateSector_of_some hc]

/-- A broadcast about `ev.subjectId` reaches exactly the watchers. -/
theorem heard_broadcast (ord : AoiOrder) {w : AoiWorld P} (hcb : w.sendCb = true)
    (c : AoiSectorCoord) (ev : AoiEvent P) {v s : EntityId} (hvs : v ≠ s) :
    heard v s (broadcastToSectorWatchers ord w c ev ev.subjectId) =
      if ev.subjectId = s ∧ v ∈ w.watchersAt c then [ev.update] else [] := by
  rw [broadcast_eq ord hcb, heard_filterMap _ _ _ hvs v]
  · by_cases hs : ev.subjectId = s
    · subst hs
      simp [hvs, heard_singleton hvs]
    · have hnone : heard v s (if ev.subjectId ≠ 0 ∧ v = ev.subjectId then none
          else some (⟨v, ev⟩ : Delivery P)).toList = [] := by
        split
        · rfl
        · rw [Option.toList_some, heard_singleton hvs, if_neg (fun h => hs h.2)]
      rw [hnone]
      simp [hs]
  · intro x _ hxv d hd
    split at hd
    · simp at hd
    · obtain rfl := Option.some.inj hd
      exact fun h => hxv h.1

/-- The events of a crossing, as two loops over the watcher sets. -/
theorem crossingEvents_eq (ord : AoiOrder) (w : AoiWorld P) (id : EntityId) (pos : P)
    (old new : AoiSectorCoord) :
    crossingEvents ord w id pos old new =
      (((ord.watchers old).list (w.watchersAt old)).filterMap fun watcherId =>
        if watcherId ∈ w.watchersAt new then none
        else if watcherId = id then none
        else some ⟨watcherId, ⟨.leave, id, pos⟩⟩) ++
      (((ord.watchers new).list (w.watchersAt new)).filterMap fun watcherId =>
        if watcherId ∈ w.watchersAt old then none
        else if watcherId = id then none
        else some ⟨watcherId, ⟨.enter, id, pos⟩⟩) := by
  unfold crossingEvents
  cases hold : w.sectors old <;> cases hnew : w.sectors new <;>
    simp [getSector, hold, hnew, watchersAt, getOrCreateSector_of_some,
      getOrCreateSector_of_none]

/-- The Leave / Enter part of a move: watchers of one sector only. -/
theorem heard_crossing (ord : AoiOrder) (w : AoiWorld P) (id : EntityId) (pos : P)
    (old new : AoiSectorCoord) {v s : EntityId} (hvs : v ≠ s) :
    heard v s (crossingEvents ord w id pos old new) =
      (if id = s ∧ v ∈ w.watchersAt old ∧ v ∉ w.watchersAt new then [.delete] else []) ++
        (if id = s ∧ v ∈ w.watchersAt new ∧ v ∉ w.watchersAt old then [.insert pos] else []) := by
  -- one half of the events: watchers of `c` that are not watchers of `c'`
  have half : ∀ (c c' : AoiSectorCoord) (ev : AoiEvent P), ev.subjectId = id →
      heard v s (((ord.watchers c).list (w.watchersAt c)).filterMap fun watcherId =>
        if watcherId ∈ w.watchersAt c' then none
        else if watcherId = id then none
        else some ⟨watcherId, ev⟩) =
      if id = s ∧ v ∈ w.watchersAt c ∧ v ∉ w.watchersAt c' then [ev.update] else [] := by
    intro c c' ev hev
    rw [heard_filterMap _ _ _ hvs v]
    · by_cases hv : v ∈ w.watchersAt c
      · by_cases hv' : v ∈ w.watchersAt c'
        · simp [hv']
        · by_cases hid : id = s
          · subst hid
            simp [hv, hv', hvs, heard_singleton hvs, hev]
          · simp only [hv, hv', if_true, if_false, hid, false_and]
            split
            · rfl
            · rw [Option.toList_some, heard_singleton hvs, if_neg (fun h => hid (hev ▸ h.2))]
      · simp [hv]
    · intro x _ hxv d hd
      split at hd
      · simp at hd
      · split at hd
        · simp at hd
        · obtain rfl := Option.some.inj hd
          exact fun h => hxv h.1
  rw [crossingEvents_eq, heard_append, half old new _ rfl, half new old _ rfl]
  rfl

/-- What `unwatchSector` sends about one entity of the sector. -/
def leaveFor (e : Entity P) (newSet : Finset AoiSectorCoord)
    (entities : EntityId → Option (Entity P)) (otherId : EntityId) : Option (Delivery P) :=
  if otherId = e.id then none
  else match entities otherId with
    | none => none
    | some other =>
      if other.sector ∈ newSet then none else some ⟨e.id, ⟨.leave, otherId, other.pos⟩⟩

/-- What `watchSector` sends about one entity of the sector. -/
def snapshotFor (e : Entity P) (entities : EntityId → Option (Entity P))
    (otherId : EntityId) : Option (Delivery P) :=
  if otherId = e.id then none
  else match entities otherId with
    | none => none
    | some other => some ⟨e.id, ⟨.snapshot, other.id, other.pos⟩⟩

theorem leaveFor_spec {e : Entity P} {newSet : Finset AoiSectorCoord}
    {entities : EntityId → Option (Entity P)} {x : EntityId} {d : Delivery P}
    (hd : leaveFor e newSet entities x = some d) : d.ev.subjectId = x ∧ d.watcherId = e.id := by
  unfold leaveFor at hd
  split at hd
  · simp at hd
  · split at hd
    · simp at hd
    · split at hd
      · simp at hd
      · obtain rfl := Option.some.inj hd
        exact ⟨rfl, rfl⟩

theorem snapshotFor_spec {e : Entity P} {entities : EntityId → Option (Entity P)}
    (hid : ∀ i other, entities i = some other → other.id = i) {x : EntityId} {d : Delivery P}
    (hd : snapshotFor e entities x = some d) : d.ev.subjectId = x ∧ d.watcherId = e.id := by
  unfold snapshotFor at hd
  split at hd
  · simp at hd
  · split at hd
    · simp at hd
    · rename_i other hother
      obtain rfl := Option.some.inj hd
      exact ⟨hid x other hother, rfl⟩

theorem unwatchSector_snd (ord : AoiOrder) (e : Entity P) (newSet : Finset AoiSectorCoord)
    {w : AoiWorld P} (hcb : w.sendCb = true) (sc : AoiSectorCoord) :
    (unwatchSector ord e newSet w sc).2 =
      ((ord.entities sc).list (w.entitiesAt sc)).filterMap (leaveFor e newSet w.entities) := by
  unfold unwatchSector
  cases hc : w.sectors sc with
  | none => simp [entitiesAt, getOrCreateSector_of_none hc]
  | some s => simp only [hcb, if_true, entitiesAt, getOrCreateSector_of_some hc]; rfl

theorem watchSector_snd (ord : AoiOrder) (e : Entity P) {w : AoiWorld P}
    (hcb : w.sendCb = true) (sc : AoiSectorCoord) :
    (watchSector ord e w sc).2 =
      ((ord.entities sc).list (w.entitiesAt sc)).filterMap (snapshotFor e w.entities) := by
  simp only [watchSector, hcb, if_true]
  rfl

/-- The events of a rebuild, as two loops over the tables it starts from. -/
theorem rebuild_snd (cfg : AoiConfig P) (ord : AoiOrder) {w : AoiWorld P}
    (hcb : w.sendCb = true) (e : Entity P) :
    (rebuildPlayerSubscriptions cfg ord w e).2 =
      ((ord.subscribed.list e.subscribed).filter (· ∉ cfg.viewWindow e.sector)).flatMap
          (fun sc => ((ord.entities sc).list (w.entitiesAt sc)).filterMap
            (leaveFor e (cfg.viewWindow e.sector) w.entities)) ++
        ((ord.newSet.list (cfg.viewWindow e.sector)).filter (· ∉ e.subscribed)).flatMap
          (fun sc => ((ord.entities sc).list (w.entitiesAt sc)).filterMap
            (snapshotFor e w.entities)) := by
  simp only [rebuildPlayerSubscriptions]
  congr 1
  · refine emitLoop_output (I := SameBut w) ?_ ?_ (.refl w) _
    · intro s a h
      exact h.trans (unwatchSector_fst ord e _ s a ▸ dropWatcher_sameBut s e.id a)
    · intro s a h
      rw [unwatchSector_snd ord e _ (h.sendCb.trans hcb), h.entities, h.entitiesAt]
  · refine emitLoop_output (I := SameBut w) ?_ ?_ (unwatchLoop_sameBut ord e _ w _) _
    · intro s a h
      exact h.trans (watchSector_sameBut ord e s a)
    · intro s a h
      rw [watchSector_snd ord e (h.sendCb.trans hcb), h.entities, h.entitiesAt]

/-- A loop over sectors and the entities in each: a subject is met once,
in its own sector, if the loop visits it. -/
theorem heard_sectorLoop {w : AoiWorld P}
    (hent : ∀ c i, i ∈ w.entitiesAt c ↔ ∃ e, w.entities i = some e ∧ e.sector = c)
    (ord : AoiOrder) {L : List AoiSectorCoord} (hL : L.Nodup)
    (f : EntityId → Option (Delivery P)) {v s : EntityId} (hvs : v ≠ s)
    (hf : ∀ x d, f x = some d → d.ev.subjectId = x) :
    heard v s (L.flatMap fun sc => ((ord.entities sc).list (w.entitiesAt sc)).filterMap f) =
      match w.entities s with
      | none => []
      | some es => if es.sector ∈ L then heard v s (f s).toList else [] := by
  have inner : ∀ sc, heard v s (((ord.entities sc).list (w.entitiesAt sc)).filterMap f) =
      if s ∈ w.entitiesAt sc then heard v s (f s).toList else [] := fun sc =>
    heard_filterMap _ _ _ hvs s fun x _ hxs d hd h => hxs (hf x d hd ▸ h.2)
  rw [heard_flatMap]
  simp only [inner]
  cases hs : w.entities s with
  | none =>
    have hno : ∀ sc, s ∉ w.entitiesAt sc := fun sc h => by
      obtain ⟨e, he, -⟩ := (hent sc s).mp h
      rw [hs] at he; cases he
    simp [hno]
  | some es =>
    have hiff : ∀ sc, s ∈ w.entitiesAt sc ↔ es.sector = sc := by
      intro sc; simp [hent, hs]
    simp only [hiff]
    rw [flatMap_single_of_nodup hL _ es.sector]
    · simp
    · intro x _ hx
      rw [if_neg (Ne.symm hx)]

/-- What the player whose subscriptions are rebuilt hears: it loses what
stood in a dropped sector and gains what stands in a new one. Nobody else
hears anything. -/
theorem heard_rebuild {cfg : AoiConfig P} {ord : AoiOrder} {w : AoiWorld P} {e : Entity P}
    (h : Rebuildable cfg w e) (hcb : w.sendCb = true) {v s : EntityId} (hvs : v ≠ s) :
    heard v s (rebuildPlayerSubscriptions cfg ord w e).2 =
      if v = e.id then
        match w.entities s with
        | none => []
        | some es =>
          (if es.sector ∈ e.subscribed ∧ es.sector ∉ cfg.viewWindow e.sector then [.delete]
            else []) ++
          (if es.sector ∈ cfg.viewWindow e.sector ∧ es.sector ∉ e.subscribed then
            [.insert es.pos] else [])
      else [] := by
  have hleave : ∀ x d, leaveFor e (cfg.viewWindow e.sector) w.entities x = some d →
      d.ev.subjectId = x ∧ d.watcherId = e.id := fun x d => leaveFor_spec
  have hsnap : ∀ x d, snapshotFor e w.entities x = some d →
      d.ev.subjectId = x ∧ d.watcherId = e.id := fun x d => snapshotFor_spec h.idOk
  rw [rebuild_snd cfg ord hcb, heard_append,
    heard_sectorLoop h.entitiesOk ord ((ord.subscribed.nodup _).filter _) _ hvs
      fun x d hd => (hleave x d hd).1,
    heard_sectorLoop h.entitiesOk ord ((ord.newSet.nodup _).filter _) _ hvs
      fun x d hd => (hsnap x d hd).1]
  cases hs : w.entities s with
  | none => simp
  | some es =>
    simp only [List.mem_filter, Enumeration.mem_iff, decide_eq_true_eq]
    by_cases hv : v = e.id
    · subst hv
      have hidS : es.id = s := h.idOk s es hs
      have h₁ : es.sector ∉ cfg.viewWindow e.sector →
          heard e.id s (leaveFor e (cfg.viewWindow e.sector) w.entities s).toList =
            [Update.delete] := by
        intro hn
        simp [leaveFor, Ne.symm hvs, hs, hn, heard_singleton hvs, AoiEvent.update]
      have h₂ : heard e.id s (snapshotFor e w.entities s).toList = [Update.insert es.pos] := by
        simp [snapshotFor, Ne.symm hvs, hs, heard_singleton hvs, AoiEvent.update, hidS]
      rw [if_pos rfl, h₂]
      congr 1
      split
      · rename_i hc; exact h₁ hc.2
      · rfl
    · rw [if_neg hv]
      have h₁ : heard v s (leaveFor e (cfg.viewWindow e.sector) w.entities s).toList = [] :=
        heard_of_watcher_ne hvs fun d hd he => hv (he.symm.trans (hleave s d hd).2)
      have h₂ : heard v s (snapshotFor e w.entities s).toList = [] :=
        heard_of_watcher_ne hvs fun d hd he => hv (he.symm.trans (hsnap s d hd).2)
      simp [h₁, h₂]

/-! ## What a player sees, and how one call changes it -/

/-- What `v` sees of `s`: its position, when `v` is a registered player
with the sector of `s` in its view window. -/
def seen (cfg : AoiConfig P) (w : AoiWorld P) (v s : EntityId) : Option P :=
  if v = s then none
  else match w.entities v, w.entities s with
    | some ev, some es =>
      if ev.isPlayer = true ∧ es.sector ∈ cfg.viewWindow ev.sector then some es.pos else none
    | _, _ => none

/-- Under the invariant the watcher sets say who sees a subject. -/
theorem seen_eq {cfg : AoiConfig P} {w : AoiWorld P} (hw : Inv cfg w) {v s : EntityId}
    (hvs : v ≠ s) :
    seen cfg w v s = match w.entities s with
      | none => none
      | some es => if v ∈ w.watchersAt es.sector then some es.pos else none := by
  rw [seen, if_neg hvs]
  cases hs : w.entities s with
  | none => cases w.entities v <;> rfl
  | some es =>
    cases hv : w.entities v with
    | none => simp [hw.watchersOk, hv]
    | some ev =>
      have hsub := hw.subscribedOk v ev hv
      cases hp : ev.isPlayer with
      | true => simp [hw.watchersOk, hv, hp, hsub]
      | false => simp [hw.watchersOk, hv, hp]

theorem addEntity_snd (cfg : AoiConfig P) (w : AoiWorld P) (id : EntityId) (isPlayer : Bool)
    (pos : P) :
    (w.addEntity cfg id isPlayer pos).2 =
      (if isPlayer then rebuildPlayerSubscriptions cfg (cfg.order w.calls)
          (placed cfg w id isPlayer pos) (newEntity cfg id isPlayer pos)
        else (placed cfg w id isPlayer pos, [])).2 ++
      broadcastToSectorWatchers (cfg.order w.calls) (w.addEntity cfg id isPlayer pos).1
        (cfg.worldToSector pos) ⟨.enter, id, pos⟩ id := rfl

theorem addEntity_entities (cfg : AoiConfig P) (w : AoiWorld P) (id : EntityId)
    (isPlayer : Bool) (pos : P) :
    ∃ e : Entity P, (w.addEntity cfg id isPlayer pos).1.entities =
      Function.update w.entities id (some e) ∧ e.isPlayer = isPlayer ∧ e.pos = pos ∧
      e.sector = cfg.worldToSector pos :=
  ⟨_, addEntity_entities_eq cfg w id isPlayer pos, rfl, rfl, rfl⟩

theorem addEntity_sendCb (cfg : AoiConfig P) (w : AoiWorld P) (id : EntityId)
    (isPlayer : Bool) (pos : P) : (w.addEntity cfg id isPlayer pos).1.sendCb = w.sendCb := by
  rw [addEntity_fst]
  cases isPlayer with
  | true => exact rebuild_sendCb _ _ _ _
  | false => rfl

/-- A new client is told, once each, exactly what it sees. -/
theorem addEntity_heard_self {cfg : AoiConfig P} {w : AoiWorld P} (hw : Inv cfg w)
    (hcb : w.sendCb = true) {id : EntityId} {isPlayer : Bool} {pos : P}
    (ha : Addable cfg w id isPlayer pos) {s : EntityId} (hs : id ≠ s) :
    Diff none (seen cfg (w.addEntity cfg id isPlayer pos).1 id s)
      (heard id s (w.addEntity cfg id isPlayer pos).2) := by
  have hbro := heard_broadcast (cfg.order w.calls) ((addEntity_sendCb cfg w id isPlayer pos).trans
    hcb) (cfg.worldToSector pos) ⟨.enter, id, pos⟩ hs
  rw [if_neg (fun h => hs h.1)] at hbro
  obtain ⟨e, hent, hep, -, hesec⟩ := addEntity_entities cfg w id isPlayer pos
  have hseen : seen cfg (w.addEntity cfg id isPlayer pos).1 id s =
      match w.entities s with
      | none => none
      | some es => if isPlayer = true ∧ es.sector ∈ cfg.viewWindow (cfg.worldToSector pos) then
          some es.pos else none := by
    rw [seen, if_neg hs, hent, Function.update_self, Function.update_of_ne (Ne.symm hs)]
    cases w.entities s with
    | none => rfl
    | some es => simp only [hep, hesec]
  rw [addEntity_snd, heard_append, hbro, hseen, List.append_nil]
  cases isPlayer with
  | false => cases w.entities s <;> exact Diff.refl none
  | true =>
    rw [if_pos rfl, heard_rebuild (placed_rebuildable hw ha) hcb hs, if_pos (by rfl)]
    rw [show (placed cfg w id true pos).entities s = w.entities s from
      Function.update_of_ne (Ne.symm hs) _ _]
    cases w.entities s with
    | none => exact Diff.refl none
    | some es =>
      simp only [newEntity, Finset.notMem_empty, false_and, if_false, List.nil_append,
        not_false_eq_true, and_true, true_and]
      split
      · exact Diff.insert es.pos
      · exact Diff.refl none

/-- Adding an entity changes the watcher sets for its own id only. -/
theorem addEntity_watchersAt (cfg : AoiConfig P) (w : AoiWorld P) (id : EntityId)
    (isPlayer : Bool) (pos : P) (c : AoiSectorCoord) {v : EntityId} (hv : v ≠ id) :
    v ∈ (w.addEntity cfg id isPlayer pos).1.watchersAt c ↔ v ∈ w.watchersAt c := by
  simp [mem_watchersAt_addEntity, hv]

/-- Everyone else hears of the new entity if it stands where they look. -/
theorem addEntity_heard_other {cfg : AoiConfig P} {w : AoiWorld P} (hw : Inv cfg w)
    (hcb : w.sendCb = true) {id : EntityId} {isPlayer : Bool} {pos : P}
    (ha : Addable cfg w id isPlayer pos) {v s : EntityId} (hvs : v ≠ s) (hv : v ≠ id) :
    heard v s (w.addEntity cfg id isPlayer pos).2 =
      if id = s ∧ v ∈ w.watchersAt (cfg.worldToSector pos) then [.insert pos] else [] := by
  have hbro := heard_broadcast (cfg.order w.calls) ((addEntity_sendCb cfg w id isPlayer pos).trans
    hcb) (cfg.worldToSector pos) ⟨.enter, id, pos⟩ hvs
  simp only [addEntity_watchersAt cfg w id isPlayer pos _ hv] at hbro
  rw [addEntity_snd, heard_append, hbro]
  cases isPlayer with
  | true =>
    rw [if_pos rfl, heard_rebuild (placed_rebuildable hw ha) hcb hvs, if_neg (by exact hv)]
    rfl
  | false => rfl

theorem addEntity_seen_other {cfg : AoiConfig P} {w : AoiWorld P} {id : EntityId}
    {isPlayer : Bool} {pos : P} {v s : EntityId} (hv : v ≠ id) (hs : s ≠ id) :
    seen cfg (w.addEntity cfg id isPlayer pos).1 v s = seen cfg w v s := by
  obtain ⟨e, hent, -⟩ := addEntity_entities cfg w id isPlayer pos
  simp only [seen, hent, Function.update_of_ne hv, Function.update_of_ne hs]

/-- What another player sees of the entity just added. -/
theorem addEntity_seen_subject {cfg : AoiConfig P} {w : AoiWorld P} (hw : Inv cfg w)
    {id : EntityId} {isPlayer : Bool} {pos : P} (ha : Addable cfg w id isPlayer pos)
    {v : EntityId} (hv : v ≠ id) :
    seen cfg (w.addEntity cfg id isPlayer pos).1 v id =
      if v ∈ w.watchersAt (cfg.worldToSector pos) then some pos else none := by
  obtain ⟨e, hent, -, hpos, hsec⟩ := addEntity_entities cfg w id isPlayer pos
  rw [seen_eq (addEntity_inv hw ha) hv, hent, Function.update_self]
  simp only [hsec, hpos, addEntity_watchersAt cfg w id isPlayer pos _ hv]

theorem addEntity_diff_other {cfg : AoiConfig P} {w : AoiWorld P} (hw : Inv cfg w)
    (hcb : w.sendCb = true) {id : EntityId} {isPlayer : Bool} {pos : P}
    (hfresh : w.entities id = none) {v s : EntityId} (hvs : v ≠ s) (hv : v ≠ id) :
    Diff (seen cfg w v s) (seen cfg (w.addEntity cfg id isPlayer pos).1 v s)
      (heard v s (w.addEntity cfg id isPlayer pos).2) := by
  have ha : Addable cfg w id isPlayer pos := fun e₀ he₀ => by rw [hfresh] at he₀; cases he₀
  rw [addEntity_heard_other hw hcb ha hvs hv]
  by_cases hs : id = s
  · subst hs
    rw [addEntity_seen_subject hw ha hv, show seen cfg w v id = none by
      rw [seen_eq hw hv, hfresh]]
    split
    · rename_i h
      rw [if_pos ⟨rfl, h⟩]
      exact Diff.insert pos
    · rename_i h
      rw [if_neg (fun h' => h h'.2)]
      exact Diff.refl none
  · rw [if_neg (fun h => hs h.1), addEntity_seen_other hv (Ne.symm hs)]
    exact Diff.refl _

/-- Entities may also be added again in the sector they stand in: what
others hear still ends in what they see. -/
theorem addEntity_result_other {cfg : AoiConfig P} {w : AoiWorld P} (hw : Inv cfg w)
    (hcb : w.sendCb = true) {id : EntityId} {isPlayer : Bool} {pos : P}
    (ha : Addable cfg w id isPlayer pos) {v s : EntityId} (hvs : v ≠ s) (hv : v ≠ id) :
    Update.applyAll (heard v s (w.addEntity cfg id isPlayer pos).2) (seen cfg w v s) =
      seen cfg (w.addEntity cfg id isPlayer pos).1 v s := by
  rw [addEntity_heard_other hw hcb ha hvs hv]
  by_cases hs : id = s
  · subst hs
    rw [addEntity_seen_subject hw ha hv]
    by_cases hin : v ∈ w.watchersAt (cfg.worldToSector pos)
    · rw [if_pos ⟨rfl, hin⟩, if_pos hin]
      rfl
    · rw [if_neg fun h => hin h.2, if_neg hin, Update.applyAll_nil, seen_eq hw hv]
      cases he : w.entities id with
      | none => rfl
      | some e₀ => simp only [(ha e₀ he).2, hin, if_false]
  · rw [if_neg fun h => hs h.1, Update.applyAll_nil, addEntity_seen_other hv (Ne.symm hs)]

/-- Everyone else loses the removed entity, if they saw it. -/
theorem removeEntity_heard {cfg : AoiConfig P} {w : AoiWorld P} (hcb : w.sendCb = true)
    {id : EntityId} {e : Entity P} (he : w.entities id = some e) {v s : EntityId}
    (hvs : v ≠ s) :
    heard v s (w.removeEntity cfg id).2 =
      if id = s ∧ v ∈ w.watchersAt e.sector then [.delete] else [] := by
  simp only [removeEntity, he]
  exact heard_broadcast _ hcb e.sector ⟨.leave, id, e.pos⟩ hvs

theorem removeEntity_sendCb (cfg : AoiConfig P) (w : AoiWorld P) (id : EntityId) :
    (w.removeEntity cfg id).1.sendCb = w.sendCb := by
  unfold removeEntity
  cases w.entities id with
  | none => rfl
  | some e =>
    show (if e.isPlayer then _ else _ : AoiWorld P).sendCb = w.sendCb
    cases e.isPlayer with
    | true => simp [(dropLoop_sameBut _ _ _).sendCb]
    | false => simp

theorem removeEntity_diff {cfg : AoiConfig P} {w : AoiWorld P} (hw : Inv cfg w)
    (hcb : w.sendCb = true) {id v s : EntityId} (hvs : v ≠ s) (hv : v ≠ id) :
    Diff (seen cfg w v s) (seen cfg (w.removeEntity cfg id).1 v s)
      (heard v s (w.removeEntity cfg id).2) := by
  cases he : w.entities id with
  | none => rw [removeEntity_of_none he]; exact Diff.refl _
  | some e =>
    rw [removeEntity_heard hcb he hvs]
    by_cases hs : id = s
    · subst hs
      have hafter : seen cfg (w.removeEntity cfg id).1 v id = none := by
        rw [seen_eq (removeEntity_inv hw id) hv, removeEntity_entities he, Function.update_self]
      have hbefore : seen cfg w v id = if v ∈ w.watchersAt e.sector then some e.pos else none := by
        rw [seen_eq hw hv, he]
      rw [hafter, hbefore]
      by_cases hin : v ∈ w.watchersAt e.sector
      · rw [if_pos hin, if_pos ⟨rfl, hin⟩]
        exact Diff.delete e.pos
      · rw [if_neg hin, if_neg (fun h => hin h.2)]
        exact Diff.refl none
    · rw [if_neg (fun h => hs h.1)]
      have hsame : seen cfg (w.removeEntity cfg id).1 v s = seen cfg w v s := by
        simp only [seen, removeEntity_entities he, Function.update_of_ne hv,
          Function.update_of_ne (Ne.symm hs)]
      rw [hsame]
      exact Diff.refl _

theorem resubscribed_entities {cfg : AoiConfig P} {w : AoiWorld P} (hw : Inv cfg w)
    {id : EntityId} {e₀ : Entity P} (he : w.entities id = some e₀) (newPos : P) :
    ∃ e : Entity P, (resubscribed cfg w id e₀ newPos).1.entities =
      Function.update w.entities id (some e) ∧ e.isPlayer = e₀.isPlayer ∧ e.pos = newPos ∧
      e.sector = cfg.worldToSector newPos :=
  ⟨_, resubscribed_entities_eq hw he newPos, rfl, rfl, rfl⟩

theorem resubscribed_watchersAt {cfg : AoiConfig P} {w : AoiWorld P} (hw : Inv cfg w)
    {id : EntityId} {e₀ : Entity P} (he : w.entities id = some e₀) (newPos : P)
    (c : AoiSectorCoord) {v : EntityId} (hv : v ≠ id) :
    v ∈ (resubscribed cfg w id e₀ newPos).1.watchersAt c ↔ v ∈ w.watchersAt c := by
  have hid : (movedEntity cfg e₀ newPos).id = id := hw.idOk id e₀ he
  unfold resubscribed
  cases e₀.isPlayer with
  | true => simp [rebuild_watchersAt, relocated_watchersAt, hid, hv]
  | false => simp [relocated_watchersAt]

theorem resubscribed_sendCb (cfg : AoiConfig P) (w : AoiWorld P) (id : EntityId)
    (e₀ : Entity P) (newPos : P) :
    (resubscribed cfg w id e₀ newPos).1.sendCb = w.sendCb := by
  unfold resubscribed
  cases e₀.isPlayer with
  | true => exact (rebuild_sendCb _ _ _ _).trans (relocated_sendCb _ _ _ _ _)
  | false => exact relocated_sendCb _ _ _ _ _

/-- What is sent about the subject of a move: Leave to those who looked at
its old sector only, Enter to those who look at the new one only, Move to
all who look at the new one. -/
theorem heard_subjectEvents {cfg : AoiConfig P} {w w' : AoiWorld P} (hcb : w'.sendCb = true)
    {id : EntityId} {e₀ : Entity P} {newPos : P} {v s : EntityId} (hvs : v ≠ s) :
    heard v s (subjectEvents cfg w w' id e₀ newPos) =
      (if id = s ∧ v ∈ w'.watchersAt e₀.sector ∧
          v ∉ w'.watchersAt (cfg.worldToSector newPos) then [.delete] else []) ++
      (if id = s ∧ v ∈ w'.watchersAt (cfg.worldToSector newPos) ∧
          v ∉ w'.watchersAt e₀.sector then [.insert newPos] else []) ++
      (if id = s ∧ v ∈ w'.watchersAt (cfg.worldToSector newPos) then [.overwrite newPos]
        else []) := by
  have hecho : heard v s (if (movedEntity cfg e₀ newPos).isPlayer then
      [(⟨id, ⟨.move, id, newPos⟩⟩ : Delivery P)] else []) = [] := by
    split
    · rw [heard_singleton hvs, if_neg]
      rintro ⟨h₁, h₂⟩
      exact hvs (h₁.symm.trans h₂)
    · rfl
  have hcross : heard v s (if !decide ((movedEntity cfg e₀ newPos).sector = e₀.sector) then
      crossingEvents (cfg.order w.calls) w' id newPos e₀.sector (movedEntity cfg e₀ newPos).sector
      else []) =
      (if id = s ∧ v ∈ w'.watchersAt e₀.sector ∧
          v ∉ w'.watchersAt (cfg.worldToSector newPos) then [.delete] else []) ++
      (if id = s ∧ v ∈ w'.watchersAt (cfg.worldToSector newPos) ∧
          v ∉ w'.watchersAt e₀.sector then [.insert newPos] else []) := by
    by_cases hsec : (movedEntity cfg e₀ newPos).sector = e₀.sector
    · have hsec' : cfg.worldToSector newPos = e₀.sector := hsec
      simp [hsec, hsec']
    · rw [if_pos (by simpa using hsec), heard_crossing _ _ _ _ _ _ hvs]
      rfl
  have hmove := heard_broadcast (cfg.order w.calls) hcb (cfg.worldToSector newPos)
    (⟨.move, id, newPos⟩ : AoiEvent P) hvs
  simp only [subjectEvents, heard_append, hecho, hcross, List.append_nil]
  exact congrArg₂ (· ++ ·) rfl hmove

theorem moveEntity_seen_self {cfg : AoiConfig P} {w : AoiWorld P} (hw : Inv cfg w)
    {id : EntityId} {e₀ : Entity P} (he : w.entities id = some e₀) (newPos : P)
    {s : EntityId} (hs : id ≠ s) :
    seen cfg (w.moveEntity cfg id newPos).1 id s = match w.entities s with
      | none => none
      | some es => if e₀.isPlayer = true ∧ es.sector ∈ cfg.viewWindow (cfg.worldToSector newPos)
          then some es.pos else none := by
  obtain ⟨e, hent, hep, -, hesec⟩ := resubscribed_entities hw he newPos
  rw [moveEntity_fst he, seen, if_neg hs, entities_endCall, hent, Function.update_self,
    Function.update_of_ne (Ne.symm hs)]
  cases w.entities s with
  | none => rfl
  | some es => simp only [hep, hesec]

/-- The mover loses what its new window no longer covers and gains what
it newly covers. -/
theorem moveEntity_diff_self {cfg : AoiConfig P} {w : AoiWorld P} (hw : Inv cfg w)
    (hcb : w.sendCb = true) {id : EntityId} {e₀ : Entity P} (he : w.entities id = some e₀)
    (newPos : P) {s : EntityId} (hs : id ≠ s) :
    Diff (seen cfg w id s) (seen cfg (w.moveEntity cfg id newPos).1 id s)
      (heard id s (w.moveEntity cfg id newPos).2) := by
  have hcb' := (resubscribed_sendCb cfg w id e₀ newPos).trans hcb
  have hsubj : heard id s (subjectEvents cfg w (resubscribed cfg w id e₀ newPos).1 id e₀ newPos) =
      [] := by
    simp [heard_subjectEvents hcb' hs, hs]
  rw [moveEntity_seen_self hw he newPos hs, moveEntity_eq he, hcb', if_pos rfl, heard_append,
    hsubj, List.append_nil, seen, if_neg hs, he]
  have hsub := hw.subscribedOk id e₀ he
  have hents : (relocated cfg w id e₀ newPos).entities s = w.entities s := by
    rw [relocated_entities, Function.update_of_ne (Ne.symm hs)]
  have hid : id = (movedEntity cfg e₀ newPos).id := (hw.idOk id e₀ he).symm
  unfold resubscribed
  cases hp : e₀.isPlayer with
  | false =>
    cases w.entities s with
    | none => exact Diff.refl none
    | some es => simpa [hp] using Diff.refl (none : Option P)
  | true =>
    rw [if_pos rfl, heard_rebuild (relocated_rebuildable hw he hp newPos)
      ((relocated_sendCb cfg w id e₀ newPos).trans hcb) hs, if_pos hid, hents]
    cases w.entities s with
    | none => exact Diff.refl none
    | some es =>
      have hsub' : e₀.subscribed = cfg.viewWindow e₀.sector := by rw [hsub, hp, if_pos rfl]
      simp only [movedEntity, hsub', hp, true_and]
      by_cases hold : es.sector ∈ cfg.viewWindow e₀.sector <;>
        by_cases hnew : es.sector ∈ cfg.viewWindow (cfg.worldToSector newPos)
      · simpa [hold, hnew] using Diff.refl _
      · simpa [hold, hnew] using Diff.delete es.pos
      · simpa [hold, hnew] using Diff.insert es.pos
      · simpa [hold, hnew] using Diff.refl _

/-- Another player's view of the mover: gained, lost, moved or unseen. -/
theorem moveEntity_diff_subject {cfg : AoiConfig P} {w : AoiWorld P} (hw : Inv cfg w)
    (hcb : w.sendCb = true) {id : EntityId} {e₀ : Entity P} (he : w.entities id = some e₀)
    (newPos : P) {v : EntityId} (hv : v ≠ id) :
    Diff (seen cfg w v id) (seen cfg (w.moveEntity cfg id newPos).1 v id)
      (heard v id (w.moveEntity cfg id newPos).2) := by
  have hcb' := (resubscribed_sendCb cfg w id e₀ newPos).trans hcb
  obtain ⟨e, hent, -, hepos, hesec⟩ := resubscribed_entities hw he newPos
  have hreb : heard v id (resubscribed cfg w id e₀ newPos).2 = [] := by
    unfold resubscribed
    cases hp : e₀.isPlayer with
    | false => rfl
    | true =>
      rw [if_pos rfl, heard_rebuild (relocated_rebuildable hw he hp newPos)
        ((relocated_sendCb cfg w id e₀ newPos).trans hcb) hv,
        if_neg (by rw [show (movedEntity cfg e₀ newPos).id = id from hw.idOk id e₀ he]; exact hv)]
  have hafter : seen cfg (w.moveEntity cfg id newPos).1 v id =
      if v ∈ w.watchersAt (cfg.worldToSector newPos) then some newPos else none := by
    rw [seen_eq (moveEntity_inv hw id newPos) hv, moveEntity_fst he, entities_endCall, hent,
      Function.update_self]
    simp only [hesec, hepos, watchersAt_endCall, resubscribed_watchersAt hw he newPos _ hv]
  have hbefore : seen cfg w v id = if v ∈ w.watchersAt e₀.sector then some e₀.pos else none := by
    rw [seen_eq hw hv, he]
  rw [hafter, hbefore, moveEntity_eq he, hcb', if_pos rfl, heard_append, hreb, List.nil_append,
    heard_subjectEvents hcb' hv]
  simp only [resubscribed_watchersAt hw he newPos _ hv, true_and]
  by_cases hold : v ∈ w.watchersAt e₀.sector <;>
    by_cases hnew : v ∈ w.watchersAt (cfg.worldToSector newPos)
  · simpa [hold, hnew] using Diff.overwrite e₀.pos newPos
  · simpa [hold, hnew] using Diff.delete e₀.pos
  · simpa [hold, hnew] using (Diff.insert newPos).trans (Diff.overwrite newPos newPos)
  · simpa [hold, hnew] using Diff.refl _

theorem moveEntity_diff {cfg : AoiConfig P} {w : AoiWorld P} (hw : Inv cfg w)
    (hcb : w.sendCb = true) (id : EntityId) (newPos : P) {v s : EntityId} (hvs : v ≠ s) :
    Diff (seen cfg w v s) (seen cfg (w.moveEntity cfg id newPos).1 v s)
      (heard v s (w.moveEntity cfg id newPos).2) := by
  cases he : w.entities id with
  | none => rw [moveEntity_of_none he]; exact Diff.refl _
  | some e₀ =>
    by_cases hv : v = id
    · subst hv
      exact moveEntity_diff_self hw hcb he newPos hvs
    by_cases hs : s = id
    · subst hs
      exact moveEntity_diff_subject hw hcb he newPos hv
    -- neither end of the channel moved: nothing is sent on it
    have hcb' := (resubscribed_sendCb cfg w id e₀ newPos).trans hcb
    obtain ⟨e, hent, -⟩ := resubscribed_entities hw he newPos
    have hsame : seen cfg (w.moveEntity cfg id newPos).1 v s = seen cfg w v s := by
      simp only [seen, moveEntity_fst he, entities_endCall, hent, Function.update_of_ne hv,
        Function.update_of_ne hs]
    have hreb : heard v s (resubscribed cfg w id e₀ newPos).2 = [] := by
      unfold resubscribed
      cases hp : e₀.isPlayer with
      | false => rfl
      | true =>
        rw [if_pos rfl, heard_rebuild (relocated_rebuildable hw he hp newPos)
          ((relocated_sendCb cfg w id e₀ newPos).trans hcb) hvs,
          if_neg (by rw [show (movedEntity cfg e₀ newPos).id = id from hw.idOk id e₀ he]; exact hv)]
    rw [hsame, moveEntity_eq he, hcb', if_pos rfl, heard_append, hreb, List.nil_append,
      heard_subjectEvents hcb' hvs]
    simpa [Ne.symm hs] using Diff.refl _

/-- Rebuilding up-to-date subscriptions is silent. -/
theorem updatePlayerAoi_diff {cfg : AoiConfig P} {w : AoiWorld P} (hw : Inv cfg w)
    (hcb : w.sendCb = true) (id : EntityId) {v s : EntityId} (hvs : v ≠ s) :
    Diff (seen cfg w v s) (seen cfg (w.updatePlayerAoi cfg id).1 v s)
      (heard v s (w.updatePlayerAoi cfg id).2) := by
  unfold updatePlayerAoi
  cases he : w.entities id with
  | none => exact Diff.refl _
  | some e =>
    cases hp : e.isPlayer with
    | false => simpa [hp] using Diff.refl _
    | true =>
      have hsub : e.subscribed = cfg.viewWindow e.sector := by
        rw [hw.subscribedOk id e he, hp, if_pos rfl]
      have hents : (rebuildPlayerSubscriptions cfg (cfg.order w.calls) w e).1.entities =
          w.entities := by
        have heta : { e with subscribed := cfg.viewWindow e.sector } = e := by rw [← hsub]
        rw [rebuild_entities, heta, hw.idOk id e he, ← he, Function.update_eq_self]
      have hsilent : heard v s (rebuildPlayerSubscriptions cfg (cfg.order w.calls) w e).2 = [] := by
        rw [heard_rebuild (rebuildable_of_inv hw he hp) hcb hvs]
        split
        · cases w.entities s with
          | none => rfl
          | some es => simp [hsub]
        · rfl
      simp only [hp, Bool.not_true, Bool.false_eq_true, if_false, hsilent, seen, entities_endCall,
        hents]
      exact Diff.refl _

theorem call_sendCb (cfg : AoiConfig P) (w : AoiWorld P) (op : AoiOp P) :
    (w.call cfg op).1.sendCb = w.sendCb := by
  cases op with
  | addEntity id isPlayer pos => exact addEntity_sendCb cfg w id isPlayer pos
  | removeEntity id => exact removeEntity_sendCb cfg w id
  | moveEntity id newPos =>
    cases he : w.entities id with
    | none => simp [call, moveEntity_of_none he]
    | some e₀ =>
      simp only [call, moveEntity_fst he]
      exact resubscribed_sendCb cfg w id e₀ newPos
  | updatePlayerAoi id =>
    simp only [call, updatePlayerAoi]
    cases he : w.entities id with
    | none => rfl
    | some e =>
      cases hp : e.isPlayer with
      | false => simp [hp]
      | true => simpa [hp, endCall] using rebuild_sendCb cfg (cfg.order w.calls) w e

theorem seen_of_unregistered {cfg : AoiConfig P} {w : AoiWorld P} {v : EntityId}
    (hv : w.entities v = none) (s : EntityId) : seen cfg w v s = none := by
  rw [seen, hv]
  split <;> rfl

/-- Of two players, each sees the other or none does. -/
theorem seen_isSome_comm {cfg : AoiConfig P} {w : AoiWorld P} (hw : Inv cfg w)
    {v s : EntityId} {ev es : Entity P} (hv : w.entities v = some ev) (hs : w.entities s = some es)
    (hvp : ev.isPlayer = true) (hsp : es.isPlayer = true) :
    (seen cfg w v s).isSome = (seen cfg w s v).isSome := by
  have hcomm := cfg.viewWindow_comm ev.pos es.pos
  rw [← hw.sectorOk v ev hv, ← hw.sectorOk s es hs] at hcomm
  by_cases hvs : v = s
  · simp [seen, hvs]
  · by_cases hin : ev.sector ∈ cfg.viewWindow es.sector
    · simp [seen, hvs, Ne.symm hvs, hv, hs, hvp, hsp, hin, hcomm.mp hin]
    · simp [seen, hvs, Ne.symm hvs, hv, hs, hvp, hsp, hin, mt hcomm.mpr hin]

/-- The removed entity hears nothing and sees nothing. -/
theorem removeEntity_diff_self {cfg : AoiConfig P} {w : AoiWorld P} (hcb : w.sendCb = true)
    {id s : EntityId} (hs : id ≠ s) :
    Diff none (seen cfg (w.removeEntity cfg id).1 id s) (heard id s (w.removeEntity cfg id).2) := by
  have hgone : (w.removeEntity cfg id).1.entities id = none := by
    cases he : w.entities id with
    | none => rw [removeEntity_of_none he]; exact he
    | some e => rw [removeEntity_entities he, Function.update_self]
  have hquiet : heard id s (w.removeEntity cfg id).2 = [] := by
    cases he : w.entities id with
    | none => rw [removeEntity_of_none he]; rfl
    | some e => rw [removeEntity_heard hcb he hs, if_neg (fun h => hs h.1)]
  rw [seen_of_unregistered hgone, hquiet]
  exact Diff.refl none

end AoiWorld

/-! ## Runs with clients -/

/-- The client whose life begins or ends with a call. -/
def AoiOp.session : AoiOp P → Option EntityId
  | .addEntity id _ _ => some id
  | .removeEntity id => some id
  | _ => none

/-- A client starts from an empty map when it is added, and its map is
dropped when it is removed. -/
def resetClient (op : AoiOp P) (clients : EntityId × EntityId → Option P) :
    EntityId × EntityId → Option P :=
  fun k => if op.session = some k.1 then none else clients k

/-- **One call, one client, one subject**: what is delivered accounts,
legally, for the change of what the client sees. -/
theorem AoiWorld.call_diff {cfg : AoiConfig P} {w : AoiWorld P} (hw : w.Inv cfg)
    (hcb : w.sendCb = true) {op : AoiOp P} (hop : op.Fresh w) {v s : EntityId} (hvs : v ≠ s) :
    Diff (if op.session = some v then none else seen cfg w v s) (seen cfg (w.call cfg op).1 v s)
      (heard v s (w.call cfg op).2) := by
  cases op with
  | addEntity id isPlayer pos =>
    have ha : Addable cfg w id isPlayer pos := fun e₀ he₀ => by
      rw [show w.entities id = none from hop] at he₀
      cases he₀
    by_cases hv : id = v
    · subst hv
      rw [if_pos (by rfl)]
      exact addEntity_heard_self hw hcb ha hvs
    · rw [if_neg (by exact fun h => hv (Option.some.inj h))]
      exact addEntity_diff_other hw hcb hop hvs (Ne.symm hv)
  | removeEntity id =>
    by_cases hv : id = v
    · subst hv
      rw [if_pos (by rfl)]
      exact removeEntity_diff_self hcb hvs
    · rw [if_neg (by exact fun h => hv (Option.some.inj h))]
      exact removeEntity_diff hw hcb hvs (Ne.symm hv)
  | moveEntity id newPos => exact moveEntity_diff hw hcb id newPos hvs
  | updatePlayerAoi id => exact updatePlayerAoi_diff hw hcb id hvs

/-- A player stays registered as one, unless its own stay begins or ends. -/
theorem AoiWorld.call_registered {cfg : AoiConfig P} {w : AoiWorld P} (hw : w.Inv cfg)
    (op : AoiOp P) {v : EntityId} (hop : op.session ≠ some v)
    (h : ∃ e, w.entities v = some e ∧ e.isPlayer = true) :
    ∃ e, (w.call cfg op).1.entities v = some e ∧ e.isPlayer = true := by
  obtain ⟨ev, hev, hp⟩ := h
  cases op with
  | addEntity id isPlayer pos =>
    have hne : v ≠ id := fun e => hop (congrArg some e.symm)
    obtain ⟨e, hent, -⟩ := addEntity_entities cfg w id isPlayer pos
    exact ⟨ev, by rw [call, hent, Function.update_of_ne hne, hev], hp⟩
  | removeEntity id =>
    have hne : v ≠ id := fun e => hop (congrArg some e.symm)
    cases he : w.entities id with
    | none => exact ⟨ev, by rw [call, removeEntity_of_none he, hev], hp⟩
    | some e =>
      exact ⟨ev, by rw [call, removeEntity_entities he, Function.update_of_ne hne, hev], hp⟩
  | moveEntity id newPos =>
    cases he : w.entities id with
    | none => exact ⟨ev, by rw [call, moveEntity_of_none he, hev], hp⟩
    | some e₀ =>
      obtain ⟨e, hent, hep, -⟩ := resubscribed_entities hw he newPos
      rw [call, moveEntity_fst he, entities_endCall, hent]
      by_cases hv : v = id
      · subst hv
        obtain rfl := Option.some.inj (hev.symm.trans he)
        exact ⟨e, Function.update_self _ _ _, hep.trans hp⟩
      · exact ⟨ev, by rw [Function.update_of_ne hv, hev], hp⟩
  | updatePlayerAoi id =>
    cases he : w.entities id with
    | none => exact ⟨ev, by simp [call, updatePlayerAoi, he, hev], hp⟩
    | some e =>
      cases hep : e.isPlayer with
      | false => exact ⟨ev, by simp [call, updatePlayerAoi, he, hep, hev], hp⟩
      | true =>
        simp only [call, updatePlayerAoi, he, hep, Bool.not_true, Bool.false_eq_true, if_false,
          entities_endCall, rebuild_entities, hw.idOk id e he]
        by_cases hv : v = id
        · subst hv
          exact ⟨_, Function.update_self _ _ _, rfl⟩
        · exact ⟨ev, by rw [Function.update_of_ne hv, hev], hp⟩

/-- The index and the maps its clients have folded, by watcher and
subject. -/
structure ClientWorld (P : Type) where
  world : AoiWorld P
  clients : EntityId × EntityId → Option P := fun _ => none

namespace ClientWorld

/-- A call, and its deliveries taken by the clients. -/
def call (cfg : AoiConfig P) (c : ClientWorld P) (op : AoiOp P) : ClientWorld P where
  world := (c.world.call cfg op).1
  clients := deliverAll (resetClient op c.clients) (updates (c.world.call cfg op).2)

/-- Every client knows exactly what the index says it sees. -/
structure Synced (cfg : AoiConfig P) (c : ClientWorld P) : Prop where
  inv : c.world.Inv cfg
  sendCb : c.world.sendCb = true
  clients : ∀ v s, c.clients (v, s) = c.world.seen cfg v s

theorem reset_of_synced {cfg : AoiConfig P} {c : ClientWorld P} (hc : c.Synced cfg)
    (op : AoiOp P) (v s : EntityId) :
    resetClient op c.clients (v, s) =
      if op.session = some v then none else c.world.seen cfg v s := by
  rw [resetClient, hc.clients]

theorem call_synced {cfg : AoiConfig P} {c : ClientWorld P} (hc : c.Synced cfg) {op : AoiOp P}
    (hop : op.Fresh c.world) : (c.call cfg op).Synced cfg := by
  refine ⟨AoiWorld.call_inv hc.inv hop, (AoiWorld.call_sendCb cfg c.world op).trans hc.sendCb, ?_⟩
  intro v s
  show deliverAll (resetClient op c.clients) (updates (c.world.call cfg op).2) (v, s) = _
  rw [deliverAll_apply, reset_of_synced hc]
  by_cases hvs : v = s
  · -- a client ignores what it is told about itself
    subst hvs
    show Update.applyAll (heard v v (c.world.call cfg op).2) _ = _
    rw [heard_self]
    simp [AoiWorld.seen]
  · exact (AoiWorld.call_diff hc.inv hc.sendCb hop hvs).result

theorem call_legal {cfg : AoiConfig P} {c : ClientWorld P} (hc : c.Synced cfg) {op : AoiOp P}
    (hop : op.Fresh c.world) (k : EntityId × EntityId) :
    Update.LegalAll (channel k (updates (c.world.call cfg op).2))
      (resetClient op c.clients k) := by
  obtain ⟨v, s⟩ := k
  rw [reset_of_synced hc]
  by_cases hvs : v = s
  · subst hvs
    show Update.LegalAll (heard v v (c.world.call cfg op).2) _
    rw [heard_self]
    trivial
  · exact (AoiWorld.call_diff hc.inv hc.sendCb hop hvs).legal

end ClientWorld

/-- The index with a callback installed, under any sequence of calls. -/
def clientSystem (cfg : AoiConfig P) : System (ClientWorld P) (AoiOp P) :=
  .ofFn { world := ({} : AoiWorld P).setSendCallback } (fun c op => op.Fresh c.world)
    (fun c op => c.call cfg op)

theorem clientSystem_synced {cfg : AoiConfig P} {l : List (ClientWorld P × AoiOp P)}
    {c : ClientWorld P} (r : Run (clientSystem cfg) l c) : c.Synced cfg := by
  refine r.invariant ?_ ?_
  · rintro c rfl
    refine ⟨AoiWorld.inv_empty cfg true, rfl, fun v s => ?_⟩
    exact (AoiWorld.seen_of_unregistered rfl s).symm
  · rintro c op c' hc ⟨hop, rfl⟩
    exact ClientWorld.call_synced hc hop

theorem updates_append (L L' : List (Delivery P)) : updates (L ++ L') = updates L ++ updates L' := by
  simp [updates]

theorem updates_cons {d : Delivery P} (hd : d.watcherId ≠ d.ev.subjectId)
    (L : List (Delivery P)) :
    updates (d :: L) = ((d.watcherId, d.ev.subjectId), d.ev.update) :: updates L := by
  simp [updates, hd]

/-- **Clients are replicas of the index.** After any sequence of calls the
map a registered player has folded since it was added holds, at their
positions, exactly the other entities registered within the view radius
of its sector; and in the whole run no Snapshot or Enter was delivered
for a subject already in the map, no Move or Leave for one not in it. -/
theorem client_replica (cfg : AoiConfig P) (l : List (ClientWorld P × AoiOp P))
    (c : ClientWorld P) (r : Run (clientSystem cfg) l c) :
    (∀ w e, c.world.entities w = some e → e.isPlayer = true → ∀ s p,
      c.clients (w, s) = some p ↔ s ≠ w ∧ ∃ es, c.world.entities s = some es ∧ es.pos = p ∧
        |es.sector.x - e.sector.x| ≤ cfg.viewRadius ∧
        |es.sector.y - e.sector.y| ≤ cfg.viewRadius) ∧
    (∀ b op, (b, op) ∈ l → ∀ L₁ d L₂, (b.world.call cfg op).2 = L₁ ++ d :: L₂ →
      d.watcherId ≠ d.ev.subjectId →
      d.ev.update.Legal
        (deliverAll (resetClient op b.clients) (updates L₁) (d.watcherId, d.ev.subjectId))) := by
  constructor
  · intro w e he hp s p
    have hc := clientSystem_synced r
    rw [hc.clients, AoiWorld.seen, he]
    by_cases hws : w = s
    · simp [hws]
    · rw [if_neg hws]
      cases hs : c.world.entities s with
      | none => simp
      | some es =>
        have hnn := cfg.worldToSector_nonneg es.pos
        rw [← hc.inv.sectorOk s es hs] at hnn
        have hwin : es.sector ∈ cfg.viewWindow e.sector ↔
            |es.sector.x - e.sector.x| ≤ cfg.viewRadius ∧
              |es.sector.y - e.sector.y| ≤ cfg.viewRadius := by
          rw [AoiConfig.mem_viewWindow]
          exact ⟨fun h => h.2.2, fun h => ⟨hnn.1, hnn.2, h⟩⟩
        simp only [hp, true_and, hwin, ne_eq, Option.some.injEq, exists_eq_left']
        split
        · rename_i hin
          simp [hin, Ne.symm hws]
        · rename_i hout
          simp [hout]
  · intro b op hmem L₁ d L₂ hL hd
    obtain ⟨_, _, rb, hop, -⟩ := r.source (b, op) hmem
    have hb := clientSystem_synced rb
    have hsplit : updates (b.world.call cfg op).2 =
        updates L₁ ++ ((d.watcherId, d.ev.subjectId), d.ev.update) :: updates L₂ := by
      rw [hL, updates_append, updates_cons hd]
    exact legal_of_channels (ClientWorld.call_legal hb hop) hsplit

/-- Player 7 sees monster 9 next to it, and no longer once it has walked
four sectors away. -/
theorem client_replica_grid :
    let c := gridCalls.foldl (ClientWorld.call gridConfig)
      { world := ({} : AoiWorld (Int × Int)).setSendCallback }
    c.clients (7, 9) = some (1, 1) ∧
      (c.call gridConfig (.moveEntity 7 (4, 4))).clients (7, 9) ≠ some (1, 1) := by
  have r₀ : Run (clientSystem gridConfig) [] _ := .start rfl
  have r := (r₀.next (.addEntity 7 true (0, 0)) ⟨rfl, rfl⟩).next
    (.addEntity 9 false (1, 1)) ⟨rfl, rfl⟩
  have hnear := (client_replica gridConfig _ _ r).1 7 _ rfl rfl 9 (1, 1)
  have hfar := (client_replica gridConfig _ _
    (r.next (.moveEntity 7 (4, 4)) ⟨trivial, rfl⟩)).1 7 _ rfl rfl 9 (1, 1)
  refine ⟨hnear.mpr ⟨by decide, _, rfl, rfl, by decide⟩, fun h => ?_⟩
  obtain ⟨-, es, hes, -, hx, -⟩ := hfar.mp h
  cases hes
  exact absurd hx (by decide)

end MmorpgServer.Field
