/-
MmorpgServer.Field.AoiReaddTheorems — `add_entity` on an id that is
already registered.

`add_entity` overwrites the entity's record, and with it the only record
of the sector it stood in and of the sectors it watched. The monsters'
`spawnInAoi` removes the entity first; `FieldWorker::add_player`, called
for every queued EnterField, does not.

With such calls in a run the representation invariant is lost: the index
sets may name an id that no longer belongs there. What every call still
keeps is that they never name too little (`Covered`), and that is enough
to say when adding again is the same as removing and adding
(`readd_eq_respawn_iff`): when the entity stays in its sector and a player
stays a player.
-/
import MmorpgServer.Field.AoiWorldTheorems

namespace MmorpgServer.Field

open MmorpgServer.Lib

variable {P : Type}

/-- The index under any sequence of calls, ids added again included. -/
def anyCallSystem (cfg : AoiConfig P) (sendCb : Bool) : System (AoiWorld P) (AoiOp P) :=
  .ofFn { sendCb } (fun _ _ => True) (fun w op => (w.call cfg op).1)

namespace AoiWorld

/-- The index sets name at least what the entity table says. -/
structure Covered (cfg : AoiConfig P) (w : AoiWorld P) : Prop where
  idOk : ∀ i e, w.entities i = some e → e.id = i
  sectorOk : ∀ i e, w.entities i = some e → e.sector = cfg.worldToSector e.pos
  subscribedOk : ∀ i e, w.entities i = some e →
    e.subscribed = if e.isPlayer then cfg.viewWindow e.sector else ∅
  entitiesCover : ∀ i e, w.entities i = some e → i ∈ w.entitiesAt e.sector
  watchersCover : ∀ i e, w.entities i = some e → ∀ c ∈ e.subscribed, i ∈ w.watchersAt c

variable {cfg : AoiConfig P} {w w' : AoiWorld P} {id : EntityId} {e e₀ : Entity P}

/-- **Frame rule.** A call that rewrites one entity keeps the cover if it
covers what it wrote and takes no other id out of a set. -/
theorem Covered.update (h : w.Covered cfg) (id : EntityId) (e : Entity P)
    (hent : w'.entities = Function.update w.entities id (some e)) (hid : e.id = id)
    (hsector : e.sector = cfg.worldToSector e.pos)
    (hsub : e.subscribed = if e.isPlayer then cfg.viewWindow e.sector else ∅)
    (hin : id ∈ w'.entitiesAt e.sector) (hwatch : ∀ c ∈ e.subscribed, id ∈ w'.watchersAt c)
    (hothers : ∀ i ≠ id, ∀ c, (i ∈ w.entitiesAt c → i ∈ w'.entitiesAt c) ∧
      (i ∈ w.watchersAt c → i ∈ w'.watchersAt c)) : w'.Covered cfg := by
  refine ⟨?_, ?_, ?_, ?_, ?_⟩ <;> rw [hent]
  · exact forall_update_some h.idOk hid
  · exact forall_update_some h.sectorOk hsector
  · exact forall_update_some h.subscribedOk hsub
  · refine forall_update_of_ne (fun i e' hne hold => ?_) hin
    exact (hothers i hne _).1 (h.entitiesCover i e' hold)
  · refine forall_update_of_ne (fun i e' hne hold c hc => ?_) hwatch
    exact (hothers i hne c).2 (h.watchersCover i e' hold c hc)

theorem Covered.endCall (h : w.Covered cfg) : w.endCall.Covered cfg :=
  ⟨h.idOk, h.sectorOk, h.subscribedOk, h.entitiesCover, h.watchersCover⟩

/-! ## What each call leaves of the tables -/

theorem addEntity_covered (h : w.Covered cfg) (id : EntityId) (isPlayer : Bool) (pos : P) :
    (w.addEntity cfg id isPlayer pos).1.Covered cfg := by
  refine h.update _ _ (addEntity_entities_eq cfg w id isPlayer pos) rfl rfl rfl ?_ ?_ ?_
  · rw [addEntity_entitiesAt]
    simp [addedEntity, newEntity]
  · intro c hc
    exact (mem_watchersAt_addEntity cfg w id isPlayer pos c id).mpr (.inr ⟨rfl, hc⟩)
  · intro i _ c
    rw [addEntity_entitiesAt, mem_watchersAt_addEntity]
    refine ⟨fun hi => ?_, .inl⟩
    split
    · exact Finset.mem_insert_of_mem hi
    · exact hi

theorem removeEntity_covered (h : w.Covered cfg) (id : EntityId) :
    (w.removeEntity cfg id).1.Covered cfg := by
  cases he : w.entities id with
  | none =>
    rw [removeEntity_of_none he]
    exact h
  | some e =>
    have hothers : ∀ i e', (w.removeEntity cfg id).1.entities i = some e' →
        i ≠ id ∧ w.entities i = some e' := by
      intro i e' hi
      rw [removeEntity_entities he] at hi
      exact of_update_none hi
    refine ⟨fun i e' hi => h.idOk i e' (hothers i e' hi).2,
      fun i e' hi => h.sectorOk i e' (hothers i e' hi).2,
      fun i e' hi => h.subscribedOk i e' (hothers i e' hi).2, ?_, ?_⟩
    · intro i e' hi
      obtain ⟨hne, hold⟩ := hothers i e' hi
      have hin := h.entitiesCover i e' hold
      rw [removeEntity_entitiesAt he]
      split
      · rename_i hc
        exact Finset.mem_erase.mpr ⟨hne, hc ▸ hin⟩
      · exact hin
    · intro i e' hi c hc
      obtain ⟨hne, hold⟩ := hothers i e' hi
      rw [mem_watchersAt_removeEntity he, h.idOk id e he]
      exact ⟨h.watchersCover i e' hold c hc, fun hi => hne hi.1⟩

/-- A rebuild of any entity in the table covers its new window. -/
theorem rebuild_covered (h : w.Covered cfg) (ord : AoiOrder) (hid : e.id = id)
    (hent : w'.entities = Function.update w.entities id (some e))
    (hsector : e.sector = cfg.worldToSector e.pos) (hp : e.isPlayer = true)
    (hin : id ∈ w'.entitiesAt e.sector) (hwatch : ∀ c ∈ e.subscribed, id ∈ w.watchersAt c)
    (hwat : w'.watchersAt = w.watchersAt)
    (hothers : ∀ i ≠ id, ∀ c, i ∈ w.entitiesAt c → i ∈ w'.entitiesAt c) :
    (rebuildPlayerSubscriptions cfg ord w' e).1.Covered cfg := by
  subst hid
  refine h.update e.id { e with subscribed := cfg.viewWindow e.sector }
    ?_ rfl hsector (by simp [hp]) ?_ ?_ ?_
  · rw [rebuild_entities, hent, Function.update_idem]
  · rw [rebuild_entitiesAt]
    exact hin
  · intro c hc
    rw [rebuild_watchersAt, hwat]
    by_cases hold : c ∈ e.subscribed
    · exact .inl ⟨hwatch c hold, fun h => h.2.2 hc⟩
    · exact .inr ⟨rfl, hc, hold⟩
  · intro i hi c
    rw [rebuild_entitiesAt, rebuild_watchersAt, hwat]
    exact ⟨hothers i hi c, fun hv => .inl ⟨hv, fun h => hi h.1⟩⟩

/-- Moving takes only the mover out of a sector, and puts it in its new
one. -/
theorem relocated_entitiesAt_cover (h : w.Covered cfg) (he : w.entities id = some e₀)
    (newPos : P) :
    id ∈ (relocated cfg w id e₀ newPos).entitiesAt (cfg.worldToSector newPos) ∧
      ∀ i ≠ id, ∀ c, i ∈ w.entitiesAt c → i ∈ (relocated cfg w id e₀ newPos).entitiesAt c := by
  have hin := h.entitiesCover id e₀ he
  simp only [relocated]
  by_cases hsec : (movedEntity cfg e₀ newPos).sector = e₀.sector
  · rw [if_neg (by simp [hsec]), entitiesAt_setEntity]
    have hsec' : cfg.worldToSector newPos = e₀.sector := hsec
    exact ⟨hsec' ▸ hin, fun i _ c hi => hi⟩
  · rw [if_pos (by simp [hsec])]
    refine ⟨?_, fun i hi c hc => ?_⟩
    · rw [show cfg.worldToSector newPos = (movedEntity cfg e₀ newPos).sector from rfl,
        entitiesAt_enterSector, if_pos rfl]
      exact Finset.mem_insert_self _ _
    · have hleft : i ∈ ((w.setEntity id (movedEntity cfg e₀ newPos)).leaveSector id
          e₀.sector).entitiesAt c := by
        rw [entitiesAt_leaveSector, entitiesAt_setEntity]
        split
        · rename_i hc'
          exact Finset.mem_erase.mpr ⟨hi, hc' ▸ hc⟩
        · exact hc
      rw [entitiesAt_enterSector]
      split
      · rename_i hc'
        exact Finset.mem_insert_of_mem (hc' ▸ hleft)
      · exact hleft

theorem moveEntity_covered (h : w.Covered cfg) (id : EntityId) (newPos : P) :
    (w.moveEntity cfg id newPos).1.Covered cfg := by
  cases he : w.entities id with
  | none =>
    rw [moveEntity_of_none he]
    exact h
  | some e₀ =>
    have hid := h.idOk id e₀ he
    have hwat := relocated_watchersAt cfg w id e₀ newPos
    have hent := relocated_entities cfg w id e₀ newPos
    have hsub := h.subscribedOk id e₀ he
    obtain ⟨hin, hothers⟩ := relocated_entitiesAt_cover h he newPos
    have hend : (resubscribed cfg w id e₀ newPos).1.Covered cfg := by
      unfold resubscribed
      cases hp : e₀.isPlayer with
      | true =>
        exact rebuild_covered h _ hid hent rfl hp hin (h.watchersCover id e₀ he) hwat hothers
      | false =>
        rw [if_neg (by decide)]
        refine h.update _ _ hent hid rfl ?_ hin ?_ fun i hi c =>
          ⟨hothers i hi c, fun hv => hwat ▸ hv⟩
        · simpa [movedEntity, hp] using hsub
        · intro c hc
          rw [hwat]
          exact h.watchersCover id e₀ he c hc
    rw [moveEntity_fst he]
    exact hend.endCall

theorem updatePlayerAoi_covered (h : w.Covered cfg) (id : EntityId) :
    (w.updatePlayerAoi cfg id).1.Covered cfg := by
  unfold updatePlayerAoi
  cases he : w.entities id with
  | none => exact h
  | some e =>
    cases hp : e.isPlayer with
    | false => simpa [hp] using h
    | true =>
      have hend := rebuild_covered h (cfg.order w.calls) (h.idOk id e he)
        (Function.update_eq_self_iff.mpr he.symm).symm (h.sectorOk id e he) hp
        (h.entitiesCover id e he) (h.watchersCover id e he) rfl fun _ _ _ hi => hi
      simpa [hp] using hend.endCall

theorem call_covered (h : w.Covered cfg) (op : AoiOp P) : (w.call cfg op).1.Covered cfg := by
  cases op with
  | addEntity id isPlayer pos => exact addEntity_covered h id isPlayer pos
  | removeEntity id => exact removeEntity_covered h id
  | moveEntity id newPos => exact moveEntity_covered h id newPos
  | updatePlayerAoi id => exact updatePlayerAoi_covered h id

end AoiWorld

theorem anyCallSystem_covered {cfg : AoiConfig P} {sendCb : Bool}
    {l : List (AoiWorld P × AoiOp P)} {w : AoiWorld P} (r : Run (anyCallSystem cfg sendCb) l w) :
    w.Covered cfg := by
  refine r.invariant ?_ ?_
  · rintro w rfl
    refine ⟨?_, ?_, ?_, ?_, ?_⟩ <;> intros <;> simp_all
  · rintro w op w' hw ⟨-, rfl⟩
    exact AoiWorld.call_covered hw op

/-! ## Adding again against removing and adding -/

namespace AoiWorld

variable {cfg : AoiConfig P} {w : AoiWorld P} {id : EntityId} {e : Entity P} {isPlayer : Bool}
  {pos : P}

/-- The entity sets agree exactly when the entity stays in its sector:
the record of any other sector is overwritten. -/
theorem readd_entitiesAt_iff (h : w.Covered cfg) (he : w.entities id = some e) :
    (w.addEntity cfg id isPlayer pos).1.entitiesAt =
        ((w.removeEntity cfg id).1.addEntity cfg id isPlayer pos).1.entitiesAt ↔
      e.sector = cfg.worldToSector pos := by
  constructor
  · intro heq
    by_contra hne
    have hat := congrFun heq e.sector
    rw [addEntity_entitiesAt, addEntity_entitiesAt, removeEntity_entitiesAt he, if_neg hne,
      if_neg hne, if_pos rfl] at hat
    have hin := h.entitiesCover id e he
    rw [hat] at hin
    exact absurd hin (Finset.notMem_erase id _)
  · intro hsec
    funext c
    have hin : id ∈ w.entitiesAt (cfg.worldToSector pos) := hsec ▸ h.entitiesCover id e he
    rw [addEntity_entitiesAt, addEntity_entitiesAt, removeEntity_entitiesAt he]
    by_cases hc : c = cfg.worldToSector pos
    · simp [hc, hsec, Finset.insert_eq_of_mem hin, Finset.insert_erase hin]
    · simp [hc, hsec]

/-- The watcher sets agree exactly when the new window covers the old. -/
theorem readd_watchersAt_iff (h : w.Covered cfg) (he : w.entities id = some e) :
    (w.addEntity cfg id isPlayer pos).1.watchersAt =
        ((w.removeEntity cfg id).1.addEntity cfg id isPlayer pos).1.watchersAt ↔
      (e.isPlayer = true → e.subscribed ⊆ (addedEntity cfg id isPlayer pos).subscribed) := by
  have hid := h.idOk id e he
  constructor
  · intro heq hp c hc
    have hin : id ∈ (w.addEntity cfg id isPlayer pos).1.watchersAt c :=
      (mem_watchersAt_addEntity cfg w id isPlayer pos c id).mpr
        (.inl (h.watchersCover id e he c hc))
    rw [heq, mem_watchersAt_addEntity, mem_watchersAt_removeEntity he] at hin
    rcases hin with hkept | hnew
    · exact absurd ⟨hid.symm, hp, hc⟩ hkept.2
    · exact hnew.2
  · intro hsub
    funext c
    ext v
    rw [mem_watchersAt_addEntity, mem_watchersAt_addEntity, mem_watchersAt_removeEntity he, hid]
    constructor
    · rintro (hv | hv)
      · by_cases hown : v = id ∧ e.isPlayer = true ∧ c ∈ e.subscribed
        · exact .inr ⟨hown.1, hsub hown.2.1 hown.2.2⟩
        · exact .inl ⟨hv, hown⟩
      · exact .inr hv
    · rintro (hv | hv)
      · exact .inl hv.1
      · exact .inr hv

/-- A player's window covers its own sector, so it is kept only by a
player that stays. -/
theorem subscribed_subset_added_iff (h : w.Covered cfg) (he : w.entities id = some e)
    (hsec : e.sector = cfg.worldToSector pos) :
    (e.isPlayer = true → e.subscribed ⊆ (addedEntity cfg id isPlayer pos).subscribed) ↔
      (e.isPlayer = true → isPlayer = true) := by
  have hsub := h.subscribedOk id e he
  refine imp_congr_right fun hp => ?_
  rw [hsub, hp, if_pos rfl, hsec]
  constructor
  · intro hcover
    have hown : cfg.worldToSector pos ∈ cfg.viewWindow (cfg.worldToSector pos) := by
      have hnn := cfg.worldToSector_nonneg pos
      have hR := cfg.viewRadius_pos
      rw [AoiConfig.mem_viewWindow, sub_self, sub_self, abs_zero]
      exact ⟨hnn.1, hnn.2, hR.le, hR.le⟩
    have hadded := hcover hown
    cases isPlayer with
    | true => rfl
    | false => simp [addedEntity] at hadded
  · intro hnew
    simp [addedEntity, hnew]

end AoiWorld

/-- **Adding again against removing and adding.** In every state any calls
reach, for every registered id: `add_entity` leaves the tables that
`remove_entity` and `add_entity` leave exactly when the entity stays in
its sector and, if it was a player, stays one. -/
theorem readd_eq_respawn_iff (cfg : AoiConfig P) (sendCb : Bool)
    (l : List (AoiWorld P × AoiOp P)) (w : AoiWorld P) (r : Run (anyCallSystem cfg sendCb) l w)
    (id : EntityId) (e : Entity P) (he : w.entities id = some e) (isPlayer : Bool) (pos : P) :
    (w.addEntity cfg id isPlayer pos).1.SameTables
        ((w.removeEntity cfg id).1.addEntity cfg id isPlayer pos).1 ↔
      e.sector = cfg.worldToSector pos ∧ (e.isPlayer = true → isPlayer = true) := by
  have hw := anyCallSystem_covered r
  have hentities : (w.addEntity cfg id isPlayer pos).1.entities =
      ((w.removeEntity cfg id).1.addEntity cfg id isPlayer pos).1.entities := by
    rw [AoiWorld.addEntity_entities_eq, AoiWorld.addEntity_entities_eq,
      AoiWorld.removeEntity_entities he, Function.update_idem]
  constructor
  · intro hsame
    have hsec := (AoiWorld.readd_entitiesAt_iff hw he).mp hsame.entitiesAt
    have hcover := (AoiWorld.readd_watchersAt_iff hw he).mp hsame.watchersAt
    exact ⟨hsec, (AoiWorld.subscribed_subset_added_iff hw he hsec).mp hcover⟩
  · rintro ⟨hsec, hplayer⟩
    have hcover := (AoiWorld.subscribed_subset_added_iff hw he hsec).mpr hplayer
    exact ⟨hentities, (AoiWorld.readd_entitiesAt_iff hw he).mpr hsec,
      (AoiWorld.readd_watchersAt_iff hw he).mpr hcover⟩

theorem gridWorld_run : ∃ l, Run (anyCallSystem gridConfig true) l gridWorld := by
  have r₀ : Run (anyCallSystem gridConfig true) [] _ := .start rfl
  exact ⟨_, (r₀.next (.addEntity 7 true (0, 0)) ⟨trivial, rfl⟩).next
    (.addEntity 9 false (1, 1)) ⟨trivial, rfl⟩⟩

/-- Player 7 of `gridWorld`, added again where it stands. -/
theorem readd_eq_respawn_iff_grid :
    (gridWorld.addEntity gridConfig 7 true (0, 0)).1.SameTables
      ((gridWorld.removeEntity gridConfig 7).1.addEntity gridConfig 7 true (0, 0)).1 := by
  obtain ⟨l, r⟩ := gridWorld_run
  exact (readd_eq_respawn_iff gridConfig true l gridWorld r 7 _ rfl true (0, 0)).mpr
    ⟨rfl, fun _ => rfl⟩

/-- Player 7 of `gridWorld`, added again five sectors away: it stays in
the sets of the corner, where removing first would have taken it out. -/
theorem readd_leaves_ghost :
    (∃ l, Run (anyCallSystem gridConfig true) l gridWorld) ∧ gridWorld.entities 7 ≠ none ∧
      7 ∈ (gridWorld.addEntity gridConfig 7 true (5, 5)).1.entitiesAt ⟨0, 0⟩ ∧
      7 ∈ (gridWorld.addEntity gridConfig 7 true (5, 5)).1.watchersAt ⟨1, 1⟩ ∧
      ¬ (gridWorld.addEntity gridConfig 7 true (5, 5)).1.SameTables
        ((gridWorld.removeEntity gridConfig 7).1.addEntity gridConfig 7 true (5, 5)).1 := by
  refine ⟨gridWorld_run, Option.some_ne_none _, by decide, by decide, ?_⟩
  intro hsame
  have hat := congrFun hsame.entitiesAt ⟨0, 0⟩
  exact absurd hat (by decide)

end MmorpgServer.Field
