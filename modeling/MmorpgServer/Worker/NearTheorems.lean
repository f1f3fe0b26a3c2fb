/-
MmorpgServer.Worker.NearTheorems — what is near a player is shown to it,
where it is.

`clients_show_view_iff` says when a client shows no more than the index
says its player sees. It never shows less, wherever players enter: what
`on_player_enter_field` tells is true, and from then on the index reports
every change (`Shows`). The index, in turn, has every player and every
living monster of the field where it stands, and nothing else (`Shown`).

* `index_is_the_field` — who is registered, and where.
* `near_is_shown` — whatever is within two sectors of a player on both
  axes is shown to its client where it stands.
-/
import MmorpgServer.Worker.ClientViewTheorems
import MmorpgServer.Worker.MonsterLifeTheorems
import MmorpgServer.Worker.MotionTheorems
import MmorpgServer.Field.AoiGeometry
import MmorpgServer.Lib.ExactScalar

namespace MmorpgServer.Worker

open MmorpgServer.Lib MmorpgServer.Field MmorpgServer.Storage
open Scalar hiding max

/-! ## Replicas that know at least as much -/

/-- A replica that has every value another has keeps having them. -/
theorem applyAll_keeps {V : Type} (us : List (Update V)) {o o' : Option V}
    (h : ∀ v, o = some v → o' = some v) :
    ∀ v, Update.applyAll us o = some v → Update.applyAll us o' = some v := by
  induction us generalizing o o' with
  | nil => exact h
  | cons u us ih =>
    refine ih ?_
    intro v hv
    cases u with
    | insert w => exact hv
    | overwrite w =>
      cases o with
      | none => cases hv
      | some x =>
        rw [h x rfl]
        exact hv
    | delete => cases hv

/-- Told again what it has, a replica keeps it. -/
theorem applyAll_insert_same {V : Type} {us : List (Update V)} {v : V}
    (h : ∀ u ∈ us, u = .insert v) : Update.applyAll us (some v) = some v := by
  induction us with
  | nil => rfl
  | cons u us ih =>
    rw [List.forall_mem_cons] at h
    rw [Update.applyAll_cons, h.1]
    exact ih h.2

variable {K : Type}

/-! ## A call of the index about somebody else -/

/-- What is seen is where the index has it. -/
theorem entity_of_seen {cfg : AoiConfig (Vec2 K)} {w : AoiWorld (Vec2 K)} {v s : EntityId}
    {pos : Vec2 K} (h : w.seen cfg v s = some pos) :
    ∃ e, w.entities s = some e ∧ e.pos = pos := by
  unfold AoiWorld.seen at h
  split at h
  · cases h
  · split at h
    · rename_i ev es _ hes
      split at h
      · exact ⟨es, hes, Option.some.inj h⟩
      · cases h
    · cases h

/-- The id a call is about. -/
def subjectOf : FieldAoiOp (Vec2 K) → EntityId
  | .addEntity id _ _ => id
  | .moveEntity id _ => id
  | .removeEntity id => id

namespace FieldWorker

/-- A call changes what it is about, and nobody else. -/
theorem call_entities_other {cfg : AoiConfig (Vec2 K)} {w : AoiWorld (Vec2 K)} (hw : w.Inv cfg)
    (op : FieldAoiOp (Vec2 K)) {i : EntityId} (hi : i ≠ subjectOf op) :
    (w.call cfg op.toAoi).1.entities i = w.entities i := by
  cases op with
  | addEntity id isPlayer pos =>
    change (w.addEntity cfg id isPlayer pos).1.entities i = _
    rw [AoiWorld.addEntity_entities_eq]
    exact Function.update_of_ne hi _ _
  | removeEntity id =>
    change (w.removeEntity cfg id).1.entities i = _
    cases he : w.entities id with
    | none => rw [AoiWorld.removeEntity_of_none he]
    | some e =>
      rw [AoiWorld.removeEntity_entities he]
      exact Function.update_of_ne hi _ _
  | moveEntity id pos =>
    change (w.moveEntity cfg id pos).1.entities i = _
    cases he : w.entities id with
    | none => rw [AoiWorld.moveEntity_of_none he]
    | some e₀ =>
      obtain ⟨e, hent, -⟩ := AoiWorld.resubscribed_entities hw he pos
      rw [AoiWorld.moveEntity_fst he, AoiWorld.entities_endCall, hent]
      exact Function.update_of_ne hi _ _

/-! ## The invariant -/

variable [Scalar K]

/-- The index has a player where it stands. -/
def Stands (fw : FieldWorker K) (w : EntityId) : Prop :=
  ∃ e, fw.aoiSystem.aoi.entities w = some e ∧ e.isPlayer = true ∧ e.pos = (fw.player w).pos

/-- A client that has been at its session since its player was added shows
what its player sees, where the index has it. -/
structure Shows (cfg : FieldConfig K) (fw : FieldWorker K) (w : EntityId) : Prop where
  session : (client w fw.log).online = true → fw.sessions w = true
  shown : (client w fw.log).online = true → ∀ s, s ≠ w → ∀ pos,
    fw.aoiSystem.aoi.seen cfg.aoi w s = some pos → (client w fw.log).shown s = some pos

/-- The index is the field, and clients show what it says. -/
structure Shown (cfg : FieldConfig K) (fw : FieldWorker K) : Prop where
  wired : fw.Wired cfg
  apart : ∀ w ∈ fw.players, w ∉ fw.monsterIds
  only : ∀ i, fw.aoiSystem.aoi.entities i ≠ none → i ∈ fw.players ∨ i ∈ fw.monsterIds
  players : ∀ w ∈ fw.players, fw.Stands w
  shows : ∀ w ∈ fw.players, fw.Shows cfg w

variable {cfg : FieldConfig K} {fw : FieldWorker K}

theorem Shows.call (h : fw.Wired cfg) {w : EntityId} (ht : fw.Shows cfg w)
    (op : FieldAoiOp (Vec2 K)) (hop : op.toAoi.Fresh fw.aoiSystem.aoi)
    (hw : op.toAoi.session ≠ some w) :
    (fw.aoiCall (fw.aoiSystem.call cfg.aoi op)).Shows cfg w := by
  obtain ⟨haoi, -⟩ := FieldAoiSystem.call_eq cfg.aoi fw.aoiSystem op
  constructor
  · rw [call_online]
    exact ht.session
  · rw [call_online]
    intro honline s hs
    have hd := AoiWorld.call_diff h.inv h.sendCb hop (Ne.symm hs)
    rw [if_neg hw] at hd
    rw [h.call_client op (ht.session honline) hs, aoiCall_aoiSystem, haoi, ← hd.result]
    exact applyAll_keeps _ (ht.shown honline s hs)

/-- A call about a monster. -/
theorem Shown.call (h : fw.Shown cfg) (op : FieldAoiOp (Vec2 K))
    (hop : op.toAoi.Fresh fw.aoiSystem.aoi) (hid : subjectOf op ∈ fw.monsterIds) :
    (fw.aoiCall (fw.aoiSystem.call cfg.aoi op)).Shown cfg := by
  obtain ⟨haoi, -⟩ := FieldAoiSystem.call_eq cfg.aoi fw.aoiSystem op
  have hne : ∀ w ∈ fw.players, w ≠ subjectOf op := by
    rintro w hw rfl
    exact h.apart _ hw hid
  constructor
  · exact h.wired.call op (AoiWorld.call_inv h.wired.inv hop)
  · exact h.apart
  · intro i hi
    rw [aoiCall_aoiSystem, haoi] at hi
    by_cases hie : i = subjectOf op
    · subst hie
      exact .inr hid
    · rw [call_entities_other h.wired.inv op hie] at hi
      exact h.only i hi
  · intro w hw
    obtain ⟨e, he, hrest⟩ := h.players w hw
    refine ⟨e, ?_, hrest⟩
    rw [aoiCall_aoiSystem, haoi, call_entities_other h.wired.inv op (hne w hw), he]
  · intro w hw
    refine (h.shows w hw).call h.wired op hop ?_
    intro hsession
    refine hne w hw ?_
    cases op with
    | addEntity id isPlayer pos => exact (Option.some.inj hsession).symm
    | moveEntity id pos => cases hsession
    | removeEntity id => exact (Option.some.inj hsession).symm

/-- Nothing but the index, the players with their positions, the ids of
the monsters, the sessions and the log matters. -/
theorem Shown.of_eq {fw' : FieldWorker K} (h : fw.Shown cfg)
    (haoi : fw'.aoiSystem = fw.aoiSystem) (hids : fw'.monsterIds = fw.monsterIds)
    (hplayers : fw'.players = fw.players) (hsessions : fw'.sessions = fw.sessions)
    (hpos : ∀ w, (fw'.player w).pos = (fw.player w).pos)
    (hlog : ∀ w, client w fw'.log = client w fw.log) : fw'.Shown cfg := by
  refine ⟨⟨?_, ?_, ?_, ?_⟩, ?_, ?_, fun w hw => ?_, fun w hw => ?_⟩
  · exact haoi ▸ h.wired.inv
  · exact haoi ▸ h.wired.sendCb
  · exact haoi ▸ h.wired.initialized
  · exact haoi ▸ h.wired.sendFunc
  · rw [hplayers, hids]
    exact h.apart
  · rw [hplayers, hids, haoi]
    exact h.only
  · unfold Stands
    rw [haoi, hpos]
    exact h.players w (hplayers ▸ hw)
  · obtain ⟨hsession, hshown⟩ := h.shows w (hplayers ▸ hw)
    constructor
    · rw [hlog, hsessions]
      exact hsession
    · rw [hlog, haoi]
      exact hshown

theorem Shown.emit (h : fw.Shown cfg) {es : List (Effect K)} (hes : ∀ e ∈ es, e.quiet = true) :
    (fw.emit es).Shown cfg :=
  h.of_eq rfl rfl rfl rfl (fun _ => rfl) fun w => client_append_quiet w fw.log hes

/-- A player that stays where it is. -/
theorem Shown.setPlayer (h : fw.Shown cfg) {pid : EntityId} {p : Player K}
    (hpos : p.pos = (fw.player pid).pos) : (fw.setPlayer pid p).Shown cfg := by
  refine h.of_eq rfl rfl rfl rfl ?_ fun _ => rfl
  intro w
  change (Function.update fw.player pid p w).pos = _
  by_cases hw : w = pid
  · subst hw
    rw [Function.update_self, hpos]
  · rw [Function.update_of_ne hw]

theorem Shown.broadcast (h : fw.Shown cfg) (id : EntityId) {packet : Packet K}
    (hp : (Effect.send id packet).quiet = true) : (fw.broadcast id packet).Shown cfg := by
  rw [broadcast_eq]
  refine h.emit fun e he => ?_
  obtain ⟨w, -, rfl⟩ := List.mem_map.mp he
  cases packet with
  | fieldCmd type et s pos name => cases hp
  | combatEvent | aiStateEvent | statEvent => rfl

theorem Shown.broadcastPlayerState (h : fw.Shown cfg) (pid : EntityId) (st : PlayerState) :
    (fw.broadcastPlayerState pid st).Shown cfg := h.broadcast pid rfl

theorem Shown.mark (h : fw.Shown cfg) (source : DirtySource) (pid : EntityId) :
    (((fw.writePlayerRtEnqueue pid).markDirty source pid).setLastDirtyMarkTime pid).Shown cfg := by
  have hwrite : (fw.writePlayerRtEnqueue pid).Shown cfg := by
    unfold writePlayerRtEnqueue
    split
    · exact h.emit (by simp [Effect.quiet])
    · exact h
  exact (hwrite.emit (by simp [Effect.quiet])).setPlayer rfl

/-! ## Monsters -/

theorem env_shown (cfg : FieldConfig K) (ids : List EntityId) :
    (env cfg).Keeps (· ∈ ids) fun fw => fw.Shown cfg ∧ fw.monsterIds = ids where
  toQuiet := by
    refine env_quiet cfg ?_ ?_ ?_
    · intro fw w packet hp ⟨h, hids⟩
      refine ⟨h.emit fun e he => ?_, hids⟩
      obtain rfl := List.mem_singleton.mp he
      cases packet with
      | fieldCmd type et s pos name => exact absurd rfl (hp type et s pos name)
      | combatEvent | aiStateEvent | statEvent => rfl
    · exact fun fw pid p hpos _ h => ⟨h.1.setPlayer hpos, h.2⟩
    · exact fun fw pid h => ⟨h.1.emit (by simp [Effect.quiet]), h.2⟩
  moveInAoi fw mid x y hmid h :=
    ⟨h.1.call (.moveEntity mid ⟨x, y⟩) trivial (h.2.symm ▸ hmid), h.2⟩
  spawnInAoi fw mid x y hmid h := by
    have hremoved := h.1.call (.removeEntity mid) trivial (h.2.symm ▸ hmid)
    refine ⟨hremoved.call (.addEntity mid false ⟨x, y⟩) ?_ (h.2.symm ▸ hmid), h.2⟩
    have hgone := congrFun (aoiPlace_removeEntity cfg fw.aoiSystem.aoi mid) mid
    rw [Function.update_self, aoiPlace, Option.map_eq_none_iff] at hgone
    show (fw.aoiRemove cfg mid).aoiSystem.aoi.entities mid = none
    rw [aoiRemove_aoi]
    exact hgone
  removeFromAoi fw mid hmid h := ⟨h.1.call (.removeEntity mid) trivial (h.2.symm ▸ hmid), h.2⟩

theorem Shown.tickMonsters (h : fw.Shown cfg) (policy : List K → Fin 5 → K) (step : K) :
    (fw.tickMonsters cfg policy step).Shown cfg := by
  obtain ⟨hinv, hids⟩ := (env_shown cfg fw.monsterIds).update policy step (fun _ hi => hi) ⟨h, rfl⟩
  refine hinv.of_eq rfl ?_ rfl rfl (fun _ => rfl) fun _ => rfl
  rw [hids]
  exact MonsterWorld.update_ids (env cfg) policy step fw.monsterWorld fw

theorem Shown.handleSkill (h : fw.Shown cfg) (session : Option EntityId) (targetId : EntityId) :
    (fw.handleSkill cfg session targetId).Shown cfg := by
  cases session with
  | none => exact h
  | some pid =>
    have hb := h.broadcastPlayerState pid .attack
    obtain ⟨hinv, hids⟩ := (env_shown cfg _).playerAttackMonster targetId
      (fw.broadcastPlayerState pid .attack).monsterWorld.monsters (fun _ hi => hi) ⟨hb, rfl⟩
    have hset : ({ (MonsterWorld.playerAttackMonster (env cfg) targetId
        (fw.broadcastPlayerState pid .attack).monsterWorld.monsters
        (fw.broadcastPlayerState pid .attack)).2.1 with
        monsterWorld := ⟨(MonsterWorld.playerAttackMonster (env cfg) targetId
          (fw.broadcastPlayerState pid .attack).monsterWorld.monsters
          (fw.broadcastPlayerState pid .attack)).1⟩ } : FieldWorker K).Shown cfg := by
      refine hinv.of_eq rfl ?_ rfl rfl (fun _ => rfl) fun _ => rfl
      rw [hids]
      exact MonsterWorld.playerAttackMonster_ids _ _ _ _
    unfold FieldWorker.handleSkill
    simp only
    split
    · exact hset.broadcast _ rfl
    · exact hset

/-! ## Players -/

/-- A player is moved, and then moved in the index. -/
theorem Shown.movePlayer (h : fw.Shown cfg) {pid : EntityId} (hpid : pid ∈ fw.players)
    (p : Player K) : ((fw.setPlayer pid p).aoiMove cfg pid p.pos).Shown cfg := by
  obtain ⟨haoi, -⟩ := FieldAoiSystem.call_eq cfg.aoi fw.aoiSystem (.moveEntity pid p.pos)
  have hset : (fw.setPlayer pid p).Wired cfg :=
    ⟨h.wired.inv, h.wired.sendCb, h.wired.initialized, h.wired.sendFunc⟩
  have hother : ∀ i, i ≠ pid →
      ((fw.setPlayer pid p).aoiMove cfg pid p.pos).aoiSystem.aoi.entities i =
      fw.aoiSystem.aoi.entities i := fun i hi =>
    (congrFun (congrArg AoiWorld.entities haoi) i).trans
      (call_entities_other h.wired.inv (.moveEntity pid p.pos) hi)
  constructor
  · exact hset.call (.moveEntity pid p.pos) (AoiWorld.moveEntity_inv h.wired.inv pid p.pos)
  · exact h.apart
  · intro i hi
    by_cases hie : i = pid
    · subst hie
      exact .inl hpid
    · rw [hother i hie] at hi
      exact h.only i hi
  · intro w hw
    by_cases hwp : w = pid
    · subst hwp
      obtain ⟨e₀, he₀, hplayer, -⟩ := h.players w hw
      obtain ⟨e, hent, hep, hpos, -⟩ := AoiWorld.resubscribed_entities h.wired.inv he₀ p.pos
      refine ⟨e, ?_, hep.trans hplayer, ?_⟩
      · rw [aoiMove_aoi]
        change (fw.aoiSystem.aoi.moveEntity cfg.aoi w p.pos).1.entities w = some e
        rw [AoiWorld.moveEntity_fst he₀, AoiWorld.entities_endCall, hent, Function.update_self]
      · change e.pos = (Function.update fw.player w p w).pos
        rw [Function.update_self, hpos]
    · obtain ⟨e, he, hplayer, hpos⟩ := h.players w hw
      refine ⟨e, (hother w hwp).trans he, hplayer, ?_⟩
      change e.pos = (Function.update fw.player pid p w).pos
      rw [Function.update_of_ne hwp, hpos]
  · intro w hw
    have hshows : (fw.setPlayer pid p).Shows cfg w := ⟨(h.shows w hw).session, (h.shows w hw).shown⟩
    exact hshows.call hset (.moveEntity pid p.pos) trivial nofun

theorem Shown.tickPlayer (h : fw.Shown cfg) (step : K) {pid : EntityId} (hpid : pid ∈ fw.players) :
    (fw.tickPlayer cfg step pid).Shown cfg := by
  unfold FieldWorker.tickPlayer
  simp only
  split
  · refine (Shown.broadcastPlayerState ?_ pid .idle).mark .state pid
    exact h.setPlayer rfl
  · split
    · exact h
    · have hmoved := fun p => h.movePlayer hpid p
      unfold markDirtyPosIfNeeded
      simp only
      split
      · exact hmoved _
      · split
        · exact hmoved _
        · exact (hmoved _).mark .pos pid

/-- A tick adds and removes nobody. -/
theorem tickPlayer_players (cfg : FieldConfig K) (step : K) (fw : FieldWorker K) (pid : EntityId) :
    (fw.tickPlayer cfg step pid).players = fw.players :=
  congrArg Motions.players (motions_tickPlayer cfg step fw pid)

theorem Shown.onClientMoveInput (h : fw.Shown cfg) (session : Option EntityId)
    (entityId : EntityId) (dir : Option (Vec2 K)) :
    (fw.onClientMoveInput session entityId dir).Shown cfg := by
  unfold FieldWorker.onClientMoveInput
  split
  · exact h
  · split
    · exact h
    · cases dir with
      | none => exact h
      | some d =>
        simp only
        split
        · split
          · exact h.setPlayer rfl
          · refine Shown.broadcastPlayerState ?_ entityId .idle
            exact h.setPlayer rfl
        · split
          · exact h.setPlayer rfl
          · refine Shown.broadcastPlayerState ?_ entityId .chase
            exact h.setPlayer rfl

theorem Shown.removePlayer (h : fw.Shown cfg) (pid : EntityId) :
    (fw.removePlayer cfg pid).Shown cfg := by
  obtain ⟨haoi, -⟩ := FieldAoiSystem.call_eq cfg.aoi fw.aoiSystem (.removeEntity pid)
  have hwired := h.wired.call (.removeEntity pid) (AoiWorld.removeEntity_inv h.wired.inv pid)
  have hother : ∀ i, i ≠ pid → (fw.removePlayer cfg pid).aoiSystem.aoi.entities i =
      fw.aoiSystem.aoi.entities i := fun i hi =>
    (congrFun (congrArg AoiWorld.entities haoi) i).trans
      (call_entities_other h.wired.inv (.removeEntity pid) hi)
  constructor
  · exact ⟨hwired.inv, hwired.sendCb, hwired.initialized, hwired.sendFunc⟩
  · exact fun w hw => h.apart w (Finset.mem_of_mem_erase hw)
  · intro i hi
    by_cases hie : i = pid
    · subst hie
      have hgone := congrFun (aoiPlace_removeEntity cfg fw.aoiSystem.aoi i) i
      rw [Function.update_self, aoiPlace, Option.map_eq_none_iff] at hgone
      exact absurd ((congrFun (congrArg AoiWorld.entities haoi) i).trans hgone) hi
    · rw [hother i hie] at hi
      rcases h.only i hi with hplayer | hmonster
      · exact .inl (Finset.mem_erase.mpr ⟨hie, hplayer⟩)
      · exact .inr hmonster
  · intro w hw
    obtain ⟨hne, hw⟩ := Finset.mem_erase.mp hw
    obtain ⟨e, he, hrest⟩ := h.players w hw
    exact ⟨e, (hother w hne).trans he, hrest⟩
  · intro w hw
    obtain ⟨hne, hw⟩ := Finset.mem_erase.mp hw
    have hshows := (h.shows w hw).call h.wired (.removeEntity pid) trivial
      fun e => hne (Option.some.inj e).symm
    exact ⟨hshows.session, hshows.shown⟩

theorem Shown.setSession (h : fw.Shown cfg) (pid : EntityId) (online : Bool) :
    (fw.step cfg (.setSession pid online)).Shown cfg := by
  refine ⟨⟨h.wired.inv, h.wired.sendCb, h.wired.initialized, h.wired.sendFunc⟩, h.apart, h.only,
    h.players, ?_⟩
  intro w hw
  obtain ⟨hsession, hshown⟩ := h.shows w hw
  have hclient : client w (fw.step cfg (.setSession pid online)).log =
      if pid = w then { client w fw.log with online := false } else client w fw.log :=
    client_append w fw.log [.sessionChanged pid]
  by_cases hpid : pid = w
  · constructor
    · rw [hclient, if_pos hpid]
      exact nofun
    · rw [hclient, if_pos hpid]
      exact nofun
  · constructor
    · rw [hclient, if_neg hpid]
      exact fun ho => (Function.update_of_ne (Ne.symm hpid) _ _).trans (hsession ho)
    · rw [hclient, if_neg hpid]
      exact hshown

/-! ## A player enters -/

/-- `send_field_enter` would tell of `s` at `pos`. -/
def At (fw : FieldWorker K) (s : EntityId) (pos : Vec2 K) : Prop :=
  (s ∈ fw.players ∧ pos = (fw.player s).pos) ∨
    ∃ m ∈ fw.monsterWorld.monsters, m.id = s ∧ pos = ⟨m.transform.x, m.transform.y⟩

/-- From `fw₀` on nothing was done but to tell where somebody is. -/
def TellsPlaces (fw₀ fw : FieldWorker K) : Prop :=
  ∃ es, fw = fw₀.emit es ∧ ∀ e ∈ es, ∃ w et s pos name,
    e = Effect.send w (.fieldCmd .enter et s pos name) ∧ fw₀.At s pos

omit [Scalar K] in
theorem TellsPlaces.sendFieldEnter {fw₀ fw : FieldWorker K} (h : TellsPlaces fw₀ fw) (w : EntityId)
    {s : EntityId} (isMonster : Bool) {pos : Vec2 K} (hat : fw₀.At s pos) :
    TellsPlaces fw₀ (fw.sendFieldEnter w s isMonster pos) := by
  obtain ⟨es, rfl, hes⟩ := h
  unfold FieldWorker.sendFieldEnter
  rw [sendTo_eq, emit_emit]
  refine ⟨_, rfl, ?_⟩
  intro e he
  rcases List.mem_append.mp he with he | he
  · exact hes e he
  · split at he
    · obtain rfl := List.mem_singleton.mp he
      exact ⟨w, _, s, pos, _, rfl, hat⟩
    · cases he

/-- `on_player_enter_field` tells where everybody is. -/
theorem onPlayerEnterField_tells (cfg : FieldConfig K) {fw : FieldWorker K} {pid : EntityId}
    (hpid : pid ∈ fw.players) :
    TellsPlaces (fw.aoiAdd cfg pid true (fw.player pid).pos) (fw.onPlayerEnterField cfg pid) := by
  unfold onPlayerEnterField
  simp only
  generalize hfw₀ : fw.aoiAdd cfg pid true (fw.player pid).pos = fw₀
  have hat : ∀ s ∈ fw.players, fw₀.At s (fw.player s).pos := by
    subst hfw₀
    exact fun s hs => .inl ⟨hs, rfl⟩
  have hplayer : ∀ fw', TellsPlaces fw₀ fw' → fw'.player = fw.player ∧
      fw'.monsterWorld.monsters = fw₀.monsterWorld.monsters := by
    intro fw' h
    obtain ⟨es, h, -⟩ := h
    subst hfw₀
    rw [h]
    exact ⟨rfl, rfl⟩
  have hself : TellsPlaces fw₀ (fw₀.sendFieldEnter pid pid false (fw.player pid).pos) :=
    TellsPlaces.sendFieldEnter ⟨[], (emit_nil fw₀).symm, by simp⟩ pid false (hat pid hpid)
  generalize fw₀.sendFieldEnter pid pid false (fw.player pid).pos = fw₁ at hself ⊢
  have hothers : ∀ i ∈ (fw₁.playerIds cfg).filter fun otherId => otherId ≠ pid,
      i ∈ fw.players := by
    intro i hi
    obtain ⟨es, heq, -⟩ := hself
    have hmem := ((cfg.playerOrder _).mem_iff _ i).mp (List.mem_filter.mp hi).1
    subst hfw₀
    rw [heq] at hmem
    exact hmem
  generalize (fw₁.playerIds cfg).filter (fun otherId => otherId ≠ pid) = others at hothers ⊢
  have hplayers : TellsPlaces fw₀ (others.foldl (fun fw otherId =>
      fw.sendFieldEnter pid otherId false (fw.player otherId).pos) fw₁) := by
    refine List.foldlRecOn (motive := TellsPlaces fw₀) _ _ hself fun fw' h otherId hother => ?_
    refine h.sendFieldEnter pid false ?_
    rw [(hplayer fw' h).1]
    exact hat otherId (hothers otherId hother)
  generalize others.foldl (fun fw otherId =>
    fw.sendFieldEnter pid otherId false (fw.player otherId).pos) fw₁ = fw₂ at hplayers ⊢
  refine List.foldlRecOn (motive := TellsPlaces fw₀) _ _ ?_
    fun fw' h otherId _ => h.sendFieldEnter otherId false (hat pid hpid)
  refine List.foldlRecOn (motive := TellsPlaces fw₀) _ _ hplayers fun fw' h m hm => ?_
  rw [(hplayer fw₂ hplayers).2] at hm
  exact h.sendFieldEnter pid true (.inr ⟨m, hm, rfl, rfl⟩)

/-- The index has whom `send_field_enter` tells of, if at all, where it
tells. -/
def Located (fw : FieldWorker K) : Prop :=
  ∀ s pos e, fw.At s pos → fw.aoiSystem.aoi.entities s = some e → e.pos = pos

/-- Told where what is seen is, a client goes on showing what is seen. -/
theorem Shown.tells {fw₀ : FieldWorker K} (h : fw₀.Shown cfg) (hloc : fw₀.Located)
    (ht : TellsPlaces fw₀ fw) : fw.Shown cfg := by
  obtain ⟨es, rfl, hes⟩ := ht
  refine ⟨⟨h.wired.inv, h.wired.sendCb, h.wired.initialized, h.wired.sendFunc⟩, h.apart, h.only,
    h.players, fun w hw => ?_⟩
  obtain ⟨hsession, hshown⟩ := h.shows w hw
  have hcmd : ∀ e ∈ es, e.IsFieldCmd := by
    intro e he
    obtain ⟨w, et, s, pos, name, rfl, -⟩ := hes e he
    exact ⟨w, .enter, et, s, pos, name, rfl⟩
  have honline : (client w (fw₀.emit es).log).online = (client w fw₀.log).online :=
    (client_append_fieldCmd fw₀.log hcmd (Nat.succ_ne_self w)).1
  constructor
  · rw [honline]
    exact hsession
  · rw [honline]
    intro ho s hs pos hseen
    rw [emit_log, (client_append_fieldCmd fw₀.log hcmd hs).2, hshown ho s hs pos hseen]
    refine applyAll_insert_same ?_
    intro u hu
    obtain ⟨e, he, htold⟩ := List.mem_filterMap.mp hu
    obtain ⟨w', et, s', pos', name, rfl, hat⟩ := hes e he
    by_cases hws : w' = w ∧ s' = s
    · obtain ⟨rfl, rfl⟩ := hws
      simp only [and_self, if_true, Option.some.injEq] at htold
      subst htold
      -- what is seen is where the index has it
      obtain ⟨es, hent, hpos⟩ : ∃ es, fw₀.aoiSystem.aoi.entities s' = some es ∧ es.pos = pos :=
        entity_of_seen hseen
      rw [← hpos, hloc s' pos' es hat hent]
      rfl
    · simp [hws] at htold

theorem Shown.add (h : fw.Shown cfg) {pid : EntityId} (hplayer : pid ∉ fw.players)
    (hmonster : pid ∉ fw.monsterIds) (p : Player K) :
    ((fw.withPlayer pid p).aoiAdd cfg pid true p.pos).Shown cfg := by
  have hfresh : fw.aoiSystem.aoi.entities pid = none := by
    by_contra hsome
    rcases h.only pid hsome with hin | hin
    · exact hplayer hin
    · exact hmonster hin
  have hop : (FieldAoiOp.addEntity pid true p.pos).toAoi.Fresh fw.aoiSystem.aoi := hfresh
  obtain ⟨haoi, -⟩ := FieldAoiSystem.call_eq cfg.aoi fw.aoiSystem (.addEntity pid true p.pos)
  have hwired₀ : (fw.withPlayer pid p).Wired cfg :=
    ⟨h.wired.inv, h.wired.sendCb, h.wired.initialized, h.wired.sendFunc⟩
  have hother : ∀ i, i ≠ pid →
      ((fw.withPlayer pid p).aoiAdd cfg pid true p.pos).aoiSystem.aoi.entities i =
        fw.aoiSystem.aoi.entities i := fun i hi =>
    (congrFun (congrArg AoiWorld.entities haoi) i).trans
      (call_entities_other h.wired.inv (.addEntity pid true p.pos) hi)
  constructor
  · exact hwired₀.call (.addEntity pid true p.pos) (AoiWorld.call_inv h.wired.inv hop)
  · intro w hw
    rcases Finset.mem_insert.mp hw with rfl | hw
    · exact hmonster
    · exact h.apart w hw
  · intro i hi
    by_cases hie : i = pid
    · subst hie
      exact .inl (Finset.mem_insert_self _ _)
    · rw [hother i hie] at hi
      rcases h.only i hi with hin | hin
      · exact .inl (Finset.mem_insert_of_mem hin)
      · exact .inr hin
  · intro w hw
    by_cases hwp : w = pid
    · subst hwp
      obtain ⟨e, hent, hep, hpos, -⟩ :=
        AoiWorld.addEntity_entities cfg.aoi fw.aoiSystem.aoi w true p.pos
      refine ⟨e, ?_, hep, ?_⟩
      · rw [aoiAdd_aoi]
        exact (congrFun hent w).trans (Function.update_self _ _ _)
      · change e.pos = (Function.update fw.player w p w).pos
        rw [Function.update_self, hpos]
    · obtain ⟨e, he, hep, hpos⟩ := h.players w ((Finset.mem_insert.mp hw).resolve_left hwp)
      refine ⟨e, (hother w hwp).trans he, hep, ?_⟩
      change e.pos = (Function.update fw.player pid p w).pos
      rw [Function.update_of_ne hwp, hpos]
  · intro w hw
    by_cases hwp : w = pid
    · -- its stay begins, with an empty client
      subst hwp
      have hclient := client_withPlayer fw w p w
      rw [if_pos rfl] at hclient
      have honline : (client w ((fw.withPlayer w p).aoiAdd cfg w true p.pos).log).online =
          fw.sessions w :=
        (call_online (.addEntity w true p.pos) w).trans (by rw [hclient])
      constructor
      · rw [honline]
        exact fun ho => ho
      · rw [honline]
        intro ho s hs pos hseen
        have hd := AoiWorld.call_diff h.wired.inv h.wired.sendCb hop (Ne.symm hs)
        rw [if_pos (by rfl)] at hd
        have hshown := hwired₀.call_client (.addEntity w true p.pos) ho hs
        rw [hclient] at hshown
        refine hshown.trans (hd.result.trans ?_)
        rw [← haoi]
        exact hseen
    · have hw := (Finset.mem_insert.mp hw).resolve_left hwp
      have hclient := client_withPlayer fw pid p w
      rw [if_neg (Ne.symm hwp)] at hclient
      have hshows : (fw.withPlayer pid p).Shows cfg w := by
        obtain ⟨hsession, hshown⟩ := h.shows w hw
        rw [← hclient] at hsession hshown
        exact ⟨hsession, hshown⟩
      exact hshows.call hwired₀ (.addEntity pid true p.pos) hop
        fun e => hwp (Option.some.inj e).symm

/-! ## Monsters alive -/

/-- The index is the field, the monsters' lives are consistent with it, and
clients show what it says. -/
structure Peopled (cfg : FieldConfig K) (fw : FieldWorker K) : Prop extends fw.Shown cfg where
  life : fw.monsterWorld.AllConsistent (aoiPlace fw.aoiSystem.aoi)

omit [Scalar K] in
/-- Lives are consistent with what the index says of the monsters. -/
theorem life_congr {fw' : FieldWorker K}
    (h : fw.monsterWorld.AllConsistent (aoiPlace fw.aoiSystem.aoi))
    (hmonsters : fw'.monsterWorld = fw.monsterWorld)
    (hother : ∀ i ∈ fw.monsterIds,
      fw'.aoiSystem.aoi.entities i = fw.aoiSystem.aoi.entities i) :
    fw'.monsterWorld.AllConsistent (aoiPlace fw'.aoiSystem.aoi) := by
  rw [hmonsters]
  refine ⟨h.nodup, fun m hm => ?_⟩
  have hplace : aoiPlace fw'.aoiSystem.aoi m.id = aoiPlace fw.aoiSystem.aoi m.id := by
    unfold aoiPlace
    rw [hother m.id (List.mem_map_of_mem hm)]
  rw [hplace]
  exact h.life m hm

theorem Peopled.located (h : fw.Peopled cfg) : fw.Located := by
  intro s pos e hat he
  rcases hat with ⟨hs, rfl⟩ | ⟨m, hm, rfl, rfl⟩
  · obtain ⟨e', he', -, hpos⟩ := h.players s hs
    rw [Option.some.inj (he.symm.trans he'), hpos]
  · cases h.life.life m hm with
    | alive hp le place state pending =>
      obtain ⟨e', he', hpos⟩ := Option.map_eq_some_iff.mp place
      obtain rfl := Option.some.inj (he.symm.trans he')
      rw [← hpos]
    | dead hp max place state pending =>
      rw [Option.map_eq_none_iff.mp place] at he
      cases he

theorem Peopled.addPlayer (h : fw.Peopled cfg) {pid : EntityId} (hplayer : pid ∉ fw.players)
    (hmonster : pid ∉ fw.monsterIds) (p : Player K) : (fw.addPlayer cfg pid p).Peopled cfg := by
  have hadd := h.toShown.add hplayer hmonster p
  have hlife : ((fw.withPlayer pid p).aoiAdd cfg pid true p.pos).monsterWorld.AllConsistent
      (aoiPlace ((fw.withPlayer pid p).aoiAdd cfg pid true p.pos).aoiSystem.aoi) := by
    refine life_congr h.life rfl ?_
    intro i hi
    have hne : i ≠ pid := by
      rintro rfl
      exact hmonster hi
    rw [aoiAdd_aoi]
    exact call_entities_other h.wired.inv (.addEntity pid true p.pos) hne
  have hin : pid ∈ (fw.withPlayer pid p).players := Finset.mem_insert_self pid fw.players
  have htells := onPlayerEnterField_tells cfg hin
  have hself : (fw.withPlayer pid p).player pid = p := by
    change Function.update fw.player pid p pid = p
    rw [Function.update_self]
  rw [hself] at htells
  refine ⟨hadd.tells (Peopled.located ⟨hadd, hlife⟩) htells, ?_⟩
  obtain ⟨es, heq, -⟩ := htells
  change ((fw.withPlayer pid p).onPlayerEnterField cfg pid).monsterWorld.AllConsistent
    (aoiPlace ((fw.withPlayer pid p).onPlayerEnterField cfg pid).aoiSystem.aoi)
  rw [heq]
  exact hlife

theorem Peopled.removePlayer (h : fw.Peopled cfg) {pid : EntityId}
    (hmonster : pid ∉ fw.monsterIds) :
    (fw.removePlayer cfg pid).Peopled cfg := by
  refine ⟨h.toShown.removePlayer pid, life_congr h.life rfl ?_⟩
  intro i hi
  have hne : i ≠ pid := by
    rintro rfl
    exact hmonster hi
  change (fw.aoiRemove cfg pid).aoiSystem.aoi.entities i = _
  rw [aoiRemove_aoi]
  exact call_entities_other h.wired.inv (.removeEntity pid) hne

/-- A tick of a player moves nobody else in the index. -/
theorem tickPlayer_frame (cfg : FieldConfig K) (step : K) (fw : FieldWorker K)
    (hinv : fw.aoiSystem.aoi.Inv cfg.aoi) (pid : EntityId) :
    (fw.tickPlayer cfg step pid).monsterWorld = fw.monsterWorld ∧ ∀ i, i ≠ pid →
      (fw.tickPlayer cfg step pid).aoiSystem.aoi.entities i = fw.aoiSystem.aoi.entities i := by
  have hmark : ∀ (fw' : FieldWorker K) source,
      (((fw'.writePlayerRtEnqueue pid).markDirty source pid).setLastDirtyMarkTime
        pid).monsterWorld = fw'.monsterWorld ∧
      (((fw'.writePlayerRtEnqueue pid).markDirty source pid).setLastDirtyMarkTime
        pid).aoiSystem = fw'.aoiSystem := by
    intro fw' source
    unfold writePlayerRtEnqueue
    split
    · exact ⟨rfl, rfl⟩
    · exact ⟨rfl, rfl⟩
  have hmoved : ∀ p pos, ((fw.setPlayer pid p).aoiMove cfg pid pos).monsterWorld = fw.monsterWorld ∧
      ∀ i, i ≠ pid → ((fw.setPlayer pid p).aoiMove cfg pid pos).aoiSystem.aoi.entities i =
        fw.aoiSystem.aoi.entities i := by
    intro p pos
    refine ⟨rfl, fun i hi => ?_⟩
    rw [aoiMove_aoi]
    exact call_entities_other hinv (.moveEntity pid pos) hi
  unfold tickPlayer
  simp only
  split
  · unfold markDirtyState
    rw [(hmark _ .state).1, (hmark _ .state).2, broadcastPlayerState, broadcastAiState,
      broadcast_eq]
    exact ⟨rfl, fun _ _ => rfl⟩
  · split
    · exact ⟨rfl, fun _ _ => rfl⟩
    · unfold markDirtyPosIfNeeded
      simp only
      split
      · exact hmoved _ _
      · split
        · exact hmoved _ _
        · rw [(hmark _ .pos).1, (hmark _ .pos).2]
          exact hmoved _ _

theorem Peopled.tickPlayer (h : fw.Peopled cfg) (step : K) {pid : EntityId}
    (hpid : pid ∈ fw.players) :
    (fw.tickPlayer cfg step pid).Peopled cfg := by
  obtain ⟨hmonsters, hother⟩ := tickPlayer_frame cfg step fw h.wired.inv pid
  refine ⟨h.toShown.tickPlayer step hpid, life_congr h.life hmonsters fun i hi => ?_⟩
  refine hother i ?_
  rintro rfl
  exact h.apart i hpid hi

theorem Peopled.tickPlayers (h : fw.Peopled cfg) (step : K) :
    (fw.tickPlayers cfg step).Peopled cfg := by
  have hids : ∀ pid ∈ fw.playerIds cfg, pid ∈ fw.players :=
    fun pid => ((cfg.playerOrder fw.playersChanges).mem_iff fw.players pid).mp
  unfold FieldWorker.tickPlayers
  generalize fw.playerIds cfg = l at hids
  induction l generalizing fw with
  | nil => exact h
  | cons pid l ih =>
    rw [List.forall_mem_cons] at hids
    refine ih (h.tickPlayer step hids.1) ?_
    rw [tickPlayer_players]
    exact hids.2

theorem Peopled.tickMonsters (h : fw.Peopled cfg) (policy : List K → Fin 5 → K) (step : K) :
    (fw.tickMonsters cfg policy step).Peopled cfg := by
  refine ⟨h.toShown.tickMonsters policy step, ?_⟩
  exact (MonsterWorld.update_allConsistent (env_places cfg) policy step h.wired.inv h.life).2

theorem Peopled.updateWorld (h : fw.Peopled cfg) (policy : List K → Fin 5 → K) (dt : K) :
    (fw.updateWorld cfg policy dt).Peopled cfg := by
  refine updateWorld_keeps policy ?_ (fun _ h => h.tickPlayers playerStep)
    (fun _ h => h.tickMonsters policy monsterStep) dt h
  exact fun _ _ _ _ h =>
    ⟨h.toShown.of_eq rfl rfl rfl rfl (fun _ => rfl) fun _ => rfl, h.life⟩

/-- A move command changes neither the monsters nor the index. -/
theorem onClientMoveInput_frame (fw : FieldWorker K) (session : Option EntityId)
    (entityId : EntityId) (dir : Option (Vec2 K)) :
    (fw.onClientMoveInput session entityId dir).monsterWorld = fw.monsterWorld ∧
      (fw.onClientMoveInput session entityId dir).aoiSystem = fw.aoiSystem := by
  unfold onClientMoveInput broadcastPlayerState broadcastAiState
  simp only [broadcast_eq]
  split
  · exact ⟨rfl, rfl⟩
  · split
    · exact ⟨rfl, rfl⟩
    · cases dir with
      | none => exact ⟨rfl, rfl⟩
      | some d =>
        simp only
        split
        · split
          · exact ⟨rfl, rfl⟩
          · exact ⟨rfl, rfl⟩
        · split
          · exact ⟨rfl, rfl⟩
          · exact ⟨rfl, rfl⟩

theorem Peopled.onClientMoveInput (h : fw.Peopled cfg) (session : Option EntityId)
    (entityId : EntityId) (dir : Option (Vec2 K)) :
    (fw.onClientMoveInput session entityId dir).Peopled cfg := by
  obtain ⟨hmonsters, haoi⟩ := onClientMoveInput_frame fw session entityId dir
  refine ⟨h.toShown.onClientMoveInput session entityId dir, life_congr h.life hmonsters ?_⟩
  rw [haoi]
  exact fun _ _ => rfl

theorem Peopled.handleSkill (h : fw.Peopled cfg) (session : Option EntityId)
    (targetId : EntityId) : (fw.handleSkill cfg session targetId).Peopled cfg := by
  refine ⟨h.toShown.handleSkill session targetId, ?_⟩
  cases session with
  | none => exact h.life
  | some pid =>
    have hcast : ∀ (fw' : FieldWorker K) id packet, fw'.monsterWorld.AllConsistent
        (aoiPlace fw'.aoiSystem.aoi) → (fw'.broadcast id packet).monsterWorld.AllConsistent
          (aoiPlace (fw'.broadcast id packet).aoiSystem.aoi) := by
      intro fw' id packet hlife
      rw [broadcast_eq]
      exact hlife
    have hb := h.toShown.broadcastPlayerState pid .attack
    obtain ⟨hattack, -⟩ := MonsterWorld.playerAttackMonster_allConsistent (env_places cfg) targetId
      hb.wired.inv (hcast fw pid _ h.life)
    unfold FieldWorker.handleSkill
    simp only
    split
    · exact hcast _ _ _ hattack
    · exact hattack

end FieldWorker

/-! ## Runs -/

section

variable [Scalar K]

/-- Nobody is added who is in the field already. -/
def FieldAction.FromOutside (fw : FieldWorker K) : FieldAction K → Prop
  | .addPlayer pid _ => pid ∉ fw.players
  | _ => True

/-- A field worker whose monsters are made with some hp and whose players
are added from outside. -/
def peopledFieldSystem (cfg : FieldConfig K) (redisRtWriter : Bool) :
    System (FieldWorker K) (FieldAction K) where
  init fw := ∃ player spawns, (spawns.map FieldWorker.MonsterSpawn.id).Nodup ∧
    (∀ sp ∈ spawns, 0 < sp.hp ∧ sp.hp ≤ sp.maxHp) ∧
    fw = FieldWorker.construct cfg player redisRtWriter spawns
  step fw a fw' := a.FromOutside fw ∧ a.Sane fw ∧ fw' = fw.step cfg a

namespace FieldWorker

variable {cfg : FieldConfig K} {fw : FieldWorker K}

theorem Peopled.step (h : fw.Peopled cfg) {a : FieldAction K} (hout : a.FromOutside fw)
    (hsane : a.Sane fw) : (fw.step cfg a).Peopled cfg := by
  cases a with
  | addPlayer pid p => exact h.addPlayer hout hsane p
  | removePlayer pid => exact h.removePlayer hsane
  | moveInput session entityId dir => exact h.onClientMoveInput session entityId dir
  | skill session targetId => exact h.handleSkill session targetId
  | updateWorld policy dt => exact h.updateWorld policy dt
  | setSession pid online => exact ⟨h.toShown.setSession pid online, h.life⟩
  | setRegistered pid registered =>
    exact ⟨h.toShown.of_eq rfl rfl rfl rfl (fun _ => rfl) fun _ => rfl, h.life⟩

theorem run_peopled {redisRtWriter : Bool} {l : List (FieldWorker K × FieldAction K)}
    (r : Run (peopledFieldSystem cfg redisRtWriter) l fw) : fw.Peopled cfg := by
  refine r.invariant ?_ ?_
  · rintro fw ⟨player, spawns, hnd, hhp, rfl⟩
    obtain ⟨-, hplayers, -⟩ := construct_start cfg player redisRtWriter spawns
    have h := construct_populated cfg player redisRtWriter hnd hhp
    refine ⟨⟨⟨h.inv, h.sendCb, rfl, h.sendFunc⟩, by simp [hplayers], ?_, by simp [hplayers],
      by simp [hplayers]⟩, h.consistent⟩
    intro i hi
    refine .inr (h.only i ?_)
    simpa [aoiPlace] using hi
  · rintro fw a fw' h ⟨hout, hsane, rfl⟩
    exact h.step hout hsane

/-- A player or a living monster, and where it stands. -/
def Present (fw : FieldWorker K) (id : EntityId) (pos : Vec2 K) : Prop :=
  (id ∈ fw.players ∧ pos = (fw.player id).pos) ∨
    ∃ m ∈ fw.monsterWorld.monsters, m.id = id ∧ 0 < m.stats.hp ∧
      pos = ⟨m.transform.x, m.transform.y⟩

theorem Peopled.present_iff (h : fw.Peopled cfg) (id : EntityId) (pos : Vec2 K) :
    (∃ e, fw.aoiSystem.aoi.entities id = some e ∧ e.pos = pos) ↔ fw.Present id pos := by
  constructor
  · rintro ⟨e, he, rfl⟩
    rcases h.only id (by simp [he]) with hplayer | hmonster
    · obtain ⟨e', he', -, hpos⟩ := h.players id hplayer
      exact .inl ⟨hplayer, Option.some.inj (he.symm.trans he') ▸ hpos⟩
    · obtain ⟨m, hm, rfl⟩ := List.mem_map.mp hmonster
      cases h.life.life m hm with
      | alive hp le place state pending =>
        exact .inr ⟨m, hm, rfl, hp, h.located m.id _ e (.inr ⟨m, hm, rfl, rfl⟩) he⟩
      | dead hp max place state pending =>
        rw [Option.map_eq_none_iff.mp place] at he
        cases he
  · rintro (⟨hplayer, rfl⟩ | ⟨m, hm, rfl, hp, rfl⟩)
    · obtain ⟨e, he, -, hpos⟩ := h.players id hplayer
      exact ⟨e, he, hpos⟩
    · cases h.life.life m hm with
      | alive hp le place state pending =>
        obtain ⟨e, he, hpos⟩ := Option.map_eq_some_iff.mp place
        exact ⟨e, he, by rw [← hpos]⟩
      | dead hp' max place state pending => omega

/-- **The index is the field**: it has the players and the living monsters,
each where it stands, and nobody else. -/
theorem index_is_the_field {redisRtWriter : Bool} {l : List (FieldWorker K × FieldAction K)}
    (r : Run (peopledFieldSystem cfg redisRtWriter) l fw) (id : EntityId) (pos : Vec2 K) :
    (∃ e, fw.aoiSystem.aoi.entities id = some e ∧ e.pos = pos) ↔ fw.Present id pos :=
  (run_peopled r).present_iff id pos

end FieldWorker

end

/-! ## Near -/

section

variable [ExactScalar K] [FloorRing K] {cfg : FieldConfig K}

theorem worldToSector_field (hfloor : ∀ q, cfg.floor q = ⌊q⌋) (pos : Vec2 K) :
    cfg.aoi.worldToSector pos = ⟨cell 15 (max pos.x 0), cell 15 (max pos.y 0)⟩ := by
  have hlit : (lit 15 : K) = 15 := by
    change ((15 : ℚ) : K) = 15
    norm_num
  have hS : (0 : K) < 15 := by norm_num
  simp only [AoiConfig.worldToSector, FieldConfig.aoi, hfloor, hlit]
  rw [← clamp_cell hS, ← clamp_cell hS]
  rfl

/-- From two sectors away or less one is in view. -/
theorem near_in_viewWindow (hfloor : ∀ q, cfg.floor q = ⌊q⌋) {pos pos' : Vec2 K}
    (hx : |pos'.x - pos.x| ≤ 30) (hy : |pos'.y - pos.y| ≤ 30) :
    cfg.aoi.worldToSector pos' ∈ cfg.aoi.viewWindow (cfg.aoi.worldToSector pos) := by
  have hS : (0 : K) < 15 := by norm_num
  have near : ∀ a b : K, |a - b| ≤ 30 → |cell 15 (max a 0) - cell 15 (max b 0)| ≤ 2 := by
    intro a b hab
    refine abs_cell_sub_le hS ((abs_max_sub_max_le_abs a b 0).trans (hab.trans ?_))
    norm_num
  have hnn := cfg.aoi.worldToSector_nonneg pos'
  rw [AoiConfig.mem_viewWindow]
  refine ⟨hnn.1, hnn.2, ?_⟩
  rw [worldToSector_field hfloor, worldToSector_field hfloor]
  exact ⟨near _ _ hx, near _ _ hy⟩

namespace FieldWorker

variable {fw : FieldWorker K}

/-- **Nothing near is missed.** However players enter, move and leave and
monsters wander, die and respawn: a client that has been at its session
since its player was added shows every other player and every living
monster within 30 of its player on both axes, where it stands. -/
theorem near_is_shown (hfloor : ∀ q, cfg.floor q = ⌊q⌋) {redisRtWriter : Bool}
    {l : List (FieldWorker K × FieldAction K)}
    (r : Run (peopledFieldSystem cfg redisRtWriter) l fw) {w : EntityId} (hw : w ∈ fw.players)
    (honline : (client w fw.log).online = true) {s : EntityId} {pos : Vec2 K} (hs : s ≠ w)
    (hpresent : fw.Present s pos) (hx : |pos.x - (fw.player w).pos.x| ≤ 30)
    (hy : |pos.y - (fw.player w).pos.y| ≤ 30) : (client w fw.log).shown s = some pos := by
  have h := run_peopled r
  obtain ⟨es, hes, rfl⟩ := (h.present_iff s pos).mpr hpresent
  obtain ⟨ew, hew, hplayer, hpos⟩ := h.players w hw
  refine (h.shows w hw).shown honline s hs es.pos ?_
  rw [← hpos] at hx hy
  have hview := near_in_viewWindow hfloor hx hy
  rw [← h.wired.inv.sectorOk s es hes, ← h.wired.inv.sectorOk w ew hew] at hview
  simp [AoiWorld.seen, Ne.symm hs, hew, hes, hplayer, hview]

end FieldWorker

end

/-- Player 1 has entered thirty from the archer on both axes. -/
theorem run_nearArcher : ∃ l fw, Run (peopledFieldSystem sortedConfig true) l fw ∧
    1 ∈ fw.players ∧ (client 1 fw.log).online = true ∧ (fw.player 1).pos = ⟨60, 0⟩ ∧
    fw.Present 1000 ⟨30, 30⟩ := by
  have r : Run (peopledFieldSystem sortedConfig true) []
      (FieldWorker.construct sortedConfig (fun _ => newPlayer 0 0) true [weakArcher]) :=
    .start ⟨_, [weakArcher], by decide, by decide, rfl⟩
  have r := (r.next (.setSession 1 true) ⟨trivial, trivial, rfl⟩).next
    (.addPlayer 1 (newPlayer 60 0)) ⟨Finset.notMem_empty 1, by decide, rfl⟩
  refine ⟨_, _, r, by decide +kernel, by decide +kernel, by decide +kernel, ?_⟩
  exact .inr ⟨_, List.mem_singleton_self _, rfl, by decide +kernel, rfl⟩

theorem index_has_archer : ∃ l fw, Run (peopledFieldSystem sortedConfig true) l fw ∧
    ∃ e, fw.aoiSystem.aoi.entities 1000 = some e ∧ e.pos = ⟨30, 30⟩ := by
  obtain ⟨l, fw, r, -, -, -, harcher⟩ := run_nearArcher
  exact ⟨l, fw, r, (FieldWorker.index_is_the_field r 1000 ⟨30, 30⟩).mpr harcher⟩

theorem near_is_shown_archer : ∃ l fw, Run (peopledFieldSystem sortedConfig true) l fw ∧
    1 ∈ fw.players ∧ (client 1 fw.log).shown 1000 = some ⟨30, 30⟩ := by
  obtain ⟨l, fw, r, hin, honline, hpos, harcher⟩ := run_nearArcher
  refine ⟨l, fw, r, hin, FieldWorker.near_is_shown (fun _ => rfl) r hin honline (by decide)
    harcher ?_ ?_⟩
  · rw [hpos]
    norm_num
  · rw [hpos]
    norm_num

end MmorpgServer.Worker
