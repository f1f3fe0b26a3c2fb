/-
MmorpgServer.Worker.ClientViewTheorems — what a client shows and what the
index says its player sees.

A client folds the `FieldCmd` messages sent to its session: `client`. Two
places send them. The callback of the index reports every change of what
a player sees, and on its own keeps the two equal. But
`on_player_enter_field` also tells a new player of everyone in `players_`
and of everything in `monsterWorld_.monsters`, and everyone of the new
player (`Introduced`), wherever they stand, alive or dead; and the index,
which never let the one see the other, never takes it back.

`ViewInv` is the invariant as long as players enter where everything they
are told of is in view.
-/
import MmorpgServer.Worker.DirtyTheorems

namespace MmorpgServer.Worker

open MmorpgServer.Lib MmorpgServer.Field MmorpgServer.Storage Scalar

variable {K : Type}

/-! ## Clients -/

/-- What a client does with a `FieldCmd`. -/
def FieldCmdType.update (type : FieldCmdType) (pos : Vec2 K) : Update (Vec2 K) :=
  match type with
  | .enter => .insert pos
  | .move => .overwrite pos
  | .leave => .delete

theorem toFieldCmdType_update (ev : AoiEvent (Vec2 K)) :
    (toFieldCmdType ev.type).update ev.position = ev.update := by
  obtain ⟨type, subjectId, position⟩ := ev
  cases type <;> rfl

/-- What a client shows, and whether it has been at its session since its
player was added. -/
structure Client (K : Type) where
  online : Bool := false
  shown : EntityId → Option (Vec2 K) := fun _ => none

/-- The client of player `w` takes an entry of the log. -/
def Client.take (w : EntityId) (c : Client K) : Effect K → Client K
  | .playerAdded pid online => if pid = w then { online } else c
  | .sessionChanged pid => if pid = w then { c with online := false } else c
  | .send pid (.fieldCmd type _ s pos _) =>
    if pid = w ∧ s ≠ w then
      { c with shown := Function.update c.shown s ((type.update pos).apply (c.shown s)) }
    else c
  | _ => c

def client (w : EntityId) (log : List (Effect K)) : Client K := log.foldl (Client.take w) {}

theorem client_append (w : EntityId) (log es : List (Effect K)) :
    client w (log ++ es) = es.foldl (Client.take w) (client w log) := List.foldl_append

/-- Nothing a client takes notice of. -/
def Effect.quiet : Effect K → Bool
  | .send _ (.fieldCmd _ _ _ _ _) => false
  | .playerAdded _ _ => false
  | .sessionChanged _ => false
  | _ => true

theorem client_append_quiet (w : EntityId) (log : List (Effect K)) {es : List (Effect K)}
    (hes : ∀ e ∈ es, e.quiet = true) : client w (log ++ es) = client w log := by
  rw [client_append]
  generalize client w log = c
  induction es with
  | nil => rfl
  | cons e es ih =>
    rw [List.forall_mem_cons] at hes
    have he : c.take w e = c := by
      cases e with
      | send pid packet =>
        cases packet with
        | fieldCmd type et s pos name => cases hes.1
        | combatEvent | aiStateEvent | statEvent => rfl
      | playerAdded pid online => cases hes.1
      | sessionChanged pid => cases hes.1
      | redisRtWrite | markDirty => rfl
    rw [List.foldl_cons, he, ih hes.2]

/-- What player `w` is told about `s`. -/
def told (w s : EntityId) (es : List (Effect K)) : List (Update (Vec2 K)) :=
  es.filterMap fun
    | .send pid (.fieldCmd type _ i pos _) =>
      if pid = w ∧ i = s then some (type.update pos) else none
    | _ => none

theorem told_append (w s : EntityId) (es es' : List (Effect K)) :
    told w s (es ++ es') = told w s es ++ told w s es' := List.filterMap_append

theorem told_fieldCmd (w s pid : EntityId) (type : FieldCmdType) (et : EntityType) (i : EntityId)
    (pos : Vec2 K) (name : String) : told w s [.send pid (.fieldCmd type et i pos name)] =
      if pid = w ∧ i = s then [type.update pos] else [] := by
  by_cases h : pid = w ∧ i = s <;> simp [told, h]

theorem take_fieldCmd (c : Client K) {w s : EntityId} (hs : s ≠ w) (pid : EntityId)
    (type : FieldCmdType) (et : EntityType) (i : EntityId) (pos : Vec2 K) (name : String) :
    (c.take w (.send pid (.fieldCmd type et i pos name))).online = c.online ∧
    (c.take w (.send pid (.fieldCmd type et i pos name))).shown s =
      Update.applyAll (told w s [.send pid (.fieldCmd type et i pos name)]) (c.shown s) := by
  rw [told_fieldCmd, show c.take w (.send pid (.fieldCmd type et i pos name)) = if pid = w ∧ i ≠ w
    then { c with shown := Function.update c.shown i ((type.update pos).apply (c.shown i)) }
    else c from rfl]
  by_cases hpid : pid = w ∧ i ≠ w
  · rw [if_pos hpid]
    refine ⟨rfl, ?_⟩
    by_cases hi : i = s
    · subst hi
      rw [if_pos ⟨hpid.1, rfl⟩, Update.applyAll_cons, Update.applyAll_nil]
      exact Function.update_self _ _ _
    · rw [if_neg fun h => hi h.2, Update.applyAll_nil]
      exact Function.update_of_ne (Ne.symm hi) _ _
  · rw [if_neg hpid, if_neg fun h => hpid ⟨h.1, fun hi => hs (h.2.symm.trans hi)⟩]
    exact ⟨rfl, rfl⟩

/-- A `FieldCmd` for some player. -/
def Effect.IsFieldCmd (e : Effect K) : Prop :=
  ∃ pid type et s pos name, e = .send pid (.fieldCmd type et s pos name)

/-- What a client shows of a subject is what it is told about it, applied. -/
theorem client_append_fieldCmd (log : List (Effect K)) {es : List (Effect K)}
    (hes : ∀ e ∈ es, e.IsFieldCmd) {w s : EntityId} (hs : s ≠ w) :
    (client w (log ++ es)).online = (client w log).online ∧
    (client w (log ++ es)).shown s =
      Update.applyAll (told w s es) ((client w log).shown s) := by
  rw [client_append]
  generalize client w log = c
  induction es generalizing c with
  | nil => exact ⟨rfl, rfl⟩
  | cons e es ih =>
    rw [List.forall_mem_cons] at hes
    obtain ⟨⟨pid, type, et, i, pos, name, rfl⟩, hes⟩ := hes
    obtain ⟨honline, hshown⟩ := ih hes (c.take w (.send pid (.fieldCmd type et i pos name)))
    obtain ⟨honline', hshown'⟩ := take_fieldCmd c hs pid type et i pos name
    refine ⟨honline.trans honline', ?_⟩
    rw [List.foldl_cons, hshown, hshown', ← Update.applyAll_append, ← told_append,
      List.singleton_append]

/-- Everything sent is an Enter. -/
def OnlyEnter (es : List (Effect K)) : Prop :=
  ∀ e ∈ es, ∃ pid et s pos name, e = Effect.send pid (.fieldCmd .enter et s pos name)

/-- `w` is sent an Enter about `s`. -/
def EnterSent (es : List (Effect K)) (w s : EntityId) : Prop :=
  ∃ et pos name, Effect.send w (.fieldCmd .enter et s pos name) ∈ es

theorem OnlyEnter.append {es es' : List (Effect K)} (h : OnlyEnter es) (h' : OnlyEnter es') :
    OnlyEnter (es ++ es') := fun e he => (List.mem_append.mp he).elim (h e) (h' e)

theorem enterSent_append {es es' : List (Effect K)} {w s : EntityId} :
    EnterSent (es ++ es') w s ↔ EnterSent es w s ∨ EnterSent es' w s := by
  simp only [EnterSent, List.mem_append, exists_or]

/-- Sent nothing but Enter, a client shows what it showed and what it is
sent an Enter about. -/
theorem client_append_enter (log : List (Effect K)) {es : List (Effect K)} (hes : OnlyEnter es)
    {w s : EntityId} (hs : s ≠ w) :
    (client w (log ++ es)).online = (client w log).online ∧
    (((client w (log ++ es)).shown s).isSome = true ↔
      ((client w log).shown s).isSome = true ∨ EnterSent es w s) := by
  have hcmd : ∀ e ∈ es, e.IsFieldCmd := fun e he => by
    obtain ⟨pid, et, i, pos, name, rfl⟩ := hes e he
    exact ⟨pid, .enter, et, i, pos, name, rfl⟩
  obtain ⟨honline, hshown⟩ := client_append_fieldCmd log hcmd hs
  refine ⟨honline, ?_⟩
  rw [hshown, Update.applyAll_insert_isSome]
  · refine or_congr Iff.rfl ?_
    constructor
    · intro hne
      obtain ⟨u, hu⟩ := List.exists_mem_of_ne_nil _ hne
      obtain ⟨e, he, hsome⟩ := List.mem_filterMap.mp hu
      obtain ⟨pid, et, i, pos, name, rfl⟩ := hes e he
      by_cases hpi : pid = w ∧ i = s
      · obtain ⟨rfl, rfl⟩ := hpi
        exact ⟨et, pos, name, he⟩
      · simp [hpi] at hsome
    · rintro ⟨et, pos, name, he⟩
      exact List.ne_nil_of_mem (List.mem_filterMap.mpr ⟨_, he, if_pos ⟨rfl, rfl⟩⟩)
  · intro u hu
    obtain ⟨e, he, hsome⟩ := List.mem_filterMap.mp hu
    obtain ⟨pid, et, i, pos, name, rfl⟩ := hes e he
    by_cases hpi : pid = w ∧ i = s
    · exact ⟨pos, by simpa [hpi, FieldCmdType.update] using hsome.symm⟩
    · simp [hpi] at hsome

/-- What the callback of the index tells a player with a session is what
the index delivers to it. -/
theorem told_aoiSend (fw : FieldWorker K) {w s : EntityId} (hw : fw.sessions w = true)
    (hs : s ≠ w) (L : List (Delivery (Vec2 K))) :
    told w s (L.flatMap fw.aoiSend) = heard w s L := by
  have hone : ∀ d, told w s (fw.aoiSend d) = heard w s [d] := by
    intro d
    rw [heard_singleton (Ne.symm hs), FieldWorker.aoiSend]
    by_cases hd : fw.sessions d.watcherId = true
    · rw [if_pos hd, FieldWorker.fieldCmd, told_fieldCmd, toFieldCmdType_update]
    · have hne : d.watcherId ≠ w := fun h => hd (h ▸ hw)
      rw [if_neg hd, if_neg fun h => hne h.1]
      rfl
  induction L with
  | nil => rfl
  | cons d L ih =>
    rw [List.flatMap_cons, told_append, hone, ih, ← heard_append, List.singleton_append]

theorem aoiSend_isFieldCmd (fw : FieldWorker K) (L : List (Delivery (Vec2 K))) :
    ∀ e ∈ L.flatMap fw.aoiSend, e.IsFieldCmd := by
  intro e he
  obtain ⟨d, -, he⟩ := List.mem_flatMap.mp he
  unfold FieldWorker.aoiSend at he
  split at he
  · obtain rfl := List.mem_singleton.mp he
    exact ⟨_, _, _, _, _, _, rfl⟩
  · cases he

/-! ## The index and its clients -/

variable [Scalar K]

namespace FieldWorker

/-- Every client that has been at its session since its player was added
shows exactly what is registered in the player's view window. -/
def ClientsShowView (cfg : FieldConfig K) (fw : FieldWorker K) : Prop :=
  ∀ w ∈ fw.players, (client w fw.log).online = true → ∀ s, s ≠ w →
    (((client w fw.log).shown s).isSome = true ↔ Watches cfg.aoi fw.aoiSystem.aoi w s)

/-- `s` is registered and would be in view from `pos`. -/
def InView (cfg : FieldConfig K) (fw : FieldWorker K) (pos : Vec2 K) (s : EntityId) : Prop :=
  ∃ e, fw.aoiSystem.aoi.entities s = some e ∧
    e.sector ∈ cfg.aoi.viewWindow (cfg.aoi.worldToSector pos)

instance (cfg : FieldConfig K) (fw : FieldWorker K) (pos : Vec2 K) (s : EntityId) :
    Decidable (fw.InView cfg pos s) :=
  match h : fw.aoiSystem.aoi.entities s with
  | none => isFalse fun ⟨_, he, _⟩ => nomatch h.symm.trans he
  | some e => decidable_of_iff (e.sector ∈ cfg.aoi.viewWindow (cfg.aoi.worldToSector pos))
      ⟨fun hin => ⟨e, h, hin⟩, fun ⟨_, he', hin⟩ => Option.some.inj (h.symm.trans he') ▸ hin⟩

/-- The index is consistent and hands its events on. -/
structure Wired (cfg : FieldConfig K) (fw : FieldWorker K) : Prop where
  inv : fw.aoiSystem.aoi.Inv cfg.aoi
  sendCb : fw.aoiSystem.aoi.sendCb = true
  initialized : fw.aoiSystem.initialized = true
  sendFunc : fw.aoiSystem.sendFunc = true

/-- A player is registered and its client shows what it sees. -/
structure Tracked (cfg : FieldConfig K) (fw : FieldWorker K) (w : EntityId) : Prop where
  registered : ∃ e, fw.aoiSystem.aoi.entities w = some e ∧ e.isPlayer = true
  session : (client w fw.log).online = true → fw.sessions w = true
  shown : (client w fw.log).online = true → ∀ s, s ≠ w →
    ((client w fw.log).shown s).isSome = (fw.aoiSystem.aoi.seen cfg.aoi w s).isSome

/-- The invariant. -/
structure ViewInv (cfg : FieldConfig K) (fw : FieldWorker K) : Prop where
  wired : fw.Wired cfg
  apart : ∀ w ∈ fw.players, w ∉ fw.monsterIds
  tracked : ∀ w ∈ fw.players, fw.Tracked cfg w

theorem ViewInv.clientsShowView {cfg : FieldConfig K} {fw : FieldWorker K} (h : fw.ViewInv cfg) :
    fw.ClientsShowView cfg := by
  intro w hw honline s hs
  rw [watches_iff, (h.tracked w hw).shown honline s hs]

variable {cfg : FieldConfig K} {fw : FieldWorker K}

/-! ## Calls of the index -/

theorem Wired.call (h : fw.Wired cfg) (op : FieldAoiOp (Vec2 K))
    (hinv : (fw.aoiSystem.aoi.call cfg.aoi op.toAoi).1.Inv cfg.aoi) :
    (fw.aoiCall (fw.aoiSystem.call cfg.aoi op)).Wired cfg := by
  obtain ⟨haoi, -⟩ := FieldAoiSystem.call_eq cfg.aoi fw.aoiSystem op
  obtain ⟨hinit, hsend⟩ := FieldAoiSystem.call_flags cfg.aoi fw.aoiSystem op
  refine ⟨?_, ?_, hinit.trans h.initialized, hsend.trans h.sendFunc⟩
  · rw [aoiCall_aoiSystem, haoi]
    exact hinv
  · rw [aoiCall_aoiSystem, haoi, AoiWorld.call_sendCb]
    exact h.sendCb

/-- After a call a client shows what it makes of what its player hears. -/
theorem Wired.call_client (h : fw.Wired cfg) (op : FieldAoiOp (Vec2 K)) {w s : EntityId}
    (hw : fw.sessions w = true) (hs : s ≠ w) :
    (client w (fw.aoiCall (fw.aoiSystem.call cfg.aoi op)).log).shown s =
      Update.applyAll (heard w s (fw.aoiSystem.aoi.call cfg.aoi op.toAoi).2)
        ((client w fw.log).shown s) := by
  have hsnd : (fw.aoiSystem.call cfg.aoi op).2 = (fw.aoiSystem.aoi.call cfg.aoi op.toAoi).2 := by
    rw [FieldAoiSystem.call_snd, h.initialized, h.sendFunc]
    rfl
  rw [← hsnd, ← told_aoiSend fw hw hs]
  exact (client_append_fieldCmd fw.log (aoiSend_isFieldCmd fw _) hs).2

theorem call_online (op : FieldAoiOp (Vec2 K)) (w : EntityId) :
    (client w (fw.aoiCall (fw.aoiSystem.call cfg.aoi op)).log).online =
      (client w fw.log).online :=
  (client_append_fieldCmd fw.log (aoiSend_isFieldCmd fw _) (Nat.succ_ne_self w)).1

/-- What is shown stays what is seen, if what is heard of the change of
what is seen ends in it. -/
theorem Tracked.call (h : fw.Wired cfg) {w : EntityId} (ht : fw.Tracked cfg w)
    (op : FieldAoiOp (Vec2 K))
    (hreg : ∃ e, (fw.aoiSystem.aoi.call cfg.aoi op.toAoi).1.entities w = some e ∧
      e.isPlayer = true)
    (hheard : ∀ s, s ≠ w → Update.applyAll (heard w s (fw.aoiSystem.aoi.call cfg.aoi op.toAoi).2)
      (fw.aoiSystem.aoi.seen cfg.aoi w s) =
        (fw.aoiSystem.aoi.call cfg.aoi op.toAoi).1.seen cfg.aoi w s) :
    (fw.aoiCall (fw.aoiSystem.call cfg.aoi op)).Tracked cfg w := by
  obtain ⟨haoi, -⟩ := FieldAoiSystem.call_eq cfg.aoi fw.aoiSystem op
  refine ⟨?_, ?_, ?_⟩
  · rw [aoiCall_aoiSystem, haoi]
    exact hreg
  · rw [call_online]
    exact ht.session
  · rw [call_online]
    intro honline s hs
    rw [h.call_client op (ht.session honline) hs, aoiCall_aoiSystem, haoi, ← hheard s hs]
    exact Update.applyAll_isSome_congr _ (ht.shown honline s hs)

/-- Calls about others, and moves. -/
theorem Tracked.call_fresh (h : fw.Wired cfg) {w : EntityId} (ht : fw.Tracked cfg w)
    (op : FieldAoiOp (Vec2 K)) (hop : op.toAoi.Fresh fw.aoiSystem.aoi)
    (hw : op.toAoi.session ≠ some w) :
    (fw.aoiCall (fw.aoiSystem.call cfg.aoi op)).Tracked cfg w := by
  refine ht.call h op (AoiWorld.call_registered h.inv _ hw ht.registered) fun s hs => ?_
  have hd := AoiWorld.call_diff h.inv h.sendCb hop (Ne.symm hs)
  rw [if_neg hw] at hd
  exact hd.result

theorem ViewInv.call (h : fw.ViewInv cfg) (op : FieldAoiOp (Vec2 K))
    (hop : op.toAoi.Fresh fw.aoiSystem.aoi) (hplayers : ∀ w ∈ fw.players, op.toAoi.session ≠ some w) :
    (fw.aoiCall (fw.aoiSystem.call cfg.aoi op)).ViewInv cfg where
  wired := h.wired.call op (AoiWorld.call_inv h.wired.inv hop)
  apart := h.apart
  tracked w hw := (h.tracked w hw).call_fresh h.wired op hop (hplayers w hw)

/-! ## What tells a client nothing -/

theorem ViewInv.emit (h : fw.ViewInv cfg) {es : List (Effect K)}
    (hes : ∀ e ∈ es, e.quiet = true) : (fw.emit es).ViewInv cfg := by
  refine ⟨⟨h.wired.inv, h.wired.sendCb, h.wired.initialized, h.wired.sendFunc⟩, h.apart, ?_⟩
  intro w hw
  obtain ⟨hreg, hsess, hshown⟩ := h.tracked w hw
  rw [← client_append_quiet w fw.log hes] at hsess hshown
  exact ⟨hreg, hsess, hshown⟩

/-- Players' objects, clocks and the rest of the monsters do not matter. -/
theorem ViewInv.of_eq {fw' : FieldWorker K} (h : fw.ViewInv cfg)
    (haoi : fw'.aoiSystem = fw.aoiSystem) (hids : fw'.monsterIds = fw.monsterIds)
    (hplayers : fw'.players = fw.players) (hsessions : fw'.sessions = fw.sessions)
    (hlog : fw'.log = fw.log) : fw'.ViewInv cfg := by
  refine ⟨⟨?_, ?_, ?_, ?_⟩, ?_, fun w hw => ?_⟩
  · exact haoi ▸ h.wired.inv
  · exact haoi ▸ h.wired.sendCb
  · exact haoi ▸ h.wired.initialized
  · exact haoi ▸ h.wired.sendFunc
  · rw [hplayers, hids]
    exact h.apart
  · obtain ⟨hreg, hsess, hshown⟩ := h.tracked w (hplayers ▸ hw)
    rw [← haoi] at hreg hshown
    rw [← hlog] at hsess hshown
    rw [← hsessions] at hsess
    exact ⟨hreg, hsess, hshown⟩

theorem ViewInv.setPlayer (h : fw.ViewInv cfg) (pid : EntityId) (p : Player K) :
    (fw.setPlayer pid p).ViewInv cfg := h.of_eq rfl rfl rfl rfl rfl

theorem ViewInv.broadcast (h : fw.ViewInv cfg) (id : EntityId) {packet : Packet K}
    (hp : (Effect.send id packet).quiet = true) : (fw.broadcast id packet).ViewInv cfg := by
  rw [broadcast_eq]
  refine h.emit fun e he => ?_
  obtain ⟨w, -, rfl⟩ := List.mem_map.mp he
  cases packet with
  | fieldCmd type et s pos name => cases hp
  | combatEvent | aiStateEvent | statEvent => rfl

theorem ViewInv.broadcastPlayerState (h : fw.ViewInv cfg) (pid : EntityId) (st : PlayerState) :
    (fw.broadcastPlayerState pid st).ViewInv cfg := h.broadcast pid rfl

theorem ViewInv.mark (h : fw.ViewInv cfg) (source : DirtySource) (pid : EntityId) :
    (((fw.writePlayerRtEnqueue pid).markDirty source pid).setLastDirtyMarkTime pid).ViewInv cfg := by
  refine ViewInv.setPlayer (ViewInv.emit ?_ (by simp [Effect.quiet])) _ _
  exact iteInduction (motive := ViewInv cfg) (fun _ => h.emit (by simp [Effect.quiet])) fun _ => h

/-! ## Monsters -/

/-- The monsters' environment keeps the invariant, at the ids of monsters. -/
theorem env_viewInv (cfg : FieldConfig K) (ids : List EntityId) :
    (env cfg).Keeps (· ∈ ids) fun fw => fw.ViewInv cfg ∧ fw.monsterIds = ids where
  toQuiet := by
    refine env_quiet cfg ?_ ?_ ?_
    · rintro fw w packet hp ⟨h, hids⟩
      refine ⟨h.emit fun e he => ?_, hids⟩
      obtain rfl := List.mem_singleton.mp he
      cases packet with
      | fieldCmd type et s pos name => exact absurd rfl (hp type et s pos name)
      | combatEvent | aiStateEvent | statEvent => rfl
    · exact fun fw pid p _ _ h => ⟨h.1.setPlayer pid p, h.2⟩
    · exact fun fw pid h => ⟨h.1.emit (by simp [Effect.quiet]), h.2⟩
  moveInAoi fw mid x y _ h :=
    ⟨h.1.call (.moveEntity mid ⟨x, y⟩) trivial (fun _ _ => nofun), h.2⟩
  spawnInAoi fw mid x y hmid h := by
    have hmonster : ∀ w ∈ fw.players, some mid ≠ some w := by
      rintro w hw hmw
      refine h.1.apart w hw ?_
      rwa [h.2, ← Option.some.inj hmw]
    have hremoved := h.1.call (.removeEntity mid) trivial hmonster
    refine ⟨hremoved.call (.addEntity mid false ⟨x, y⟩) ?_ hmonster, h.2⟩
    have hgone := congrFun (aoiPlace_removeEntity cfg fw.aoiSystem.aoi mid) mid
    rw [Function.update_self, aoiPlace, Option.map_eq_none_iff] at hgone
    show (fw.aoiRemove cfg mid).aoiSystem.aoi.entities mid = none
    rw [aoiRemove_aoi]
    exact hgone
  removeFromAoi fw mid hmid h := by
    refine ⟨h.1.call (.removeEntity mid) trivial ?_, h.2⟩
    rintro w hw hmw
    refine h.1.apart w hw ?_
    rwa [h.2, ← Option.some.inj hmw]

theorem ViewInv.tickMonsters (h : fw.ViewInv cfg) (policy : List K → Fin 5 → K) (step : K) :
    (fw.tickMonsters cfg policy step).ViewInv cfg := by
  obtain ⟨hinv, hids⟩ := (env_viewInv cfg fw.monsterIds).update policy step (fun _ hi => hi)
    ⟨h, rfl⟩
  refine hinv.of_eq rfl ?_ rfl rfl rfl
  rw [hids]
  exact MonsterWorld.update_ids (env cfg) policy step fw.monsterWorld fw

theorem ViewInv.handleSkill (h : fw.ViewInv cfg) (session : Option EntityId)
    (targetId : EntityId) : (fw.handleSkill cfg session targetId).ViewInv cfg := by
  cases session with
  | none => exact h
  | some pid =>
    have hb := h.broadcastPlayerState pid .attack
    obtain ⟨hinv, hids⟩ := (env_viewInv cfg _).playerAttackMonster targetId
      (fw.broadcastPlayerState pid .attack).monsterWorld.monsters (fun _ hi => hi)
      ⟨hb, rfl⟩
    have hset : ({ (MonsterWorld.playerAttackMonster (env cfg) targetId
        (fw.broadcastPlayerState pid .attack).monsterWorld.monsters
        (fw.broadcastPlayerState pid .attack)).2.1 with
        monsterWorld := ⟨(MonsterWorld.playerAttackMonster (env cfg) targetId
          (fw.broadcastPlayerState pid .attack).monsterWorld.monsters
          (fw.broadcastPlayerState pid .attack)).1⟩ } : FieldWorker K).ViewInv cfg := by
      refine hinv.of_eq rfl ?_ rfl rfl rfl
      rw [hids]
      exact MonsterWorld.playerAttackMonster_ids _ _ _ _
    exact iteInduction (motive := ViewInv cfg) (fun _ => hset.broadcast _ rfl) fun _ => hset

/-! ## Players -/

theorem viewInv_stable (cfg : FieldConfig K) : Stable cfg (ViewInv cfg) where
  setPlayer _ pid p h := h.setPlayer pid p
  setClocks _ _ _ _ h := h.of_eq rfl rfl rfl rfl rfl
  broadcastPlayerState _ pid st h := h.broadcastPlayerState pid st
  mark _ source pid h := h.mark source pid
  aoiMove _ pid pos h := h.call (.moveEntity pid pos) trivial fun _ _ => nofun

theorem ViewInv.removePlayer (h : fw.ViewInv cfg) (pid : EntityId) :
    (fw.removePlayer cfg pid).ViewInv cfg := by
  have hwired := h.wired.call (.removeEntity pid) (AoiWorld.removeEntity_inv h.wired.inv pid)
  refine ⟨⟨hwired.inv, hwired.sendCb, hwired.initialized, hwired.sendFunc⟩, ?_, ?_⟩
  · exact fun w hw => h.apart w (Finset.mem_of_mem_erase hw)
  · intro w hw
    obtain ⟨hne, hw⟩ := Finset.mem_erase.mp hw
    have ht := (h.tracked w hw).call_fresh h.wired (.removeEntity pid) trivial
      fun e => hne (Option.some.inj e).symm
    exact ⟨ht.registered, ht.session, ht.shown⟩

theorem ViewInv.setSession (h : fw.ViewInv cfg) (pid : EntityId) (online : Bool) :
    (fw.step cfg (.setSession pid online)).ViewInv cfg := by
  refine ⟨⟨h.wired.inv, h.wired.sendCb, h.wired.initialized, h.wired.sendFunc⟩, h.apart, ?_⟩
  intro w hw
  obtain ⟨hreg, hsess, hshown⟩ := h.tracked w hw
  have hclient : client w (fw.step cfg (.setSession pid online)).log =
      if pid = w then { client w fw.log with online := false } else client w fw.log :=
    client_append w fw.log [.sessionChanged pid]
  refine ⟨hreg, ?_, ?_⟩
  · rw [hclient]
    by_cases hpid : pid = w
    · simp [hpid]
    · rw [if_neg hpid]
      exact fun ho => (Function.update_of_ne (Ne.symm hpid) _ _).trans (hsess ho)
  · rw [hclient]
    by_cases hpid : pid = w
    · simp [hpid]
    · rw [if_neg hpid]
      exact hshown

/-! ## A player enters -/

/-- The Enters of a loop of `send_field_enter`. -/
def enterSends {ι : Type} (fw : FieldWorker K) (watcher subject : ι → EntityId)
    (isMonster : Bool) (pos : ι → Vec2 K) (l : List ι) : List (Effect K) :=
  (l.filter fun i => fw.sessions (watcher i)).map fun i =>
    .send (watcher i) (fw.fieldCmd .enter (subject i) isMonster (pos i))

omit [Scalar K] in
theorem foldl_sendFieldEnter {ι : Type} (fw : FieldWorker K) (watcher subject : ι → EntityId)
    (isMonster : Bool) (pos : FieldWorker K → ι → Vec2 K)
    (hpos : ∀ fw es i, pos (emit fw es) i = pos fw i) (l : List ι) :
    l.foldl (fun fw i => fw.sendFieldEnter (watcher i) (subject i) isMonster (pos fw i)) fw =
      fw.emit (fw.enterSends watcher subject isMonster (pos fw) l) :=
  foldl_sendTo fw watcher (fun fw i => fw.fieldCmd .enter (subject i) isMonster (pos fw i))
    (fun fw es i => by rw [hpos]; rfl) l

omit [Scalar K] in
theorem enterSends_onlyEnter {ι : Type} (fw : FieldWorker K) (watcher subject : ι → EntityId)
    (isMonster : Bool) (pos : ι → Vec2 K) (l : List ι) :
    OnlyEnter (fw.enterSends watcher subject isMonster pos l) := by
  intro e he
  obtain ⟨i, -, rfl⟩ := List.mem_map.mp he
  exact ⟨_, _, _, _, _, rfl⟩

omit [Scalar K] in
theorem enterSends_enterSent {ι : Type} {fw : FieldWorker K} {watcher subject : ι → EntityId}
    {isMonster : Bool} {pos : ι → Vec2 K} {l : List ι} {w s : EntityId} :
    EnterSent (fw.enterSends watcher subject isMonster pos l) w s ↔
      fw.sessions w = true ∧ ∃ i ∈ l, watcher i = w ∧ subject i = s := by
  constructor
  · rintro ⟨et, p, name, hmem⟩
    obtain ⟨i, hi, heq⟩ := List.mem_map.mp hmem
    obtain ⟨hi, hsess⟩ := List.mem_filter.mp hi
    obtain ⟨rfl, hcmd⟩ := Effect.send.inj heq
    obtain ⟨-, -, rfl, -⟩ := Packet.fieldCmd.inj hcmd
    exact ⟨hsess, i, hi, rfl, rfl⟩
  · rintro ⟨hsess, i, hi, rfl, rfl⟩
    exact ⟨_, _, _, List.mem_map.mpr ⟨i, List.mem_filter.mpr ⟨hi, hsess⟩, rfl⟩⟩

/-- `on_player_enter_field` tells `w` of `s`, if `w` has a session. -/
def Introduced (fw : FieldWorker K) (pid w s : EntityId) : Prop :=
  (w = pid ∧ (s = pid ∨ s ∈ fw.players ∨ s ∈ fw.monsterIds)) ∨
    (s = pid ∧ w ∈ fw.players ∧ w ≠ pid)

/-- `on_player_enter_field` adds the player to the index and then sends
nothing but Enter, whatever the index says. -/
theorem onPlayerEnterField_sends (cfg : FieldConfig K) (fw : FieldWorker K) (pid : EntityId) :
    ∃ es, fw.onPlayerEnterField cfg pid =
        (fw.aoiAdd cfg pid true (fw.player pid).pos).emit es ∧ OnlyEnter es ∧
      ∀ w s, EnterSent es w s ↔ fw.sessions w = true ∧ fw.Introduced pid w s := by
  have hself : ∀ (fw : FieldWorker K) (pos : Vec2 K), fw.sendFieldEnter pid pid false pos =
      fw.emit (fw.enterSends (fun _ => pid) (fun _ => pid) false (fun _ => pos) [()]) := fun fw pos =>
    foldl_sendFieldEnter fw (fun _ => pid) (fun _ => pid) false (fun _ _ => pos)
      (fun _ _ _ => rfl) [()]
  have hothers : ∀ (fw : FieldWorker K) (l : List EntityId), l.foldl (fun fw otherId =>
      fw.sendFieldEnter pid otherId false (fw.player otherId).pos) fw =
        fw.emit (fw.enterSends (fun _ => pid) id false (fun i => (fw.player i).pos) l) :=
    fun fw l => foldl_sendFieldEnter fw (fun _ => pid) id false (fun fw i => (fw.player i).pos)
      (fun _ _ _ => rfl) l
  have hmonsters : ∀ (fw : FieldWorker K) (l : List (Monster K)), l.foldl (fun fw m =>
      fw.sendFieldEnter pid m.id true ⟨m.transform.x, m.transform.y⟩) fw =
        fw.emit (fw.enterSends (fun _ => pid) Monster.id true
          (fun m => ⟨m.transform.x, m.transform.y⟩) l) :=
    fun fw l => foldl_sendFieldEnter fw (fun _ => pid) Monster.id true
      (fun _ m => ⟨m.transform.x, m.transform.y⟩) (fun _ _ _ => rfl) l
  have htold : ∀ (fw : FieldWorker K) (pos : Vec2 K) (l : List EntityId), l.foldl (fun fw otherId =>
      fw.sendFieldEnter otherId pid false pos) fw =
        fw.emit (fw.enterSends id (fun _ => pid) false (fun _ => pos) l) :=
    fun fw pos l => foldl_sendFieldEnter fw id (fun _ => pid) false (fun _ _ => pos)
      (fun _ _ _ => rfl) l
  have hids : ∀ i, i ∈ ((fw.playerIds cfg).filter fun otherId => otherId ≠ pid) ↔
      i ∈ fw.players ∧ i ≠ pid := fun i => by
    simp [playerIds, Enumeration.mem_iff]
  unfold onPlayerEnterField
  simp only [hself, hothers, hmonsters, htold, emit_emit]
  refine ⟨_, rfl, ?_, fun w s => ?_⟩
  · exact (((enterSends_onlyEnter _ _ _ _ _ _).append (enterSends_onlyEnter _ _ _ _ _ _)).append
      (enterSends_onlyEnter _ _ _ _ _ _)).append (enterSends_onlyEnter _ _ _ _ _ _)
  · simp only [enterSent_append, enterSends_enterSent]
    show (((fw.sessions w = true ∧ ∃ _ ∈ [()], pid = w ∧ pid = s) ∨
      fw.sessions w = true ∧ ∃ i ∈ (fw.playerIds cfg).filter fun otherId => otherId ≠ pid,
        pid = w ∧ i = s) ∨
      fw.sessions w = true ∧ ∃ m ∈ fw.monsterWorld.monsters, pid = w ∧ m.id = s) ∨
      (fw.sessions w = true ∧ ∃ i ∈ (fw.playerIds cfg).filter fun otherId => otherId ≠ pid,
        i = w ∧ pid = s) ↔ _
    simp only [← and_or_left, hids]
    refine and_congr_right fun _ => ?_
    constructor
    · rintro (((⟨-, -, rfl, rfl⟩ | ⟨i, hi, rfl, rfl⟩) | ⟨m, hm, rfl, rfl⟩) | ⟨i, hi, rfl, rfl⟩)
      · exact .inl ⟨rfl, .inl rfl⟩
      · exact .inl ⟨rfl, .inr (.inl hi.1)⟩
      · exact .inl ⟨rfl, .inr (.inr (List.mem_map_of_mem hm))⟩
      · exact .inr ⟨rfl, hi⟩
    · rintro (⟨rfl, hs⟩ | ⟨rfl, hw⟩)
      · by_cases hsw : s = w
        · exact .inl (.inl (.inl ⟨(), List.mem_singleton_self _, rfl, hsw.symm⟩))
        · rcases hs with hs | hs | hs
          · exact absurd hs hsw
          · exact .inl (.inl (.inr ⟨s, ⟨hs, hsw⟩, rfl, rfl⟩))
          · obtain ⟨m, hm, hms⟩ := List.mem_map.mp hs
            exact .inl (.inr ⟨m, hm, rfl, hms⟩)
      · exact .inr ⟨w, hw, rfl, rfl⟩

/-- The worker when it calls `on_player_enter_field`. -/
def withPlayer (fw : FieldWorker K) (pid : EntityId) (p : Player K) : FieldWorker K :=
  { fw with
    players := insert pid fw.players
    playersChanges := fw.playersChanges + 1
    player := Function.update fw.player pid p
    log := fw.log ++ [Effect.playerAdded pid (fw.sessions pid)] }

theorem addPlayer_sends (cfg : FieldConfig K) (fw : FieldWorker K) (pid : EntityId)
    (p : Player K) :
    ∃ es, fw.addPlayer cfg pid p = ((fw.withPlayer pid p).aoiAdd cfg pid true p.pos).emit es ∧
      OnlyEnter es ∧
      ∀ w s, EnterSent es w s ↔ fw.sessions w = true ∧ (fw.withPlayer pid p).Introduced pid w s := by
  obtain ⟨es, heq, hes⟩ := onPlayerEnterField_sends cfg (fw.withPlayer pid p) pid
  have hplayer : (fw.withPlayer pid p).player pid = p := by
    show Function.update fw.player pid p pid = p
    exact Function.update_self _ _ _
  rw [hplayer] at heq
  exact ⟨es, heq, hes⟩

omit [Scalar K] in
/-- A stay begins with an empty client. -/
theorem client_withPlayer (fw : FieldWorker K) (pid : EntityId) (p : Player K) (w : EntityId) :
    client w (fw.withPlayer pid p).log =
      if pid = w then { online := fw.sessions pid } else client w fw.log :=
  client_append w fw.log [.playerAdded pid (fw.sessions pid)]

/-- After the player is added to the index, clients show what is seen. -/
theorem ViewInv.added (h : fw.ViewInv cfg) {pid : EntityId} {p : Player K}
    (ha : AoiWorld.Addable cfg.aoi fw.aoiSystem.aoi pid true p.pos) :
    ((fw.withPlayer pid p).aoiAdd cfg pid true p.pos).Wired cfg ∧
    ∀ w ∈ insert pid fw.players, ((fw.withPlayer pid p).aoiAdd cfg pid true p.pos).Tracked cfg w := by
  have hwired₀ : (fw.withPlayer pid p).Wired cfg :=
    ⟨h.wired.inv, h.wired.sendCb, h.wired.initialized, h.wired.sendFunc⟩
  have hwired := hwired₀.call (.addEntity pid true p.pos) (AoiWorld.addEntity_inv h.wired.inv ha)
  refine ⟨hwired, fun w hw => ?_⟩
  by_cases hwp : w = pid
  · subst hwp
    obtain ⟨e, hent, hep, -⟩ := AoiWorld.addEntity_entities cfg.aoi fw.aoiSystem.aoi w true p.pos
    have haoi := aoiAdd_aoi cfg (fw.withPlayer w p) w true p.pos
    have honline : (client w ((fw.withPlayer w p).aoiAdd cfg w true p.pos).log).online =
        fw.sessions w :=
      (call_online (.addEntity w true p.pos) w).trans (by rw [client_withPlayer, if_pos rfl])
    refine ⟨⟨e, ?_, hep⟩, fun ho => honline ▸ ho, fun ho s hs => ?_⟩
    · rw [haoi]
      exact (congrFun hent w).trans (Function.update_self _ _ _)
    · have hshown := hwired₀.call_client (.addEntity w true p.pos) (honline ▸ ho) hs
      rw [client_withPlayer, if_pos rfl] at hshown
      rw [haoi]
      exact congrArg Option.isSome (hshown.trans
        (AoiWorld.addEntity_heard_self h.wired.inv h.wired.sendCb ha (Ne.symm hs)).result)
  · have ht := h.tracked w ((Finset.mem_insert.mp hw).resolve_left hwp)
    have ht₀ : (fw.withPlayer pid p).Tracked cfg w := by
      have hclient := client_withPlayer fw pid p w
      rw [if_neg (Ne.symm hwp)] at hclient
      exact ⟨ht.registered, hclient ▸ ht.session, hclient ▸ ht.shown⟩
    refine ht₀.call hwired₀ (.addEntity pid true p.pos) ?_ fun s hs => ?_
    · exact AoiWorld.call_registered h.wired.inv (.addEntity pid true p.pos)
        (fun e => hwp (Option.some.inj e).symm) ht.registered
    · exact AoiWorld.addEntity_result_other h.wired.inv h.wired.sendCb ha (Ne.symm hs) hwp

/-- What the new player sees is what is in view from where it enters. -/
theorem added_seen (cfg : FieldConfig K) (fw : FieldWorker K) (pid : EntityId) (p : Player K)
    {s : EntityId} (hs : s ≠ pid) :
    (((fw.withPlayer pid p).aoiAdd cfg pid true p.pos).aoiSystem.aoi.seen cfg.aoi pid s).isSome =
      true ↔ fw.InView cfg p.pos s := by
  obtain ⟨e, hent, hep, -, hsec⟩ :=
    AoiWorld.addEntity_entities cfg.aoi fw.aoiSystem.aoi pid true p.pos
  have haoi : ((fw.withPlayer pid p).aoiAdd cfg pid true p.pos).aoiSystem.aoi =
      (fw.aoiSystem.aoi.addEntity cfg.aoi pid true p.pos).1 := aoiAdd_aoi cfg _ pid true p.pos
  rw [haoi, AoiWorld.seen, if_neg (Ne.symm hs), hent, Function.update_self,
    Function.update_of_ne hs]
  unfold InView
  cases fw.aoiSystem.aoi.entities s with
  | none => simp
  | some es => simp [hep, hsec]

/-- **What clients show after a player has entered**: what is seen, and
what they were told of. -/
theorem ViewInv.addPlayer_shown (h : fw.ViewInv cfg) {pid : EntityId} {p : Player K}
    (ha : AoiWorld.Addable cfg.aoi fw.aoiSystem.aoi pid true p.pos) :
    (fw.addPlayer cfg pid p).Wired cfg ∧ ∀ w ∈ insert pid fw.players,
      (∃ e, (fw.addPlayer cfg pid p).aoiSystem.aoi.entities w = some e ∧ e.isPlayer = true) ∧
      (client w (fw.addPlayer cfg pid p).log).online =
        (if pid = w then fw.sessions pid else (client w fw.log).online) ∧
      ((client w (fw.addPlayer cfg pid p).log).online = true → fw.sessions w = true ∧
        ∀ s, s ≠ w → (((client w (fw.addPlayer cfg pid p).log).shown s).isSome = true ↔
          ((fw.addPlayer cfg pid p).aoiSystem.aoi.seen cfg.aoi w s).isSome = true ∨
            (fw.withPlayer pid p).Introduced pid w s)) := by
  obtain ⟨es, hadd, honly, hsent⟩ := addPlayer_sends cfg fw pid p
  obtain ⟨hwired, htracked⟩ := h.added ha
  rw [hadd]
  refine ⟨⟨hwired.inv, hwired.sendCb, hwired.initialized, hwired.sendFunc⟩, fun w hw => ?_⟩
  have ht := htracked w hw
  have honline := (client_append_enter ((fw.withPlayer pid p).aoiAdd cfg pid true p.pos).log honly
    (Nat.succ_ne_self w)).1
  refine ⟨ht.registered, ?_, fun ho => ?_⟩
  · rw [emit_log, honline]
    refine (call_online (.addEntity pid true p.pos) w).trans ?_
    rw [client_withPlayer]
    split <;> rfl
  · rw [emit_log, honline] at ho
    have hsess := ht.session ho
    refine ⟨hsess, fun s hs => ?_⟩
    rw [emit_log, (client_append_enter _ honly hs).2, ht.shown ho s hs, hsent]
    exact or_congr Iff.rfl (and_iff_right hsess)

end FieldWorker

/-- The player is added while the index does not have it, or where it
stands. -/
def FieldAction.Addable (cfg : FieldConfig K) (fw : FieldWorker K) : FieldAction K → Prop
  | .addPlayer pid p => AoiWorld.Addable cfg.aoi fw.aoiSystem.aoi pid true p.pos
  | _ => True

/-- Whatever the player is told of is in view from where it enters, and it
enters in view of all who are told of it. -/
def FieldAction.EntersInView (cfg : FieldConfig K) (fw : FieldWorker K) : FieldAction K → Prop
  | .addPlayer pid p =>
    (fw.sessions pid = true →
      (∀ s ∈ fw.players, s ≠ pid → fw.InView cfg p.pos s) ∧
      ∀ m ∈ fw.monsterIds, m ≠ pid → fw.InView cfg p.pos m) ∧
    ∀ w ∈ fw.players, w ≠ pid → (client w fw.log).online = true → fw.InView cfg p.pos w
  | _ => True

instance (cfg : FieldConfig K) (fw : FieldWorker K) : (a : FieldAction K) →
    Decidable (a.EntersInView cfg fw)
  | .addPlayer pid p => inferInstanceAs (Decidable
      ((fw.sessions pid = true →
        (∀ s ∈ fw.players, s ≠ pid → fw.InView cfg p.pos s) ∧
        ∀ m ∈ fw.monsterIds, m ≠ pid → fw.InView cfg p.pos m) ∧
      ∀ w ∈ fw.players, w ≠ pid → (client w fw.log).online = true → fw.InView cfg p.pos w))
  | .removePlayer _ => isTrue trivial
  | .moveInput _ _ _ => isTrue trivial
  | .skill _ _ => isTrue trivial
  | .updateWorld _ _ => isTrue trivial
  | .setSession _ _ => isTrue trivial
  | .setRegistered _ _ => isTrue trivial

namespace FieldWorker

/-- Everything told is seen, if and only if the player enters in view. -/
theorem ViewInv.introduced_seen_iff (h : fw.ViewInv cfg) {pid : EntityId} {p : Player K}
    (ha : AoiWorld.Addable cfg.aoi fw.aoiSystem.aoi pid true p.pos) :
    (∀ w ∈ insert pid fw.players, (client w (fw.addPlayer cfg pid p).log).online = true →
      ∀ s, s ≠ w → (fw.withPlayer pid p).Introduced pid w s →
        ((fw.addPlayer cfg pid p).aoiSystem.aoi.seen cfg.aoi w s).isSome = true) ↔
      (FieldAction.addPlayer pid p).EntersInView cfg fw := by
  obtain ⟨hwired, hclients⟩ := h.addPlayer_shown ha
  have haoi : (fw.addPlayer cfg pid p).aoiSystem.aoi =
      ((fw.withPlayer pid p).aoiAdd cfg pid true p.pos).aoiSystem.aoi := by
    obtain ⟨es, hadd, -⟩ := addPlayer_sends cfg fw pid p
    rw [hadd, emit_aoiSystem]
  have hseen : ∀ s, s ≠ pid → (((fw.addPlayer cfg pid p).aoiSystem.aoi.seen cfg.aoi pid s).isSome =
      true ↔ fw.InView cfg p.pos s) := fun s hs => by rw [haoi, added_seen cfg fw pid p hs]
  have hcomm : ∀ w ∈ insert pid fw.players,
      ((fw.addPlayer cfg pid p).aoiSystem.aoi.seen cfg.aoi w pid).isSome =
        ((fw.addPlayer cfg pid p).aoiSystem.aoi.seen cfg.aoi pid w).isSome := by
    intro w hw
    obtain ⟨⟨ew, hew, hewp⟩, -⟩ := hclients w hw
    obtain ⟨⟨ep, hep, hepp⟩, -⟩ := hclients pid (Finset.mem_insert_self _ _)
    exact AoiWorld.seen_isSome_comm hwired.inv hew hep hewp hepp
  constructor
  · intro hall
    constructor
    · intro hsess
      have hpid := Finset.mem_insert_self pid fw.players
      have ho : (client pid (fw.addPlayer cfg pid p).log).online = true := by
        rw [(hclients pid hpid).2.1, if_pos rfl]
        exact hsess
      constructor
      · intro s hmem hs
        exact (hseen s hs).mp (hall pid hpid ho s hs
          (.inl ⟨rfl, .inr (.inl (Finset.mem_insert_of_mem hmem))⟩))
      · intro m hmem hm
        exact (hseen m hm).mp (hall pid hpid ho m hm (.inl ⟨rfl, .inr (.inr hmem)⟩))
    · intro w hw hwp ho
      have hw' := Finset.mem_insert_of_mem (a := w) (b := pid) hw
      rw [← hseen w hwp, ← hcomm w hw']
      refine hall w hw' ?_ pid (Ne.symm hwp) (.inr ⟨rfl, hw', hwp⟩)
      rw [(hclients w hw').2.1, if_neg (Ne.symm hwp)]
      exact ho
  · rintro ⟨hnew, hold⟩ w hw ho s hs (⟨rfl, hmem⟩ | ⟨rfl, -, hwp⟩)
    · rw [(hclients w hw).2.1, if_pos rfl] at ho
      rw [hseen s hs]
      rcases hmem with hmem | hmem | hmem
      · exact absurd hmem hs
      · exact (hnew ho).1 s ((Finset.mem_insert.mp hmem).resolve_left hs) hs
      · exact (hnew ho).2 s hmem hs
    · rw [(hclients w hw).2.1, if_neg (Ne.symm hwp)] at ho
      rw [hcomm w hw, hseen w hwp]
      exact hold w ((Finset.mem_insert.mp hw).resolve_left hwp) hwp ho

theorem addPlayer_frame (cfg : FieldConfig K) (fw : FieldWorker K) (pid : EntityId)
    (p : Player K) : (fw.addPlayer cfg pid p).players = insert pid fw.players ∧
      (fw.addPlayer cfg pid p).monsterIds = fw.monsterIds ∧
      (fw.addPlayer cfg pid p).sessions = fw.sessions := by
  obtain ⟨es, hadd, -⟩ := addPlayer_sends cfg fw pid p
  rw [hadd]
  exact ⟨rfl, rfl, rfl⟩

theorem ViewInv.addPlayer (h : fw.ViewInv cfg) {pid : EntityId} {p : Player K}
    (hsane : pid ∉ fw.monsterIds) (ha : AoiWorld.Addable cfg.aoi fw.aoiSystem.aoi pid true p.pos)
    (hin : (FieldAction.addPlayer pid p).EntersInView cfg fw) :
    (fw.addPlayer cfg pid p).ViewInv cfg := by
  obtain ⟨hwired, hclients⟩ := h.addPlayer_shown ha
  obtain ⟨hplayers, hids, hsessions⟩ := addPlayer_frame cfg fw pid p
  have hseen := (h.introduced_seen_iff ha).mpr hin
  refine ⟨hwired, ?_, ?_⟩
  · rw [hplayers, hids]
    intro w hw
    rcases Finset.mem_insert.mp hw with rfl | hw
    · exact hsane
    · exact h.apart w hw
  · rw [hplayers]
    intro w hw
    obtain ⟨hreg, -, hclient⟩ := hclients w hw
    refine ⟨hreg, fun ho => hsessions ▸ (hclient ho).1, fun ho s hs => ?_⟩
    rw [Bool.eq_iff_iff, (hclient ho).2 s hs]
    exact or_iff_left_of_imp (hseen w hw ho s hs)

/-- A player that enters out of view of what it is told of, or of who is
told of it, is shown something it does not see, or to one who does not
see it. -/
theorem ViewInv.entersInView (h : fw.ViewInv cfg) {pid : EntityId} {p : Player K}
    (ha : AoiWorld.Addable cfg.aoi fw.aoiSystem.aoi pid true p.pos)
    (hshow : (fw.addPlayer cfg pid p).ClientsShowView cfg) :
    (FieldAction.addPlayer pid p).EntersInView cfg fw := by
  obtain ⟨-, hclients⟩ := h.addPlayer_shown ha
  obtain ⟨hplayers, -⟩ := addPlayer_frame cfg fw pid p
  refine (h.introduced_seen_iff ha).mp fun w hw ho s hs hintro => ?_
  rw [← watches_iff, ← hshow w (hplayers ▸ hw) ho s hs, ((hclients w hw).2.2 ho).2 s hs]
  exact .inr hintro

/-- One step. -/
theorem ViewInv.step (h : fw.ViewInv cfg) (a : FieldAction K) (hsane : a.Sane fw)
    (ha : a.Addable cfg fw) (hin : a.EntersInView cfg fw) : (fw.step cfg a).ViewInv cfg := by
  cases a with
  | addPlayer pid p => exact h.addPlayer hsane ha hin
  | removePlayer pid => exact h.removePlayer pid
  | moveInput session entityId dir => exact (viewInv_stable cfg).onClientMoveInput session entityId dir h
  | skill session targetId => exact h.handleSkill session targetId
  | updateWorld policy dt =>
    exact (viewInv_stable cfg).updateWorld policy (fun _ h => h.tickMonsters policy monsterStep) dt h
  | setSession pid online => exact h.setSession pid online
  | setRegistered pid registered => exact h.of_eq rfl rfl rfl rfl rfl

end FieldWorker

/-- **When clients show what the index says.** In a run that adds no player
a second time in another sector, the clients show in every state exactly
what is registered in their players' view windows if and only if every
player enters where all it is told of, and all who are told of it, are in
view. -/
theorem clients_show_view_iff (cfg : FieldConfig K) (redisRtWriter : Bool)
    (l : List (FieldWorker K × FieldAction K)) (fw : FieldWorker K)
    (r : Run (fieldSystem cfg redisRtWriter) l fw) (hl : ∀ p ∈ l, p.2.Addable cfg p.1) :
    ((∀ p ∈ l, p.1.ClientsShowView cfg) ∧ fw.ClientsShowView cfg) ↔
      ∀ p ∈ l, p.2.EntersInView cfg p.1 := by
  refine (r.restrict (Q := fun fw a => a.Addable cfg fw) hl).good_iff_steps
    (I := FieldWorker.ViewInv cfg) (P := fun fw a => a.EntersInView cfg fw) ?_ ?_ ?_ ?_
  · rintro fw ⟨player, spawns, hnd, rfl⟩
    obtain ⟨-, hplayers, -⟩ := FieldWorker.construct_start cfg player redisRtWriter spawns
    have h := FieldWorker.construct_spawned cfg player redisRtWriter hnd
    exact ⟨⟨h.inv, h.sendCb, rfl, h.sendFunc⟩, by simp [hplayers], by simp [hplayers]⟩
  · rintro fw a fw' h hin ⟨ha, hsane, rfl⟩
    exact h.step a hsane ha hin
  · exact fun fw h => h.clientsShowView
  · rintro fw a fw' h hout ⟨ha, -, rfl⟩ hshow
    cases a with
    | addPlayer pid p => exact hout (h.entersInView ha hshow)
    | _ => exact hout trivial

/-- A player enters beside the archer and waits: it is shown the archer
as long as it sees it. -/
theorem clients_show_view_near : ∃ l fw, Run (fieldSystem sortedConfig true) l fw ∧
    fw.ClientsShowView sortedConfig ∧ (client 1 fw.log).online = true ∧
    ((client 1 fw.log).shown 1000).isSome = true := by
  have r := ((run_besideArcher.next (.setSession 1 true) ⟨trivial, rfl⟩).next
    (.addPlayer 1 (newPlayer 45 30)) ⟨by decide, rfl⟩).next
    (.updateWorld (fun _ _ => 0) (3 / 10)) ⟨trivial, rfl⟩
  refine ⟨_, _, r, ((clients_show_view_iff sortedConfig true _ _ r ?_).mpr ?_).2, ?_⟩
  · simp only [List.forall_mem_cons, List.not_mem_nil, false_implies, implies_true, and_true]
    refine ⟨trivial, fun e he => ?_, trivial⟩
    have hnone : besideArcher.aoiSystem.aoi.entities 1 = none :=
      Option.isNone_iff_eq_none.mp (by decide +kernel)
    exact nomatch hnone.symm.trans he
  · simp only [List.forall_mem_cons, List.not_mem_nil, false_implies, implies_true, and_true]
    decide +kernel
  · decide +kernel

/-- Where the game worker puts a new player the archer is out of view, and
is shown. -/
theorem clients_show_view_far :
    ∃ l fw, Run (fieldSystem sortedConfig true) l fw ∧ ¬ fw.ClientsShowView sortedConfig := by
  have r := (run_besideArcher.next (.setSession 1 true) ⟨trivial, rfl⟩).next
    (.addPlayer 1 (newPlayer (1021 / 10) (15591 / 100))) ⟨by decide, rfl⟩
  refine ⟨_, _, r, fun h => ?_⟩
  have hseen := (h 1 (by decide +kernel) (by decide +kernel) 1000 (by decide)).mp
    (by decide +kernel)
  rw [watches_iff] at hseen
  revert hseen
  decide +kernel

end MmorpgServer.Worker
