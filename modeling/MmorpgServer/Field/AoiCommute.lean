/-
MmorpgServer.Field.AoiCommute — moves of different entities commute.

`tick_players` moves the players in the order the hash map happens to
iterate them. Two orders send different events: what is an Enter in one
may be a Snapshot in the other, or an Enter that a Leave takes back; and
the hash containers of the index are filled in another order, so they may
be iterated in another order (`AoiConfig.iterated`). This module shows
that they leave the same tables and the same views.

A view (`ViewWorld.views`) is the map folded from every event a watcher is
sent, its own echo included: Snapshot, Enter and Move set the position,
Leave deletes it. Its entries for other subjects are what the index says
the watcher sees (`Synced`, from `call_diff`), so they depend on the entity
table alone, as the two index tables do. What is left of a world is its
`Ledger`: the entity table and what each player last heard of itself. A
move rewrites one row of the ledger (`ledger_call`), whatever order the
containers are iterated in, and writes to different rows commute.
-/
import MmorpgServer.Field.AoiReplica

namespace MmorpgServer.Field

open MmorpgServer.Lib

variable {P : Type}

/-! ## Views -/

/-- What `v` is told about `s`, itself included. -/
def told (v s : EntityId) (L : List (Delivery P)) : List (Update P) :=
  L.filterMap fun d => if d.watcherId = v ∧ d.ev.subjectId = s then some d.ev.update else none

/-- Views after some deliveries. -/
def viewAll (views : EntityId × EntityId → Option P) (L : List (Delivery P)) :
    EntityId × EntityId → Option P :=
  L.foldl (fun m d => Function.update m (d.watcherId, d.ev.subjectId) d.ev.update.set) views

theorem viewAll_apply (views : EntityId × EntityId → Option P) (L : List (Delivery P))
    (v s : EntityId) : viewAll views L (v, s) = Update.setAll (told v s L) (views (v, s)) := by
  induction L generalizing views with
  | nil => rfl
  | cons d L ih =>
    show viewAll (Function.update views _ _) L (v, s) = _
    rw [ih]
    by_cases hd : d.watcherId = v ∧ d.ev.subjectId = s
    · obtain ⟨rfl, rfl⟩ := hd
      simp [told, Update.setAll]
    · have hne : ((v, s) : EntityId × EntityId) ≠ (d.watcherId, d.ev.subjectId) := by
        rintro h
        exact hd ⟨(Prod.mk.inj h).1.symm, (Prod.mk.inj h).2.symm⟩
      simp [told, hd, Function.update_of_ne hne]

/-- About others, a watcher is told what it hears. -/
theorem told_eq_heard {v s : EntityId} (hvs : v ≠ s) (L : List (Delivery P)) :
    told v s L = heard v s L := by
  induction L with
  | nil => rfl
  | cons d L ih =>
    rw [← List.singleton_append, heard_append, heard_singleton hvs, ← ih]
    by_cases hd : d.watcherId = v ∧ d.ev.subjectId = s <;> simp [told, hd]

theorem told_append (v s : EntityId) (L L' : List (Delivery P)) :
    told v s (L ++ L') = told v s L ++ told v s L' := by
  simp [told]

theorem told_eq_nil {v s : EntityId} {L : List (Delivery P)}
    (h : ∀ d ∈ L, d.watcherId = v → d.ev.subjectId ≠ s) : told v s L = [] := by
  simpa [told] using h

/-- The same index with its containers iterated in other orders. -/
def AoiConfig.iterated (cfg : AoiConfig P) (order : Nat → AoiOrder) : AoiConfig P :=
  { cfg with order }

namespace AoiWorld

variable {cfg : AoiConfig P} {w : AoiWorld P} {id : EntityId}

/-- The invariant does not ask for an order. -/
theorem Inv.iterated (hw : w.Inv cfg) (order : Nat → AoiOrder) : w.Inv (cfg.iterated order) where
  idOk := hw.idOk
  sectorOk := hw.sectorOk
  entitiesOk := hw.entitiesOk
  watchersOk := hw.watchersOk
  subscribedOk := hw.subscribedOk

/-! ## What a move sends -/

theorem rebuild_watcher (ord : AoiOrder) (hcb : w.sendCb = true) {e : Entity P} {d : Delivery P}
    (hd : d ∈ (rebuildPlayerSubscriptions cfg ord w e).2) : d.watcherId = e.id := by
  rw [rebuild_snd cfg ord hcb, List.mem_append, List.mem_flatMap, List.mem_flatMap] at hd
  rcases hd with ⟨sc, -, hd⟩ | ⟨sc, -, hd⟩ <;>
    obtain ⟨i, -, hi⟩ := List.mem_filterMap.mp hd
  · exact (leaveFor_spec hi).2
  · unfold snapshotFor at hi
    split at hi
    · simp at hi
    · split at hi
      · simp at hi
      · obtain rfl := Option.some.inj hi
        rfl

theorem broadcast_subject (ord : AoiOrder) (c : AoiSectorCoord) (ev : AoiEvent P)
    (excludeId : EntityId) {d : Delivery P}
    (hd : d ∈ broadcastToSectorWatchers ord w c ev excludeId) : d.ev = ev := by
  unfold broadcastToSectorWatchers at hd
  split at hd
  · cases hd
  · split at hd
    · cases hd
    · obtain ⟨i, -, hi⟩ := List.mem_filterMap.mp hd
      split at hi
      · cases hi
      · obtain rfl := Option.some.inj hi
        rfl

theorem crossing_subject (ord : AoiOrder) (pos : P) (old new : AoiSectorCoord) {d : Delivery P}
    (hd : d ∈ crossingEvents ord w id pos old new) : d.ev.subjectId = id := by
  rw [crossingEvents_eq, List.mem_append, List.mem_filterMap, List.mem_filterMap] at hd
  rcases hd with ⟨i, -, hi⟩ | ⟨i, -, hi⟩ <;> split at hi <;> try split at hi
  all_goals
    cases hi
    try rfl

/-- What a move sends concerns the mover, as watcher or as subject. -/
theorem moveEntity_concerns (hid : ∀ e, w.entities id = some e → e.id = id)
    (hcb : w.sendCb = true) (newPos : P) {d : Delivery P}
    (hd : d ∈ (w.moveEntity cfg id newPos).2) : d.watcherId = id ∨ d.ev.subjectId = id := by
  cases he : w.entities id with
  | none =>
    rw [moveEntity_of_none he] at hd
    cases hd
  | some e₀ =>
    have hcb' := (resubscribed_sendCb cfg w id e₀ newPos).trans hcb
    rw [moveEntity_eq he, hcb', if_pos rfl, subjectEvents] at hd
    simp only [List.mem_append] at hd
    rcases hd with hd | (hd | hd) | hd
    · left
      unfold resubscribed at hd
      split at hd
      · have hrelocated := (relocated_sendCb cfg w id e₀ newPos).trans hcb
        exact (rebuild_watcher _ hrelocated hd).trans (hid e₀ he)
      · cases hd
    · split at hd
      · exact .inr (crossing_subject _ _ _ _ hd)
      · cases hd
    · rw [broadcast_subject _ _ _ _ hd]
      exact .inr rfl
    · split at hd
      · rw [List.mem_singleton.mp hd]
        exact .inl rfl
      · cases hd

/-- A player hears of its own move last. -/
theorem moveEntity_told_self (cfg : AoiConfig P) {e₀ : Entity P} (he : w.entities id = some e₀)
    (hp : e₀.isPlayer = true) (hcb : w.sendCb = true) (newPos : P) :
    ∃ us, told id id (w.moveEntity cfg id newPos).2 = us ++ [.overwrite newPos] := by
  have hcb' := (resubscribed_sendCb cfg w id e₀ newPos).trans hcb
  have hp' : (movedEntity cfg e₀ newPos).isPlayer = true := hp
  rw [moveEntity_eq he, hcb', if_pos rfl, subjectEvents, hp', if_pos rfl, ← List.append_assoc,
    told_append]
  exact ⟨_, congrArg _ (by simp [told, AoiEvent.update])⟩

theorem broadcast_quiet (ord : AoiOrder) (hcb : w.sendCb = false) (c : AoiSectorCoord)
    (ev : AoiEvent P) (excludeId : EntityId) :
    broadcastToSectorWatchers ord w c ev excludeId = [] := by
  simp [broadcastToSectorWatchers, hcb]

theorem rebuild_quiet (ord : AoiOrder) (hcb : w.sendCb = false) (e : Entity P) :
    (rebuildPlayerSubscriptions cfg ord w e).2 = [] := by
  simp only [rebuildPlayerSubscriptions, List.append_eq_nil_iff]
  constructor
  · refine emitLoop_silent (I := fun s => s.sendCb = false) ?_ ?_ hcb _
    · intro s a h
      exact (unwatchSector_fst ord e _ s a ▸ dropWatcher_sameBut s e.id a).sendCb.trans h
    · intro s a h
      unfold unwatchSector
      cases s.sectors a <;> simp [h]
  · refine emitLoop_silent (I := fun s => s.sendCb = false) (fun s a h => h) ?_
      ((unwatchLoop_sameBut ord e _ w _).sendCb.trans hcb) _
    intro s a h
    simp [watchSector, h]

/-- Without a callback nothing is sent. -/
theorem call_quiet (hcb : w.sendCb = false) (op : AoiOp P) : (w.call cfg op).2 = [] := by
  cases op with
  | addEntity id isPlayer pos =>
    show (w.addEntity cfg id isPlayer pos).2 = []
    rw [addEntity_snd, broadcast_quiet _ ((addEntity_sendCb cfg w id isPlayer pos).trans hcb),
      List.append_nil]
    cases isPlayer with
    | true =>
      have hplaced : (placed cfg w id true pos).sendCb = false := hcb
      rw [if_pos rfl, rebuild_quiet _ hplaced]
    | false => rfl
  | removeEntity id =>
    simp only [call, removeEntity]
    cases w.entities id with
    | none => rfl
    | some e => exact broadcast_quiet _ hcb _ _ _
  | moveEntity id newPos =>
    show (w.moveEntity cfg id newPos).2 = []
    cases he : w.entities id with
    | none => rw [moveEntity_of_none he]
    | some e₀ =>
      rw [moveEntity_eq he, (resubscribed_sendCb cfg w id e₀ newPos).trans hcb,
        if_neg (by decide), List.append_nil, resubscribed]
      split
      · exact rebuild_quiet _ ((relocated_sendCb cfg w id e₀ newPos).trans hcb) _
      · rfl
  | updatePlayerAoi id =>
    simp only [call, updatePlayerAoi]
    cases w.entities id with
    | none => rfl
    | some e => cases hp : e.isPlayer <;> simp [hp, rebuild_quiet _ hcb]

end AoiWorld

/-! ## Worlds with their views -/

/-- The index and the views its watchers have folded, by watcher and
subject. -/
structure ViewWorld (P : Type) where
  world : AoiWorld P
  views : EntityId × EntityId → Option P := fun _ => none

namespace ViewWorld

/-- A call, and its events taken into the views; a view starts empty when
its watcher is added. -/
def call (cfg : AoiConfig P) (c : ViewWorld P) (op : AoiOp P) : ViewWorld P where
  world := (c.world.call cfg op).1
  views := viewAll (resetClient op c.views) (c.world.call cfg op).2

/-- Moves, one after another. -/
def moves (cfg : AoiConfig P) (c : ViewWorld P) (ms : List (EntityId × P)) : ViewWorld P :=
  ms.foldl (fun c m => c.call cfg (.moveEntity m.1 m.2)) c

/-- The same tables, and for every player the same view. -/
structure SameOutcome (c c' : ViewWorld P) : Prop where
  tables : c.world.SameTables c'.world
  views : ∀ v e, c.world.entities v = some e → e.isPlayer = true →
    ∀ s, c.views (v, s) = c'.views (v, s)

/-- The tables agree, and of every other subject a view holds what its
watcher sees. -/
structure Synced (cfg : AoiConfig P) (c : ViewWorld P) : Prop where
  inv : c.world.Inv cfg
  views : ∀ v s, v ≠ s → c.views (v, s) = if c.world.sendCb then c.world.seen cfg v s else none

variable {cfg : AoiConfig P} {c : ViewWorld P}

theorem call_synced (hc : c.Synced cfg) (op : AoiOp P) (hop : op.Fresh c.world) :
    (c.call cfg op).Synced cfg := by
  refine ⟨AoiWorld.call_inv hc.inv hop, fun v s hvs => ?_⟩
  show viewAll _ _ (v, s) = if (c.world.call cfg op).1.sendCb then
    (c.world.call cfg op).1.seen cfg v s else none
  rw [viewAll_apply, told_eq_heard hvs, resetClient, hc.views v s hvs, AoiWorld.call_sendCb]
  cases hcb : c.world.sendCb with
  | true =>
    have hdiff := AoiWorld.call_diff hc.inv hcb hop hvs
    rw [if_pos rfl, if_pos rfl, Update.setAll_of_legal hdiff.legal, hdiff.result]
  | false =>
    rw [AoiWorld.call_quiet hcb]
    simp

end ViewWorld

/-- The index and its views under any sequence of calls. -/
def viewSystem (cfg : AoiConfig P) (sendCb : Bool) : System (ViewWorld P) (AoiOp P) :=
  .ofFn { world := { sendCb } } (fun c op => op.Fresh c.world) (fun c op => c.call cfg op)

theorem viewSystem_synced {cfg : AoiConfig P} {sendCb : Bool}
    {l : List (ViewWorld P × AoiOp P)} {c : ViewWorld P} (r : Run (viewSystem cfg sendCb) l c) :
    c.Synced cfg := by
  refine r.invariant ?_ ?_
  · rintro c rfl
    refine ⟨AoiWorld.inv_empty cfg sendCb, fun v s _ => ?_⟩
    rw [AoiWorld.seen_of_unregistered rfl, ite_self]
  · rintro c op c' hc ⟨hop, rfl⟩
    exact ViewWorld.call_synced hc op hop

/-! ## The ledger -/

/-- What a world is made of, as far as moves can tell: the entity table
and, of every player, what it last heard of itself. -/
@[ext] structure Ledger (P : Type) where
  entities : EntityId → Option (Entity P)
  own : EntityId → Option P

namespace Ledger

/-- A move rewrites the mover's row; a player is told of it if there is a
callback. -/
def move (cfg : AoiConfig P) (sendCb : Bool) (t : Ledger P) (m : EntityId × P) : Ledger P :=
  match t.entities m.1 with
  | none => t
  | some e =>
    { entities := Function.update t.entities m.1 (some (AoiWorld.settledEntity cfg e m.2))
      own := if e.isPlayer && sendCb then Function.update t.own m.1 (some m.2) else t.own }

/-- Different rows are rewritten independently. -/
theorem move_comm (cfg : AoiConfig P) (sendCb : Bool) (t : Ledger P) {m m' : EntityId × P}
    (h : m.1 ≠ m'.1) :
    (t.move cfg sendCb m).move cfg sendCb m' = (t.move cfg sendCb m').move cfg sendCb m := by
  cases hm : t.entities m.1 with
  | none =>
    have hleft : t.move cfg sendCb m = t := by simp [move, hm]
    have hstill : (t.move cfg sendCb m').entities m.1 = none := by
      cases hm' : t.entities m'.1 <;> simp [move, hm', h, hm]
    rw [hleft, move.eq_1 cfg sendCb (t.move cfg sendCb m') m, hstill]
  | some e =>
    cases hm' : t.entities m'.1 with
    | none => simp [move, hm, hm', h.symm]
    | some e' =>
      simp only [move, hm, hm', Function.update_of_ne h, Function.update_of_ne h.symm]
      cases e.isPlayer <;> cases e'.isPlayer <;> cases sendCb <;>
        simp [Function.update_comm h]

end Ledger

namespace ViewWorld

variable {cfg : AoiConfig P} {c c' : ViewWorld P}

/-- The ledger of a world. -/
def ledger (c : ViewWorld P) : Ledger P where
  entities := c.world.entities
  own v := if (c.world.entities v).any (·.isPlayer) then c.views (v, v) else none

/-- The ledger determines the outcome. -/
theorem Synced.sameOutcome (hc : c.Synced cfg) (hc' : c'.Synced cfg)
    (hcb : c.world.sendCb = c'.world.sendCb) (h : c.ledger = c'.ledger) : c.SameOutcome c' := by
  have hent : c.world.entities = c'.world.entities := congrArg Ledger.entities h
  refine ⟨hc.inv.sameTables hc'.inv hent, fun v e he hp s => ?_⟩
  by_cases hvs : v = s
  · subst hvs
    have hown := congrFun (congrArg Ledger.own h) v
    simpa [ledger, ← hent, he, hp] using hown
  · rw [hc.views v s hvs, hc'.views v s hvs, hcb, AoiWorld.seen, AoiWorld.seen, hent]

/-- **A move, on the ledger.** -/
theorem ledger_call (hc : c.Synced cfg) (m : EntityId × P) :
    (c.call cfg (.moveEntity m.1 m.2)).ledger = c.ledger.move cfg c.world.sendCb m := by
  obtain ⟨id, newPos⟩ := m
  have hreset : resetClient (.moveEntity id newPos) c.views = c.views := by
    funext k
    simp [resetClient, AoiOp.session]
  cases he : c.world.entities id with
  | none =>
    have hstay : c.world.call cfg (.moveEntity id newPos) = (c.world, []) :=
      AoiWorld.moveEntity_of_none he newPos
    simp [ledger, call, hstay, hreset, viewAll, Ledger.move, he]
  | some e₀ =>
    have hent : (c.call cfg (.moveEntity id newPos)).world.entities = _ :=
      AoiWorld.moveEntity_entities hc.inv he newPos
    have hviews : ∀ v, (c.call cfg (.moveEntity id newPos)).views (v, v) =
        Update.setAll (told v v (c.world.call cfg (.moveEntity id newPos)).2) (c.views (v, v)) := by
      intro v
      show viewAll _ _ (v, v) = _
      rw [viewAll_apply, hreset]
    rw [Ledger.move, show c.ledger.entities id = some e₀ from he]
    refine Ledger.ext hent (funext fun v => ?_)
    simp only [ledger, hent, hviews]
    by_cases hv : v = id
    · subst hv
      have hplayer : (AoiWorld.settledEntity cfg e₀ newPos).isPlayer = e₀.isPlayer := rfl
      cases hp : e₀.isPlayer with
      | false => simp [he, hp, hplayer]
      | true =>
        cases hcb : c.world.sendCb with
        | false => simp [he, hp, hplayer, AoiWorld.call_quiet hcb, told]
        | true =>
          obtain ⟨us, hus⟩ := AoiWorld.moveEntity_told_self cfg he hp hcb newPos
          have hcall : (c.world.call cfg (.moveEntity v newPos)).2 =
            (c.world.moveEntity cfg v newPos).2 := rfl
          simp [hp, hplayer, hcall, hus, Update.set]
    · -- the watcher is not the mover: it is told nothing about itself
      have hquiet : told v v (c.world.call cfg (.moveEntity id newPos)).2 = [] := by
        cases hcb : c.world.sendCb with
        | false => simp [AoiWorld.call_quiet hcb, told]
        | true =>
          refine told_eq_nil fun d hd hwatch hsubject => ?_
          have hmover := AoiWorld.moveEntity_concerns (fun e h => hc.inv.idOk id e h) hcb newPos hd
          rcases hmover with h | h
          · exact hv (hwatch.symm.trans h)
          · exact hv (hsubject.symm.trans h)
      rw [hquiet, Function.update_of_ne hv, Update.setAll_nil]
      cases e₀.isPlayer && c.world.sendCb with
      | false => rfl
      | true => rw [if_pos rfl, Function.update_of_ne hv]

theorem moves_synced (hc : c.Synced cfg) (ms : List (EntityId × P)) :
    (c.moves cfg ms).Synced cfg ∧ (c.moves cfg ms).world.sendCb = c.world.sendCb ∧
      (c.moves cfg ms).ledger = ms.foldl (Ledger.move cfg c.world.sendCb) c.ledger := by
  induction ms generalizing c with
  | nil => exact ⟨hc, rfl, rfl⟩
  | cons m ms ih =>
    have hcb : (c.call cfg (.moveEntity m.1 m.2)).world.sendCb = c.world.sendCb :=
      AoiWorld.call_sendCb cfg c.world _
    obtain ⟨hend, hkept, hledger⟩ := ih (call_synced hc (.moveEntity m.1 m.2) trivial)
    rw [hcb, ledger_call hc] at hledger
    exact ⟨hend, hkept.trans hcb, hledger⟩

theorem Synced.iterated (hc : c.Synced cfg) (order : Nat → AoiOrder) :
    c.Synced (cfg.iterated order) :=
  ⟨hc.inv.iterated order, hc.views⟩

/-- Neither the order of moves of different entities matters, nor what
order the containers are iterated in. -/
theorem moves_perm (hc : c.Synced cfg) (order : Nat → AoiOrder) {ms ms' : List (EntityId × P)}
    (hnodup : (ms.map Prod.fst).Nodup) (hperm : ms.Perm ms') :
    (c.moves cfg ms).SameOutcome (c.moves (cfg.iterated order) ms') := by
  obtain ⟨hend, hcb, hledger⟩ := moves_synced hc ms
  obtain ⟨hend', hcb', hledger'⟩ := moves_synced (hc.iterated order) ms'
  have hrows : Ledger.move (cfg.iterated order) c.world.sendCb = Ledger.move cfg c.world.sendCb :=
    rfl
  refine Synced.sameOutcome hend ⟨hend'.inv.iterated cfg.order, hend'.views⟩
    (hcb.trans hcb'.symm) ?_
  rw [hledger, hledger', hrows]
  refine hperm.foldl_eq' (fun m hm m' hm' t => ?_) c.ledger
  by_cases hid : m.1 = m'.1
  · rw [List.inj_on_of_nodup_map hnodup hm hm' hid]
  · exact Ledger.move_comm cfg _ t hid

end ViewWorld

/-- **Moves of different entities commute.** In every state reached with
fresh adds, the two orders of two moves leave the same entity table, the
same sets in every sector and, for every player, the same view; and so do
any two orders of any number of moves of different entities, such as one
pass of `tick_players` makes. Either order may meet the hash containers in
iteration orders of its own. -/
theorem moves_commute (cfg : AoiConfig P) (order : Nat → AoiOrder) (sendCb : Bool)
    (l : List (ViewWorld P × AoiOp P)) (c : ViewWorld P) (r : Run (viewSystem cfg sendCb) l c) :
    (∀ a b, a ≠ b → ∀ p q : P,
      ((c.call cfg (.moveEntity a p)).call cfg (.moveEntity b q)).SameOutcome
        ((c.call (cfg.iterated order) (.moveEntity b q)).call (cfg.iterated order)
          (.moveEntity a p))) ∧
    (∀ ms ms' : List (EntityId × P), (ms.map Prod.fst).Nodup → ms.Perm ms' →
      (c.moves cfg ms).SameOutcome (c.moves (cfg.iterated order) ms')) := by
  have hc := viewSystem_synced r
  constructor
  · intro a b hab p q
    have hnodup : ([(a, p), (b, q)].map Prod.fst).Nodup := by simpa using hab
    exact ViewWorld.moves_perm hc order hnodup (List.Perm.swap _ _ _)
  · intro ms ms' hnodup hperm
    exact ViewWorld.moves_perm hc order hnodup hperm

/-- Every container iterated the other way round. -/
def AoiOrder.reverse (ord : AoiOrder) : AoiOrder where
  entities c := (ord.entities c).reverse
  watchers c := (ord.watchers c).reverse
  subscribed := ord.subscribed.reverse
  newSet := ord.newSet.reverse

/-- Player 7 walks out of sight of monster 9, which walks after it: it
finds it again by an Enter in one order and by a Snapshot in the other,
where the containers are iterated backwards. -/
theorem moves_commute_grid :
    let c := gridCalls.foldl (ViewWorld.call gridConfig) { world := { sendCb := true } }
    let backwards := gridConfig.iterated fun n => (gridConfig.order n).reverse
    ((c.call gridConfig (.moveEntity 7 (4, 4))).call gridConfig (.moveEntity 9 (5, 5))).SameOutcome
      ((c.call backwards (.moveEntity 9 (5, 5))).call backwards (.moveEntity 7 (4, 4))) := by
  have r₀ : Run (viewSystem gridConfig true) [] _ := .start rfl
  have r := (r₀.next (.addEntity 7 true (0, 0)) ⟨rfl, rfl⟩).next
    (.addEntity 9 false (1, 1)) ⟨rfl, rfl⟩
  exact (moves_commute gridConfig _ true _ _ r).1 7 9 (by decide) (4, 4) (5, 5)

end MmorpgServer.Field
