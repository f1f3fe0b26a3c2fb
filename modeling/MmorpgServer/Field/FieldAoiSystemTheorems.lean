/-
MmorpgServer.Field.FieldAoiSystemTheorems — when the broadcast table of
the field agrees with the index.

The table is event-sourced, so it is right as long as every change of
visibility produces an event. One does not: a player that is removed
stops seeing its surroundings without any Leave (`AoiWorld.removeEntity`
drops its watcher entries silently), while the sibling path, a player
walking away, is reported subject by subject. `table_agrees_iff` says
that this is the only way to break the table.
-/
import MmorpgServer.Field.FieldAoiSystem
import MmorpgServer.Field.AoiReplica

namespace MmorpgServer.Field

open MmorpgServer.Lib

variable {P : Type}

namespace FieldAoiSystem

/-! ## The table, one entry at a time -/

theorem forEachWatcher_callback (f : FieldAoiSystem P) (d : Delivery P) (s : EntityId) :
    (f.callback d).1.forEachWatcher s =
      if s = d.ev.subjectId then updateVec (f.forEachWatcher s) d.watcherId d.ev.type
      else f.forEachWatcher s := by
  by_cases hs : s = d.ev.subjectId
  · subst hs
    simp only [forEachWatcher, callback, Function.update_self, if_true]
    cases f.watchers d.ev.subjectId <;> rfl
  · simp only [forEachWatcher, callback, Function.update_of_ne hs, if_neg hs]

theorem updateVec_nodup {vec : List EntityId} (h : vec.Nodup) (v : EntityId)
    (t : AoiEventType) : (updateVec vec v t).Nodup := by
  cases t with
  | leave => exact h.erase v
  | enter | move | snapshot =>
    simp only [updateVec]
    split
    · exact h
    · rename_i hv
      rw [List.nodup_append]
      exact ⟨h, List.nodup_singleton v, fun a ha b hb => by
        rintro rfl
        exact hv (List.mem_singleton.mp hb ▸ ha)⟩

/-- An event puts its watcher in the vector or takes it out; the other
entries stay. -/
theorem mem_updateVec {vec : List EntityId} (h : vec.Nodup) (v x : EntityId) (ev : AoiEvent P) :
    decide (v ∈ updateVec vec x ev.type) =
      if x = v then ev.update.mark else decide (v ∈ vec) := by
  obtain ⟨t, subjectId, position⟩ := ev
  by_cases hx : x = v
  · subst hx
    rw [if_pos rfl]
    cases t with
    | leave => simp [updateVec, AoiEvent.update, Update.mark, h.mem_erase_iff]
    | enter | move | snapshot =>
      simp only [updateVec, AoiEvent.update, Update.mark]
      split
      · rename_i hin; simp [hin]
      · simp
  · rw [if_neg hx]
    cases t with
    | leave => simp [updateVec, h.mem_erase_iff, Ne.symm hx]
    | enter | move | snapshot =>
      simp only [updateVec]
      split
      · rfl
      · simp [Ne.symm hx]

/-- Every vector of the table is free of repetitions. -/
def TableNodup (f : FieldAoiSystem P) : Prop := ∀ s, (f.forEachWatcher s).Nodup

theorem callback_nodup {f : FieldAoiSystem P} (h : f.TableNodup) (d : Delivery P) :
    (f.callback d).1.TableNodup := by
  intro s
  rw [forEachWatcher_callback]
  split
  · exact updateVec_nodup (h s) _ _
  · exact h s

theorem handle_aoi (f : FieldAoiSystem P) (r : AoiWorld P × List (Delivery P)) :
    (f.handle r).1.aoi = r.1 :=
  emitLoop_state (I := fun g : FieldAoiSystem P => g.aoi = r.1) (fun _ _ h => h) rfl r.2

theorem handle_flags (f : FieldAoiSystem P) (r : AoiWorld P × List (Delivery P)) :
    (f.handle r).1.initialized = f.initialized ∧ (f.handle r).1.sendFunc = f.sendFunc :=
  emitLoop_state (f := callback) (I := fun g : FieldAoiSystem P =>
    g.initialized = f.initialized ∧ g.sendFunc = f.sendFunc) (fun _ _ h => h)
    (s := { f with aoi := r.1 }) ⟨rfl, rfl⟩ r.2

/-- An initialised field hands every event on, any other none. -/
theorem handle_snd (f : FieldAoiSystem P) (r : AoiWorld P × List (Delivery P)) :
    (f.handle r).2 = if f.initialized && f.sendFunc then r.2 else [] := by
  have hout := emitLoop_output (f := callback) (I := fun g : FieldAoiSystem P =>
      g.initialized = f.initialized ∧ g.sendFunc = f.sendFunc)
    (g := fun d => if f.initialized && f.sendFunc then [d] else []) (fun _ _ h => h) ?_
    (s := { f with aoi := r.1 }) ⟨rfl, rfl⟩ r.2
  · rw [handle, hout]
    cases f.initialized && f.sendFunc <;> simp
  · rintro g d ⟨hi, hs⟩
    simp only [callback, hi, hs]
    cases f.initialized <;> cases f.sendFunc <;> rfl

theorem handle_nodup {f : FieldAoiSystem P} (h : f.TableNodup)
    (r : AoiWorld P × List (Delivery P)) : (f.handle r).1.TableNodup :=
  emitLoop_state (I := TableNodup) (fun _ d hg => callback_nodup hg d)
    (show TableNodup { f with aoi := r.1 } from h) r.2

/-- Whether `v` is listed under `s` after a stream of events is decided by
what `v` heard about `s`. -/
theorem mem_emitLoop_callback {f : FieldAoiSystem P} (h : f.TableNodup) (L : List (Delivery P))
    {v s : EntityId} (hvs : v ≠ s) :
    decide (v ∈ (emitLoop callback f L).1.forEachWatcher s) =
      Update.markAll (heard v s L) (decide (v ∈ f.forEachWatcher s)) := by
  induction L generalizing f with
  | nil => rfl
  | cons d L ih =>
    have hcons : heard v s (d :: L) = heard v s [d] ++ heard v s L := heard_append v s [d] L
    rw [emitLoop, ih (callback_nodup h d), hcons, heard_singleton hvs, forEachWatcher_callback]
    by_cases hs : s = d.ev.subjectId
    · rw [if_pos hs, mem_updateVec (h s)]
      by_cases hv : d.watcherId = v
      · rw [if_pos hv, if_pos ⟨hv, hs.symm⟩]
        rfl
      · rw [if_neg hv, if_neg (fun hh => hv hh.1)]
        rfl
    · rw [if_neg hs, if_neg (fun hh => hs hh.2.symm)]
      rfl

theorem mem_handle {f : FieldAoiSystem P} (h : f.TableNodup)
    (r : AoiWorld P × List (Delivery P)) {v s : EntityId} (hvs : v ≠ s) :
    decide (v ∈ (f.handle r).1.forEachWatcher s) =
      Update.markAll (heard v s r.2) (decide (v ∈ f.forEachWatcher s)) :=
  mem_emitLoop_callback (show TableNodup { f with aoi := r.1 } from h) r.2 hvs

end FieldAoiSystem

/-! ## Runs of the field's index -/

/-- A call of one of the wrapper's operations. -/
inductive FieldAoiOp (P : Type) where
  | addEntity (id : EntityId) (isPlayer : Bool) (pos : P)
  | moveEntity (id : EntityId) (pos : P)
  | removeEntity (id : EntityId)

/-- The call of the index it makes. -/
def FieldAoiOp.toAoi : FieldAoiOp P → AoiOp P
  | .addEntity id isPlayer pos => .addEntity id isPlayer pos
  | .moveEntity id pos => .moveEntity id pos
  | .removeEntity id => .removeEntity id

/-- The id whose row of the table the call erases. -/
def FieldAoiOp.erased : FieldAoiOp P → Option EntityId
  | .removeEntity id => some id
  | _ => none

/-- `v` is a registered player that has the sector of the registered
subject `s` in its view window. -/
def Watches (cfg : AoiConfig P) (w : AoiWorld P) (v s : EntityId) : Prop :=
  v ≠ s ∧ ∃ ev es, w.entities v = some ev ∧ ev.isPlayer = true ∧ w.entities s = some es ∧
    es.sector ∈ cfg.viewWindow ev.sector

/-- The call does not remove a player that still sees something. -/
def FieldAoiOp.NoBlindExit (cfg : AoiConfig P) (w : AoiWorld P) : FieldAoiOp P → Prop
  | .removeEntity id => ∀ s, ¬ Watches cfg w id s
  | _ => True

theorem watches_iff {cfg : AoiConfig P} {w : AoiWorld P} {v s : EntityId} :
    Watches cfg w v s ↔ (w.seen cfg v s).isSome = true := by
  unfold Watches AoiWorld.seen
  by_cases hvs : v = s
  · simp [hvs]
  · rw [if_neg hvs]
    cases w.entities v with
    | none => simp
    | some ev =>
      cases w.entities s with
      | none => simp
      | some es =>
        constructor
        · rintro ⟨-, _, _, hev, hp, hes, hsec⟩
          cases hev
          cases hes
          simp [hp, hsec]
        · intro h
          by_cases hin : ev.isPlayer = true ∧ es.sector ∈ cfg.viewWindow ev.sector
          · exact ⟨hvs, ev, es, rfl, hin.1, rfl, hin.2⟩
          · simp [hin] at h

namespace FieldAoiSystem

/-- The call, made. -/
def call (cfg : AoiConfig P) (f : FieldAoiSystem P) :
    FieldAoiOp P → FieldAoiSystem P × List (Delivery P)
  | .addEntity id isPlayer pos => f.addEntity cfg id isPlayer pos
  | .moveEntity id pos => f.moveEntity cfg id pos
  | .removeEntity id => f.removeEntity cfg id

/-- The broadcast table agrees with the index: for a registered subject
`fn` is called once with each other player watching it, and with no one
else but possibly the subject. -/
def TableAgrees (cfg : AoiConfig P) (f : FieldAoiSystem P) : Prop :=
  ∀ s, f.aoi.entities s ≠ none → ∀ v, v ≠ s →
    (Watches cfg f.aoi v s → (f.forEachWatcher s).count v = 1) ∧
    (¬ Watches cfg f.aoi v s → v ∉ f.forEachWatcher s)

/-- The invariant: the table lists who sees a subject, once. -/
structure Mirrors (cfg : AoiConfig P) (f : FieldAoiSystem P) : Prop where
  inv : f.aoi.Inv cfg
  sendCb : f.aoi.sendCb = true
  nodup : f.TableNodup
  entries : ∀ v s, v ≠ s → decide (v ∈ f.forEachWatcher s) = (f.aoi.seen cfg v s).isSome

theorem call_eq (cfg : AoiConfig P) (f : FieldAoiSystem P) (op : FieldAoiOp P) :
    (f.call cfg op).1.aoi = (f.aoi.call cfg op.toAoi).1 ∧
    ∀ s, (f.call cfg op).1.forEachWatcher s =
      if op.erased = some s then []
      else (f.handle (f.aoi.call cfg op.toAoi)).1.forEachWatcher s := by
  cases op with
  | addEntity id isPlayer pos => exact ⟨handle_aoi f _, fun s => rfl⟩
  | moveEntity id pos => exact ⟨handle_aoi f _, fun s => rfl⟩
  | removeEntity id =>
    refine ⟨handle_aoi f _, fun s => ?_⟩
    by_cases hs : id = s
    · subst hs
      simp [call, removeEntity, forEachWatcher, FieldAoiOp.erased]
    · rw [if_neg (by exact fun h => hs (Option.some.inj h))]
      simp only [call, removeEntity, forEachWatcher, Function.update_of_ne (Ne.symm hs)]
      rfl

theorem call_flags (cfg : AoiConfig P) (f : FieldAoiSystem P) (op : FieldAoiOp P) :
    (f.call cfg op).1.initialized = f.initialized ∧ (f.call cfg op).1.sendFunc = f.sendFunc := by
  cases op with
  | addEntity id isPlayer pos => exact handle_flags f _
  | moveEntity id pos => exact handle_flags f _
  | removeEntity id => exact handle_flags f _

theorem call_snd (cfg : AoiConfig P) (f : FieldAoiSystem P) (op : FieldAoiOp P) :
    (f.call cfg op).2 =
      if f.initialized && f.sendFunc then (f.aoi.call cfg op.toAoi).2 else [] := by
  cases op with
  | addEntity id isPlayer pos => exact handle_snd f _
  | moveEntity id pos => exact handle_snd f _
  | removeEntity id => exact handle_snd f _

/-- Unless a player leaves while it sees something, all that changes in
what `v` sees of `s` is reported. -/
theorem call_diff {cfg : AoiConfig P} {f : FieldAoiSystem P} (hf : f.Mirrors cfg)
    {op : FieldAoiOp P} (hfresh : op.toAoi.Fresh f.aoi) {v s : EntityId} (hvs : v ≠ s)
    (hexit : op = .removeEntity v → ¬ Watches cfg f.aoi v s) :
    Diff (f.aoi.seen cfg v s) ((f.aoi.call cfg op.toAoi).1.seen cfg v s)
      (heard v s (f.aoi.call cfg op.toAoi).2) := by
  have hd := AoiWorld.call_diff hf.inv hf.sendCb hfresh hvs
  by_cases hsession : op.toAoi.session = some v
  · have hblind : f.aoi.seen cfg v s = none := by
      cases op with
      | addEntity id isPlayer pos =>
        obtain rfl : id = v := Option.some.inj hsession
        exact AoiWorld.seen_of_unregistered hfresh s
      | moveEntity id pos => cases hsession
      | removeEntity id =>
        obtain rfl : id = v := Option.some.inj hsession
        have hnot := hexit rfl
        rw [watches_iff] at hnot
        simpa using hnot
    rw [if_pos hsession] at hd
    rw [hblind]
    exact hd
  · rw [if_neg hsession] at hd
    exact hd

theorem call_mirrors {cfg : AoiConfig P} {f : FieldAoiSystem P} (hf : f.Mirrors cfg)
    {op : FieldAoiOp P} (hfresh : op.toAoi.Fresh f.aoi) (hexit : op.NoBlindExit cfg f.aoi) :
    (f.call cfg op).1.Mirrors cfg := by
  obtain ⟨haoi, htable⟩ := call_eq cfg f op
  refine ⟨?_, ?_, ?_, ?_⟩
  · rw [haoi]
    exact AoiWorld.call_inv hf.inv hfresh
  · rw [haoi, AoiWorld.call_sendCb]
    exact hf.sendCb
  · intro s
    rw [htable]
    split
    · exact List.nodup_nil
    · exact handle_nodup hf.nodup _ s
  · intro v s hvs
    have hd : Diff _ _ _ := call_diff hf hfresh hvs fun h => by subst h; exact hexit s
    rw [htable, haoi]
    split
    · -- the subject itself is gone
      rename_i hop
      cases op with
      | addEntity id isPlayer pos => cases hop
      | moveEntity id pos => cases hop
      | removeEntity id =>
        obtain rfl : id = s := Option.some.inj hop
        have hgone : (f.aoi.removeEntity cfg id).1.entities id = none := by
          cases he : f.aoi.entities id with
          | none => rw [AoiWorld.removeEntity_of_none he]; exact he
          | some e => rw [AoiWorld.removeEntity_entities he, Function.update_self]
        show _ = ((f.aoi.removeEntity cfg id).1.seen cfg v id).isSome
        rw [AoiWorld.seen, if_neg hvs, hgone]
        cases (f.aoi.removeEntity cfg id).1.entities v <;> simp
    · rw [mem_handle hf.nodup _ hvs, hf.entries v s hvs, Update.markAll_isSome hd.legal, hd.result]

theorem agrees_of_mirrors {cfg : AoiConfig P} {f : FieldAoiSystem P} (hf : f.Mirrors cfg) :
    f.TableAgrees cfg := by
  intro s _ v hvs
  have hentry := hf.entries v s hvs
  rw [watches_iff, ← hentry]
  constructor
  · intro h
    exact List.count_eq_one_of_mem (hf.nodup s) (by simpa using h)
  · intro h
    simpa using h

/-- A player that is removed while it sees something stays listed. -/
theorem blind_exit_breaks {cfg : AoiConfig P} {f : FieldAoiSystem P} (hf : f.Mirrors cfg)
    {op : FieldAoiOp P} (hexit : ¬ op.NoBlindExit cfg f.aoi) :
    ¬ (f.call cfg op).1.TableAgrees cfg := by
  cases op with
  | addEntity id isPlayer pos => exact absurd trivial hexit
  | moveEntity id pos => exact absurd trivial hexit
  | removeEntity v =>
    obtain ⟨haoi, htable⟩ := call_eq cfg f (.removeEntity v)
    obtain ⟨s, hw⟩ : ∃ s, Watches cfg f.aoi v s := by
      by_contra hno
      exact hexit fun s hs => hno ⟨s, hs⟩
    obtain ⟨hvs, ev, es, hev, -, hes, -⟩ := id hw
    -- the world after the call, and what the removed player heard in it
    have hent : (f.aoi.call cfg (FieldAoiOp.removeEntity v).toAoi).1.entities =
        Function.update f.aoi.entities v none := AoiWorld.removeEntity_entities hev
    have hquiet : heard v s (f.aoi.call cfg (FieldAoiOp.removeEntity v).toAoi).2 = [] := by
      show heard v s (f.aoi.removeEntity cfg v).2 = []
      rw [AoiWorld.removeEntity_heard hf.sendCb hev hvs, if_neg fun h => hvs h.1]
    have hlisted : v ∈ (f.call cfg (.removeEntity v)).1.forEachWatcher s := by
      have hmem := mem_handle hf.nodup (f.aoi.call cfg (FieldAoiOp.removeEntity v).toAoi) hvs
      rw [hquiet, hf.entries v s hvs, watches_iff.mp hw] at hmem
      rw [htable, if_neg (by exact fun h => hvs (Option.some.inj h))]
      exact of_decide_eq_true hmem
    intro hagrees
    have hs := hagrees s (by rw [haoi, hent, Function.update_of_ne (Ne.symm hvs), hes]; simp) v hvs
    refine hs.2 ?_ hlisted
    rintro ⟨-, ev', -, hev', -⟩
    rw [haoi, hent, Function.update_self] at hev'
    cases hev'

end FieldAoiSystem

/-- The field's index under any sequence of calls after `setSendFunc`. -/
def fieldAoiSystem (cfg : AoiConfig P) : System (FieldAoiSystem P) (FieldAoiOp P) :=
  .ofFn ({} : FieldAoiSystem P).setSendFunc (fun f op => op.toAoi.Fresh f.aoi)
    (fun f op => (f.call cfg op).1)

/-- **When the broadcast table agrees with the index.** In a run the table
agrees with the index in every state exactly when no call removes a
player that has another registered entity in its view window. -/
theorem table_agrees_iff (cfg : AoiConfig P) (l : List (FieldAoiSystem P × FieldAoiOp P))
    (f : FieldAoiSystem P) (r : Run (fieldAoiSystem cfg) l f) :
    ((∀ p ∈ l, p.1.TableAgrees cfg) ∧ f.TableAgrees cfg) ↔
      ∀ p ∈ l, p.2.NoBlindExit cfg p.1.aoi := by
  refine r.good_iff_steps (I := FieldAoiSystem.Mirrors cfg)
    (P := fun f op => op.NoBlindExit cfg f.aoi) ?_ ?_ ?_ ?_
  · rintro f rfl
    refine ⟨AoiWorld.inv_empty cfg true, rfl, fun s => List.nodup_nil, fun v s hvs => ?_⟩
    rw [AoiWorld.seen_of_unregistered rfl]
    rfl
  · rintro f op f' hf hexit ⟨hfresh, rfl⟩
    exact FieldAoiSystem.call_mirrors hf hfresh hexit
  · exact fun f hf => FieldAoiSystem.agrees_of_mirrors hf
  · rintro f op f' hf hexit ⟨-, rfl⟩
    exact FieldAoiSystem.blind_exit_breaks hf hexit

/-- Player 7 and monster 9 next to it: the table agrees throughout. -/
theorem table_agrees_grid :
    ((({} : FieldAoiSystem (Int × Int)).setSendFunc.call gridConfig
      (.addEntity 7 true (0, 0))).1.call gridConfig
      (.addEntity 9 false (1, 1))).1.TableAgrees gridConfig := by
  have r₀ : Run (fieldAoiSystem gridConfig) [] _ := .start rfl
  have r := (r₀.next (.addEntity 7 true (0, 0)) ⟨rfl, rfl⟩).next
    (.addEntity 9 false (1, 1)) ⟨rfl, rfl⟩
  refine ((table_agrees_iff gridConfig _ _ r).mpr fun p hp => ?_).2
  simp only [List.mem_cons, List.not_mem_nil, or_false] at hp
  rcases hp with rfl | rfl <;> trivial

/-- Once player 7 is removed, broadcasts about monster 9 still go to it. -/
theorem removed_player_still_listed :
    ¬ ∀ (P : Type) (cfg : AoiConfig P) (l : List (FieldAoiSystem P × FieldAoiOp P))
      (f : FieldAoiSystem P), Run (fieldAoiSystem cfg) l f → f.TableAgrees cfg := by
  intro hall
  have r₀ : Run (fieldAoiSystem gridConfig) [] _ := .start rfl
  have r := ((r₀.next (.addEntity 7 true (0, 0)) ⟨rfl, rfl⟩).next
    (.addEntity 9 false (1, 1)) ⟨rfl, rfl⟩).next (.removeEntity 7) ⟨trivial, rfl⟩
  refine (hall _ gridConfig _ _ r 9 (by rintro ⟨⟩) 7 (by decide)).2 ?_ ?_
  · rintro ⟨-, ev, -, hev, -⟩
    cases hev
  · decide

end MmorpgServer.Field
