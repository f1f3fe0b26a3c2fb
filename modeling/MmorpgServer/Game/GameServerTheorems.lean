/-
MmorpgServer.Game.GameServerTheorems — where a player is registered.

`Tables` is the server as far as players are concerned, `TableEvent` what
a step can do to it: `step_tables` is the refinement, and everything else
is proved of events.

* A player, once created, stays in `PlayerManager`: nothing takes it out.
  A closed session is therefore cleaned up exactly when it has never
  logged in (`cleaned_up_iff`).
* `OnRecv_EnterField` does not ask whether its player is in a field
  already, and the state that would keep a second request away is read
  when the request arrives, not when it is handled. A player stays in at
  most one field exactly when no such request is handled
  (`one_field_iff`).
* `manager_shows_bindings` — the binding of the model is what the tables
  of the session manager say.
-/
import MmorpgServer.Game.GameServer
import MmorpgServer.Net.SessionManagerTheorems
import MmorpgServer.Worker.ClientViewTheorems

namespace MmorpgServer.Game

open MmorpgServer.Lib MmorpgServer.Field MmorpgServer.Net MmorpgServer.Worker Scalar

/-! ## Tables and events -/

/-- The tables a player is registered in. -/
structure Tables where
  pm : PlayerManager SessionId
  objects : EntityId → Option (Player SessionId)
  playerCount : Nat
  bindings : EntityId → Option SessionId
  fieldIdOf : EntityId → FieldId
  fieldUp : FieldId → Bool
  /-- the player is in `players_` of the field's worker -/
  housed : EntityId → FieldId → Prop
  added : EntityId → Nat
  pc : GamePc

/-- What a step does to the tables. -/
inductive TableEvent where
  | quiet
  | unbind (s : SessionId)
  | create (s : SessionId) (userId : String)
  | name
  | bind
  | enter (s : SessionId) (fieldId : UInt32)
  | accept
  | add

variable {K : Type} [Scalar K]

def Tables.apply (cfg : ServerConfig K) (T : Tables) : TableEvent → Tables
  | .quiet => T
  | .unbind s =>
    { T with bindings := fun pid => if T.bindings pid = some s then none else T.bindings pid }
  | .create s userId =>
    let pid := cfg.nextPlayerId T.playerCount
    let r := T.pm.createPlayer pid userId (some s)
    { T with
      pm := r.1
      objects := Function.update T.objects pid (some r.2)
      playerCount := T.playerCount + 1
      fieldIdOf := Function.update T.fieldIdOf pid 0
      pc := .created s pid userId }
  | .name =>
    match T.pc with
    | .created s pid userId => { T with pc := .named s pid userId }
    | _ => T
  | .bind =>
    match T.pc with
    | .named s pid _ =>
      { T with bindings := Function.update T.bindings pid (some s), pc := .idle }
    | _ => T
  | .enter s fieldId =>
    match T.pm.getBySession (some s) with
    | none => T
    | some p =>
      let T := { T with fieldIdOf := Function.update T.fieldIdOf p.id fieldId.toInt32 }
      if T.fieldUp fieldId.toInt32 || cfg.storage then
        { T with
          fieldUp := Function.update T.fieldUp fieldId.toInt32 true
          pc := .prepared s p.id fieldId }
      else { T with pc := .idle }
  | .accept =>
    match T.pc with
    | .prepared s pid fieldId => { T with pc := .inField s pid fieldId }
    | _ => T
  | .add =>
    match T.pc with
    | .inField _ pid fieldId =>
      { T with
        housed := fun i f => T.housed i f ∨ (i = pid ∧ f = fieldId.toInt32 ∧ T.fieldUp f = true)
        added := Function.update T.added pid (T.added pid + 1)
        pc := .idle }
    | _ => T

namespace GameServer

/-- The tables of a server. -/
def tables (st : GameServer K) : Tables where
  pm := st.pm
  objects := st.objects
  playerCount := st.playerCount
  bindings := st.sessionsByPlayerId
  fieldIdOf := st.fieldIdOf
  fieldUp f := (st.fields f).isSome
  housed pid f := ∃ fw, st.fields f = some fw ∧ pid ∈ fw.players
  added := st.added
  pc := st.pc

/-- The event of the game worker taking up a message. -/
def messageEvent (msg : NetMessage) : TableEvent :=
  match msg.request with
  | .login userId token =>
    if userId.getD "" = "" ∨ token.getD "" = "" then .quiet
    else .create msg.session (userId.getD "")
  | .enterField fieldId => .enter msg.session fieldId
  | _ => .quiet

/-- The event of a step. -/
def event (st : GameServer K) : ServerAction K → TableEvent
  | .onClosed s => .unbind s
  | .gameWorker =>
    match st.pc with
    | .idle =>
      match st.queue with
      | [] => .quiet
      | msg :: _ => messageEvent msg
    | .created _ _ _ => .name
    | .named _ _ _ => .bind
    | .prepared _ _ _ => .accept
    | .inField _ _ _ => .add
  | _ => .quiet

/-! ## The refinement -/

section

omit [Scalar K]

@[simp] theorem sendPayload_tables (st : GameServer K) (s : SessionId) (ack : Ack) :
    (st.sendPayload s ack).tables = st.tables := by
  unfold sendPayload
  split
  · split <;> rfl
  · rfl

@[simp] theorem sendToFieldWorker_tables (st : GameServer K) (f : FieldId) (s : SessionId) :
    (st.sendToFieldWorker f s).tables = st.tables := by
  unfold sendToFieldWorker
  split <;> rfl

theorem onRead_tables (st : GameServer K) (s : SessionId) (f : Frame) :
    (st.onRead s f).tables = st.tables := by
  unfold onRead
  split
  · rfl
  · split
    · split <;> rfl
    · simp
    · rfl

end

/-- On its own thread a field worker adds and removes no player. -/
theorem ownThread_players (cfg : FieldConfig K) (fw : FieldWorker K) {a : FieldAction K}
    (ha : OwnThread a) : (fw.step cfg a).players = fw.players := by
  have henv (P : Finset EntityId) :
      (FieldWorker.env cfg).Keeps (fun _ => True) fun fw : FieldWorker K => fw.players = P :=
    { toQuiet := FieldWorker.env_quiet cfg (fun _ _ _ _ h => h) (fun _ _ _ _ _ h => h) fun _ _ h => h
      moveInAoi := fun _ _ _ _ _ h => h
      spawnInAoi := fun _ _ _ _ _ h => h
      removeFromAoi := fun _ _ _ h => h }
  have hstable (P : Finset EntityId) :
      FieldWorker.Stable cfg fun fw : FieldWorker K => fw.players = P :=
    { setPlayer := fun _ _ _ h => h
      setClocks := fun _ _ _ _ h => h
      broadcastPlayerState := fun fw pid st h => by
        simpa [FieldWorker.broadcastPlayerState, FieldWorker.broadcastAiState,
          FieldWorker.broadcast_eq, FieldWorker.emit] using h
      mark := fun fw source pid h => by
        unfold FieldWorker.writePlayerRtEnqueue
        split <;> exact h
      aoiMove := fun _ _ _ h => h }
  cases a with
  | moveInput session entityId dir =>
    exact (hstable fw.players).onClientMoveInput session entityId dir rfl
  | updateWorld policy dt =>
    refine (hstable fw.players).updateWorld policy (fun fw' h => ?_) dt rfl
    exact (henv fw.players).update policy monsterStep (fun _ _ => trivial) h
  | skill session targetId =>
    cases session with
    | none => rfl
    | some pid =>
      have hb := (hstable fw.players).broadcastPlayerState fw pid .attack rfl
      have hattack := (henv fw.players).playerAttackMonster targetId
        (fw.broadcastPlayerState pid .attack).monsterWorld.monsters (fun _ _ => trivial) hb
      refine iteInduction (motive := fun x : FieldWorker K => x.players = fw.players)
        (fun _ => ?_) fun _ => hattack
      simpa [FieldWorker.broadcastAiState, FieldWorker.broadcast_eq, FieldWorker.emit] using hattack
  | addPlayer | removePlayer | setSession | setRegistered => exact ha.elim

omit [Scalar K] in
/-- A field worker at work, with what its work does to `players_`. -/
theorem onField_tables (st : GameServer K) (fieldId : FieldId)
    (f : FieldWorker K → FieldWorker K) (P : Finset EntityId → Finset EntityId)
    (hf : ∀ fw, (f fw).players = P fw.players) :
    (st.onField fieldId f).tables = { st.tables with
      housed := fun pid g => ∃ fw, st.fields g = some fw ∧
        pid ∈ if g = fieldId then P fw.players else fw.players } := by
  unfold onField
  cases hfw : st.fields fieldId with
  | none =>
    simp only [tables, Tables.mk.injEq, true_and, and_true]
    funext pid g
    by_cases hg : g = fieldId
    · simp [hg, hfw]
    · simp [hg]
  | some fw =>
    simp only [tables, Tables.mk.injEq, true_and, and_true]
    constructor
    · funext g
      by_cases hg : g = fieldId
      · simp [hg, hfw]
      · simp [hg]
    · funext pid g
      by_cases hg : g = fieldId
      · subst hg
        simp [hfw, hf, attach]
      · simp [hg]

theorem fieldWorker_tables (st : GameServer K) (cfg : FieldConfig K) (fieldId : FieldId)
    {a : FieldAction K} (ha : OwnThread a) :
    (st.onField fieldId fun fw => fw.step cfg a).tables = st.tables := by
  rw [onField_tables st fieldId _ id fun fw => ownThread_players cfg fw ha]
  simp [tables]

theorem addPlayer_tables (cfg : ServerConfig K) (st : GameServer K) (fieldId : FieldId)
    (pid : EntityId) : (st.addPlayer cfg fieldId pid).tables = { st.tables with
      housed := fun i f => st.tables.housed i f ∨
        (i = pid ∧ f = fieldId ∧ st.tables.fieldUp f = true)
      added := Function.update st.added pid (st.added pid + 1) } := by
  have h := onField_tables st fieldId
    (fun fw => fw.addPlayer (cfg.field fieldId) pid (st.playerData pid)) (insert pid)
    fun fw => (FieldWorker.addPlayer_frame _ fw pid _).1
  simp only [tables, Tables.mk.injEq] at h
  obtain ⟨hpm, hobj, hcount, hbind, hid, hup, hhoused, hadded, hpc⟩ := h
  simp only [addPlayer, tables, Tables.mk.injEq]
  refine ⟨hpm, hobj, hcount, hbind, hid, hup, ?_, by rw [hadded], hpc⟩
  rw [hhoused]
  funext i f
  by_cases hf : f = fieldId
  · subst hf
    cases hfw : st.fields f with
    | none => simp
    | some fw => simp [or_comm]
  · simp [hf]

/-- `create_field`: nothing new, refused, or a field without players. -/
theorem createField_tables (cfg : ServerConfig K) (st : GameServer K) (f : FieldId) :
    (createField cfg st f).2 = (st.tables.fieldUp f || cfg.storage) ∧
      (createField cfg st f).1.tables = { st.tables with
        fieldUp := if st.tables.fieldUp f || cfg.storage then
          Function.update st.tables.fieldUp f true else st.tables.fieldUp } := by
  unfold createField
  cases hfw : st.fields f with
  | some fw =>
    have hup : Function.update (fun g => (st.fields g).isSome) f true =
        fun g => (st.fields g).isSome := by
      rw [Function.update_eq_self_iff]
      simp [hfw]
    simp [tables, hfw, hup]
  | none =>
    cases hs : cfg.storage with
    | false => simp [tables, hfw]
    | true =>
      obtain ⟨-, hempty, -⟩ := FieldWorker.construct_start (cfg.field f) st.playerData false
        (if f = 1000 then FieldWorker.spawnMonstersEvenGrid cfg.makeDatabaseID else [])
      simp only [tables, Option.isSome_none, Bool.false_eq_true, if_false, Bool.not_true,
        Bool.or_true, if_true, Tables.mk.injEq, true_and, and_true]
      constructor
      · funext g
        by_cases hg : g = f <;> simp [hg]
      · funext pid g
        by_cases hg : g = f
        · subst hg
          simp [hfw, hempty]
        · simp [hg]

theorem onRecvEnterField_tables (cfg : ServerConfig K) {st : GameServer K} (hpc : st.pc = .idle)
    (s : SessionId) (fieldId : UInt32) :
    (st.onRecvEnterField cfg s fieldId).tables = st.tables.apply cfg (.enter s fieldId) := by
  simp only [onRecvEnterField, Tables.apply, show st.tables.pm = st.pm from rfl]
  cases hp : st.pm.getBySession (some s) with
  | none => rfl
  | some p =>
    -- the rest of the handler, from the state with the player prepared
    have hrest : ∀ st₁ : GameServer K, st₁.tables = { st.tables with
        fieldIdOf := Function.update st.tables.fieldIdOf p.id fieldId.toInt32 } →
        (if !(createField cfg st₁ fieldId.toInt32).2 then (createField cfg st₁ fieldId.toInt32).1
          else { (createField cfg st₁ fieldId.toInt32).1.setSession s
            (fun sess => { sess with fieldId := fieldId.toInt32 }) with
            pc := .prepared s p.id fieldId }).tables =
        if st.tables.fieldUp fieldId.toInt32 || cfg.storage then
          { st.tables with
            fieldIdOf := Function.update st.tables.fieldIdOf p.id fieldId.toInt32
            fieldUp := Function.update st.tables.fieldUp fieldId.toInt32 true
            pc := .prepared s p.id fieldId }
        else { st.tables with
          fieldIdOf := Function.update st.tables.fieldIdOf p.id fieldId.toInt32
          pc := .idle } := by
      intro st₁ h₁
      obtain ⟨hok, htables⟩ := createField_tables cfg st₁ fieldId.toInt32
      rw [hok, h₁]
      cases hup : st.tables.fieldUp fieldId.toInt32 || cfg.storage with
      | false => simp [htables, h₁, hup, show st.tables.pc = .idle from hpc]
      | true =>
        change ({ (createField cfg st₁ fieldId.toInt32).1.tables with
          pc := .prepared s p.id fieldId } : Tables) = _
        simp [htables, h₁, hup]
    exact hrest _ rfl

theorem dispatch_tables (cfg : ServerConfig K) {st : GameServer K} (hpc : st.pc = .idle)
    (msg : NetMessage) :
    (dispatch cfg st msg).tables = st.tables.apply cfg (messageEvent msg) := by
  unfold dispatch messageEvent
  cases msg.request with
  | login userId token =>
    simp only [onRecvLogin]
    split <;> rfl
  | enterField fieldId => exact onRecvEnterField_tables cfg hpc msg.session fieldId
  | skillCmd skill targetId =>
    simp only [onRecvSkillCmd, Tables.apply]
    split
    · rfl
    · split <;> simp
  | ping => rfl
  | other => rfl

theorem gameStep_tables (cfg : ServerConfig K) (st : GameServer K) :
    (st.gameStep cfg).tables = st.tables.apply cfg (st.event .gameWorker) := by
  have hpc : st.tables.pc = st.pc := rfl
  unfold gameStep event
  cases h : st.pc with
  | idle =>
    cases hq : st.queue with
    | nil => rfl
    | cons msg queue =>
      have hpop : ({ st with queue, pc := .idle } : GameServer K).tables = st.tables := by
        simp [tables, h]
      exact (dispatch_tables cfg rfl msg).trans (by rw [hpop])
  | created s pid userId =>
    simp only [Tables.apply, hpc, h]
    rfl
  | named s pid userId =>
    change ({ ((st.bindPlayer pid s).sendPayload s (.login pid userId 1000)).tables with
      pc := .idle } : Tables) = _
    simp only [Tables.apply, hpc, h, sendPayload_tables]
    rfl
  | prepared s pid fieldId =>
    simp only [Tables.apply, hpc, h]
    rfl
  | inField s pid fieldId =>
    have hsend := sendPayload_tables st s (.enterField fieldId pid)
    have hadded : (st.sendPayload s (.enterField fieldId pid)).added = st.added :=
      congrArg Tables.added hsend
    change ({ ((st.sendPayload s (.enterField fieldId pid)).addPlayer cfg
      fieldId.toInt32 pid).tables with pc := .idle } : Tables) = _
    simp only [Tables.apply, hpc, h, addPlayer_tables, hsend, hadded]
    rfl

/-- **Refinement**: a step does to the tables what its event says. -/
theorem step_tables (cfg : ServerConfig K) (st : GameServer K) {a : ServerAction K}
    (ha : st.Allowed a) : (st.step cfg a).tables = st.tables.apply cfg (st.event a) := by
  cases a with
  | onNewConn accepted =>
    simp only [step, onNewConn]
    split <;> rfl
  | onRead s f => exact onRead_tables st s f
  | onReadError s => rfl
  | onClosed s => rfl
  | gameWorker => exact gameStep_tables cfg st
  | fieldWorker fieldId a => exact fieldWorker_tables st _ fieldId ha

end GameServer

/-! ## The invariant -/

/-- Ids in `PlayerManager` have been issued; what is bound, in a field or
being worked on is in `PlayerManager`. -/
structure Tables.Inv (cfg : ServerConfig K) (T : Tables) : Prop where
  issued : ∀ id p, T.pm.playersById id = some p →
    p.id = id ∧ ∃ n < T.playerCount, id = cfg.nextPlayerId n
  bound : ∀ pid s, T.bindings pid = some s → ∃ p, T.pm.playersById pid = some p ∧ p.session = some s
  housed : ∀ pid f, T.housed pid f → ∃ p, T.pm.playersById pid = some p
  working : ∀ s pid u, T.pc = .created s pid u ∨ T.pc = .named s pid u →
    ∃ p, T.pm.playersById pid = some p ∧ p.session = some s
  entering : ∀ s pid fieldId, T.pc = .prepared s pid fieldId ∨ T.pc = .inField s pid fieldId →
    (∃ p, T.pm.playersById pid = some p) ∧ T.fieldUp fieldId.toInt32 = true

section

omit [Scalar K]

variable {cfg : ServerConfig K} {T : Tables}

theorem Tables.Inv.next_free (h : T.Inv cfg) (hids : Function.Injective cfg.nextPlayerId) :
    T.pm.playersById (cfg.nextPlayerId T.playerCount) = none := by
  cases hp : T.pm.playersById (cfg.nextPlayerId T.playerCount) with
  | none => rfl
  | some p =>
    obtain ⟨-, n, hn, he⟩ := h.issued _ p hp
    have := hids he
    omega

/-- A registered player stays registered. -/
theorem Tables.Inv.stays (h : T.Inv cfg) (hids : Function.Injective cfg.nextPlayerId)
    (e : TableEvent) {id : EntityId} {p : Player SessionId}
    (hp : T.pm.playersById id = some p) : (T.apply cfg e).pm.playersById id = some p := by
  cases e with
  | create s userId =>
    have hne : id ≠ cfg.nextPlayerId T.playerCount := by
      rintro rfl
      simp [h.next_free hids] at hp
    simpa [Tables.apply, PlayerManager.createPlayer, hne] using hp
  | enter s fieldId =>
    simp only [Tables.apply]
    split
    · exact hp
    · split <;> exact hp
  | quiet | unbind => exact hp
  | name | bind | accept | add =>
    simp only [Tables.apply]
    split <;> exact hp

theorem Tables.getBySession_registered (h : T.Inv cfg) {s : Option SessionId}
    {p : Player SessionId} (hp : T.pm.getBySession s = some p) :
    T.pm.playersById p.id = some p := by
  unfold PlayerManager.getBySession at hp
  cases hid : T.pm.idBySession s with
  | none => simp [hid] at hp
  | some id =>
    simp only [hid] at hp
    rw [(h.issued id p hp).1]
    exact hp

theorem Tables.Inv.apply (h : T.Inv cfg) (hids : Function.Injective cfg.nextPlayerId)
    (e : TableEvent) : (T.apply cfg e).Inv cfg := by
  have hstays : ∀ id p, T.pm.playersById id = some p →
      (T.apply cfg e).pm.playersById id = some p := fun id p hp => h.stays hids e hp
  cases e with
  | quiet => exact h
  | unbind s =>
    refine ⟨h.issued, fun pid s' hb => ?_, h.housed, h.working, h.entering⟩
    simp only [Tables.apply] at hb
    split at hb
    · cases hb
    · exact h.bound pid s' hb
  | create s userId =>
    constructor
    · intro id p hp
      simp only [Tables.apply, PlayerManager.createPlayer] at hp ⊢
      by_cases hid : id = cfg.nextPlayerId T.playerCount
      · subst hid
        obtain rfl : _ = p := by simpa using hp
        exact ⟨rfl, T.playerCount, by omega, rfl⟩
      · obtain ⟨hkey, n, hn, he⟩ := h.issued id p (by simpa [hid] using hp)
        exact ⟨hkey, n, by omega, he⟩
    · intro pid s' hb
      obtain ⟨p, hp, hs⟩ := h.bound pid s' hb
      exact ⟨p, hstays pid p hp, hs⟩
    · intro pid f hf
      obtain ⟨p, hp⟩ := h.housed pid f hf
      exact ⟨p, hstays pid p hp⟩
    · intro s' pid u hpc
      simp only [Tables.apply, GamePc.created.injEq, reduceCtorEq, or_false] at hpc
      obtain ⟨rfl, rfl, rfl⟩ := hpc
      exact ⟨_, Function.update_self _ _ _, rfl⟩
    · simp [Tables.apply]
  | name =>
    simp only [Tables.apply]
    split
    · rename_i s pid u hpc
      refine ⟨h.issued, h.bound, h.housed, fun s' pid' u' hpc' => ?_, by simp⟩
      simp only [reduceCtorEq, GamePc.named.injEq, false_or] at hpc'
      obtain ⟨rfl, rfl, rfl⟩ := hpc'
      exact h.working s pid u (Or.inl hpc)
    · exact h
  | bind =>
    simp only [Tables.apply]
    split
    · rename_i s pid u hpc
      refine ⟨h.issued, fun pid' s' hb => ?_, h.housed, by simp, by simp⟩
      by_cases hpid : pid' = pid
      · subst hpid
        obtain rfl : s = s' := by simpa using hb
        exact h.working s pid' u (Or.inr hpc)
      · exact h.bound pid' s' (by simpa [hpid] using hb)
    · exact h
  | enter s fieldId =>
    simp only [Tables.apply]
    split
    · exact h
    · rename_i p hp
      split
      · refine ⟨h.issued, h.bound, h.housed, by simp, fun s' pid f hpc => ?_⟩
        simp only [GamePc.prepared.injEq, reduceCtorEq, or_false] at hpc
        obtain ⟨rfl, rfl, rfl⟩ := hpc
        exact ⟨⟨p, getBySession_registered h hp⟩, Function.update_self _ _ _⟩
      · exact ⟨h.issued, h.bound, h.housed, by simp, by simp⟩
  | accept =>
    simp only [Tables.apply]
    split
    · rename_i s pid f hpc
      refine ⟨h.issued, h.bound, h.housed, by simp, fun s' pid' f' hpc' => ?_⟩
      simp only [reduceCtorEq, GamePc.inField.injEq, false_or] at hpc'
      obtain ⟨rfl, rfl, rfl⟩ := hpc'
      exact h.entering s pid f (Or.inl hpc)
    · exact h
  | add =>
    simp only [Tables.apply]
    split
    · rename_i s pid fieldId hpc
      refine ⟨h.issued, h.bound, fun i f hf => ?_, by simp, by simp⟩
      rcases hf with hf | ⟨rfl, -, -⟩
      · exact h.housed i f hf
      · exact (h.entering s i fieldId (Or.inr hpc)).1
    · exact h

/-! ## Cleaning up after a session -/

/-- A session has left no player behind. -/
structure Tables.Without (T : Tables) (s : SessionId) : Prop where
  pm : ∀ id p, T.pm.playersById id = some p → p.session ≠ some s
  objects : ∀ id p, T.objects id = some p → p.session ≠ some s
  bindings : ∀ pid, T.bindings pid ≠ some s
  working : ∀ pid u, T.pc ≠ .created s pid u ∧ T.pc ≠ .named s pid u

/-- Only a login of the session brings it into the tables. -/
theorem Tables.Without.apply {s : SessionId} (h : T.Without s) (cfg : ServerConfig K)
    {e : TableEvent} (he : ∀ userId, e ≠ .create s userId) : (T.apply cfg e).Without s := by
  cases e with
  | quiet => exact h
  | unbind s' =>
    refine ⟨h.pm, h.objects, fun pid => ?_, h.working⟩
    simp only [Tables.apply]
    split
    · simp
    · exact h.bindings pid
  | create s' userId =>
    have hs : s' ≠ s := fun hs => he userId (hs ▸ rfl)
    have hnew {f : EntityId → Option (Player SessionId)} {pid : EntityId}
        (hf : ∀ id p, f id = some p → p.session ≠ some s) (id : EntityId) (p : Player SessionId)
        (hp : Function.update f pid
          (some (T.pm.createPlayer pid userId (some s')).2) id = some p) :
        p.session ≠ some s := by
      by_cases hid : id = pid
      · obtain rfl : _ = p := by simpa [hid] using hp
        simpa [PlayerManager.createPlayer] using hs
      · exact hf id p (by simpa [hid] using hp)
    exact ⟨hnew h.pm, hnew h.objects, h.bindings, by simp [Tables.apply, hs]⟩
  | name =>
    simp only [Tables.apply]
    split
    · rename_i s' pid u hpc
      refine ⟨h.pm, h.objects, h.bindings, fun pid' u' => ⟨by simp, ?_⟩⟩
      rintro ⟨⟩
      exact (h.working pid u).1 hpc
    · exact h
  | bind =>
    simp only [Tables.apply]
    split
    · rename_i s' pid u hpc
      refine ⟨h.pm, h.objects, fun pid' => ?_, by simp⟩
      by_cases hpid : pid' = pid
      · subst hpid
        rintro hb
        obtain rfl : s' = s := by simpa using hb
        exact (h.working pid' u).2 hpc
      · simpa [hpid] using h.bindings pid'
    · exact h
  | enter s' fieldId =>
    simp only [Tables.apply]
    split
    · exact h
    · split
      · exact ⟨h.pm, h.objects, h.bindings, by simp⟩
      · exact ⟨h.pm, h.objects, h.bindings, by simp⟩
  | accept | add =>
    simp only [Tables.apply]
    split
    · exact ⟨h.pm, h.objects, h.bindings, by simp⟩
    · exact h

end

namespace GameServer

variable {cfg : ServerConfig K}

/-- The close callback of the session has run and none of its messages is
queued. -/
def Disconnected (st : GameServer K) (s : SessionId) : Prop :=
  (∃ sess, st.sessions s = some sess ∧ sess.closed = true) ∧ ∀ msg ∈ st.queue, msg.session ≠ s

/-- No player of the session is in `PlayerManager`, in `players_` of a
field worker or in its index, and `find_by_player_id` finds it for none. -/
def CleanedUp (st : GameServer K) (s : SessionId) : Prop :=
  (∀ id p, st.pm.getById id = some p → p.session ≠ some s) ∧
  (∀ pid p, st.objects pid = some p → p.session = some s → ∀ f fw, st.fields f = some fw →
    pid ∉ fw.players ∧ fw.aoiSystem.aoi.entities pid = none) ∧
  ∀ pid, st.findByPlayerId pid ≠ some s

/-- The game worker takes up a `Login` of the session that has a user id
and a token. -/
def AcceptsLogin (st : GameServer K) (s : SessionId) : ServerAction K → Prop
  | .gameWorker => st.pc = .idle ∧ ∃ userId token queue,
      st.queue = ⟨s, .login userId token⟩ :: queue ∧ userId.getD "" ≠ "" ∧ token.getD "" ≠ ""
  | _ => False

omit [Scalar K] in
theorem acceptsLogin_iff (st : GameServer K) (s : SessionId) (a : ServerAction K) :
    st.AcceptsLogin s a ↔ ∃ userId, st.event a = .create s userId := by
  cases a with
  | gameWorker =>
    simp only [AcceptsLogin, event]
    cases st.pc with
    | idle =>
      cases st.queue with
      | nil => simp
      | cons msg queue =>
        obtain ⟨s', request⟩ := msg
        cases request with
        | login userId token =>
          by_cases hempty : userId.getD "" = "" ∨ token.getD "" = ""
          · simp [messageEvent, hempty, and_assoc]
            tauto
          · simp only [not_or] at hempty
            simp [messageEvent, hempty, and_assoc]
        | _ => simp [messageEvent]
    | _ => simp
  | _ => simp [AcceptsLogin, event]

theorem start_tables_inv : (start : GameServer K).tables.Inv cfg :=
  ⟨by simp [tables, start], by simp [tables, start], by simp [tables, start],
    by simp [tables, start], by simp [tables, start]⟩

theorem run_tables_inv (hids : Function.Injective cfg.nextPlayerId)
    {l : List (GameServer K × ServerAction K)} {st : GameServer K}
    (r : Run (gameServerSystem cfg) l st) : st.tables.Inv cfg := by
  refine r.invariant (I := fun st => st.tables.Inv cfg) ?_ ?_
  · rintro st rfl
    exact start_tables_inv
  · rintro st a st' h ⟨ha, rfl⟩
    rw [step_tables cfg st ha]
    exact h.apply hids _

/-- A session that has not logged in has no player anywhere. -/
theorem run_without {l : List (GameServer K × ServerAction K)} {st : GameServer K}
    (r : Run (gameServerSystem cfg) l st) {s : SessionId}
    (hl : ∀ e ∈ l, ¬ e.1.AcceptsLogin s e.2) : st.tables.Without s := by
  refine r.invariant_of_steps (I := fun st => st.tables.Without s)
    (P := fun st a => ¬ st.AcceptsLogin s a) ?_ ?_ hl
  · rintro st rfl
    exact ⟨by simp [tables, start], by simp [tables, start], by simp [tables, start],
      by simp [tables, start]⟩
  · rintro st a st' h hno ⟨ha, rfl⟩
    rw [step_tables cfg st ha]
    exact h.apply cfg fun userId he => hno ((acceptsLogin_iff st s a).mpr ⟨userId, he⟩)

/-- A session that has logged in has a player in `PlayerManager`. -/
theorem run_login_stays (hids : Function.Injective cfg.nextPlayerId)
    {l : List (GameServer K × ServerAction K)} {st : GameServer K}
    (r : Run (gameServerSystem cfg) l st) {s : SessionId}
    {e : GameServer K × ServerAction K} (he : e ∈ l) (hlogin : e.1.AcceptsLogin s e.2) :
    ∃ id p, st.pm.getById id = some p ∧ p.session = some s := by
  induction r with
  | start _ => cases he
  | @step l st st' a r hstep ih =>
    have hinv := run_tables_inv hids r
    obtain ⟨ha, rfl⟩ := hstep
    have htables := step_tables cfg st ha
    rcases List.mem_cons.mp he with rfl | he
    · obtain ⟨userId, hevent⟩ := (acceptsLogin_iff _ s _).mp hlogin
      rw [hevent] at htables
      refine ⟨cfg.nextPlayerId st.playerCount,
        ⟨cfg.nextPlayerId st.playerCount, some s, userId, "Paladin"⟩, ?_, rfl⟩
      change (st.step cfg a).tables.pm.playersById _ = _
      rw [htables]
      exact Function.update_self _ _ _
    · obtain ⟨id, p, hp, hs⟩ := ih he
      refine ⟨id, p, ?_, hs⟩
      change (st.step cfg a).tables.pm.playersById id = some p
      rw [htables]
      exact hinv.stays hids _ hp

/-- **Cleaning up.** Once a session is disconnected it is cleaned up
exactly when it has never logged in. -/
theorem cleaned_up_iff (hids : Function.Injective cfg.nextPlayerId)
    {l : List (GameServer K × ServerAction K)} {st : GameServer K}
    (r : Run (gameServerSystem cfg) l st) (s : SessionId) :
    st.Disconnected s → (st.CleanedUp s ↔ ∀ e ∈ l, ¬ e.1.AcceptsLogin s e.2) := by
  intro _
  constructor
  · intro hclean e he hlogin
    obtain ⟨id, p, hp, hs⟩ := run_login_stays hids r he hlogin
    exact hclean.1 id p hp hs
  · intro hl
    have h := run_without r hl
    exact ⟨h.pm, fun pid p hp hs => absurd hs (h.objects pid p hp), h.bindings⟩

/-- A server over the rationals with a field worker for every id. -/
def rationalConfig : ServerConfig ℚ where
  nextSessionId n := n + 1
  nextPlayerId n := n + 1
  makeDatabaseID n := 1000 + n
  field _ := sortedConfig
  storage := true

theorem rationalConfig_ids : Function.Injective rationalConfig.nextPlayerId :=
  fun _ _ h => Nat.succ.inj h

/-- Session 1 sends a login without a token and is closed, while session 2
logs in. -/
theorem cleaned_up_refused : ∃ l st, Run (gameServerSystem rationalConfig) l st ∧
    st.Disconnected 1 ∧ st.CleanedUp 1 ∧ st.findByPlayerId 1 = some 2 := by
  have r : Run (gameServerSystem rationalConfig) [] start := .start rfl
  have r := (r.next (.onNewConn true) ⟨trivial, rfl⟩).next (.onNewConn true) ⟨trivial, rfl⟩
  have r := (r.next (.onRead 1 { envelope := some (.login (some "a") none) })
    ⟨⟨_, rfl, rfl⟩, rfl⟩).next (.onRead 2 { envelope := some (.login (some "b") (some "t")) })
    ⟨⟨_, rfl, rfl⟩, rfl⟩
  have r := (((r.next .gameWorker ⟨trivial, rfl⟩).next .gameWorker ⟨trivial, rfl⟩).next
    .gameWorker ⟨trivial, rfl⟩).next .gameWorker ⟨trivial, rfl⟩
  have r := (r.next (.onReadError 1) ⟨⟨_, rfl, rfl⟩, rfl⟩).next (.onClosed 1)
    ⟨⟨_, rfl, rfl, rfl⟩, rfl⟩
  have hiff := cleaned_up_iff rationalConfig_ids r 1 ⟨⟨_, rfl, rfl⟩, fun _ hm => nomatch hm⟩
  refine ⟨_, _, r, ⟨⟨_, rfl, rfl⟩, fun _ hm => nomatch hm⟩, hiff.mpr ?_, rfl⟩
  simp only [List.forall_mem_cons, List.not_mem_nil, false_implies, implies_true, and_true,
    acceptsLogin_iff]
  refine ⟨?_, ?_, ?_, ?_, ?_, ?_, ?_, ?_, ?_, ?_⟩ <;> rintro ⟨userId, hevent⟩
  all_goals cases hevent

/-- A session that logs in and is closed leaves its player behind. -/
theorem closed_session_keeps_player : ∃ l st, Run (gameServerSystem rationalConfig) l st ∧
    st.Disconnected 1 ∧ ¬ st.CleanedUp 1 := by
  have r : Run (gameServerSystem rationalConfig) [] start := .start rfl
  have r := (r.next (.onNewConn true) ⟨trivial, rfl⟩).next
    (.onRead 1 { envelope := some (.login (some "a") (some "t")) }) ⟨⟨_, rfl, rfl⟩, rfl⟩
  have r := ((r.next .gameWorker ⟨trivial, rfl⟩).next .gameWorker ⟨trivial, rfl⟩).next
    .gameWorker ⟨trivial, rfl⟩
  have r := (r.next (.onReadError 1) ⟨⟨_, rfl, rfl⟩, rfl⟩).next (.onClosed 1)
    ⟨⟨_, rfl, rfl, rfl⟩, rfl⟩
  refine ⟨_, _, r, ⟨⟨_, rfl, rfl⟩, fun _ hm => nomatch hm⟩, fun hclean => ?_⟩
  exact hclean.1 1 ⟨1, some 1, "a", "Paladin"⟩ rfl rfl

end GameServer

/-! ## One field at a time -/

/-- A player is in at most one field, the one it says it is in, and has
been added once. -/
def Tables.OneField (T : Tables) : Prop :=
  ∀ pid, (∀ f, T.housed pid f → T.fieldIdOf pid = f ∧ ∀ g, T.housed pid g → g = f) ∧
    T.added pid ≤ 1

/-- `EnterField` is taken up for no player that is in another field, and
completed for none that is in a field. -/
def Tables.Outside (T : Tables) : TableEvent → Prop
  | .enter s fieldId => ∀ p, T.pm.getBySession (some s) = some p →
      ∀ f, T.housed p.id f → f = fieldId.toInt32
  | .add => ∀ s pid fieldId, T.pc = .inField s pid fieldId → ∀ f, ¬ T.housed pid f
  | _ => True

/-- The invariant: who is in a field has been added once, who is in none
has not, and the one being added goes where it already is, if anywhere. -/
structure Tables.Settled (T : Tables) : Prop where
  home : ∀ pid f, T.housed pid f → T.fieldIdOf pid = f ∧ T.added pid = 1
  never : ∀ pid, (∀ f, ¬ T.housed pid f) → T.added pid = 0
  entering : ∀ s pid fieldId, T.pc = .prepared s pid fieldId ∨ T.pc = .inField s pid fieldId →
    T.fieldIdOf pid = fieldId.toInt32 ∧ ∀ f, T.housed pid f → f = fieldId.toInt32

section

omit [Scalar K]

variable {cfg : ServerConfig K} {T : Tables}

theorem Tables.Settled.oneField (h : T.Settled) : T.OneField := by
  intro pid
  constructor
  · intro f hf
    refine ⟨(h.home pid f hf).1, fun g hg => ?_⟩
    rw [← (h.home pid g hg).1, (h.home pid f hf).1]
  · by_cases hin : ∃ f, T.housed pid f
    · obtain ⟨f, hf⟩ := hin
      exact (h.home pid f hf).2.le
    · exact (h.never pid (not_exists.mp hin)).le.trans (Nat.zero_le 1)

theorem Tables.Settled.apply (h : T.Settled) (hinv : T.Inv cfg)
    (hids : Function.Injective cfg.nextPlayerId) {e : TableEvent} (he : T.Outside e) :
    (T.apply cfg e).Settled := by
  cases e with
  | quiet => exact h
  | unbind s => exact ⟨h.home, h.never, h.entering⟩
  | create s userId =>
    refine ⟨fun pid f hf => ?_, h.never, by simp [Tables.apply]⟩
    -- the new player is in no field
    have hne : pid ≠ cfg.nextPlayerId T.playerCount := by
      rintro rfl
      obtain ⟨p, hp⟩ := hinv.housed _ f hf
      simp [hinv.next_free hids] at hp
    simpa [Tables.apply, hne] using h.home pid f hf
  | name | bind =>
    simp only [Tables.apply]
    split
    · exact ⟨h.home, h.never, by simp⟩
    · exact h
  | enter s fieldId =>
    simp only [Tables.apply]
    split
    · exact h
    · rename_i p hp
      have hin := he p hp
      have hhome : ∀ pid f, T.housed pid f →
          Function.update T.fieldIdOf p.id fieldId.toInt32 pid = f ∧ T.added pid = 1 := by
        intro pid f hf
        by_cases hpid : pid = p.id
        · subst hpid
          rw [Function.update_self]
          exact ⟨(hin f hf).symm, (h.home _ f hf).2⟩
        · rw [Function.update_of_ne hpid]
          exact h.home pid f hf
      split
      · refine ⟨hhome, h.never, fun s' pid f hpc => ?_⟩
        simp only [GamePc.prepared.injEq, reduceCtorEq, or_false] at hpc
        obtain ⟨rfl, rfl, rfl⟩ := hpc
        exact ⟨Function.update_self _ _ _, hin⟩
      · exact ⟨hhome, h.never, by simp⟩
  | accept =>
    simp only [Tables.apply]
    split
    · rename_i s pid f hpc
      refine ⟨h.home, h.never, fun s' pid' f' hpc' => ?_⟩
      simp only [reduceCtorEq, GamePc.inField.injEq, false_or] at hpc'
      obtain ⟨rfl, rfl, rfl⟩ := hpc'
      exact h.entering s pid f (Or.inl hpc)
    · exact h
  | add =>
    simp only [Tables.apply]
    split
    · rename_i s pid fieldId hpc
      have hout := he s pid fieldId hpc
      have hup := (hinv.entering s pid fieldId (Or.inr hpc)).2
      refine ⟨fun i f hf => ?_, fun i hnot => ?_, by simp⟩
      · rcases hf with hf | ⟨rfl, rfl, -⟩
        · have hne : i ≠ pid := fun hi => hout f (hi ▸ hf)
          simpa [hne] using h.home i f hf
        · simpa [h.never i hout] using (h.entering s i fieldId (Or.inr hpc)).1
      · have hne : i ≠ pid := fun hi => hnot fieldId.toInt32 (Or.inr ⟨hi, rfl, hup⟩)
        simpa [hne] using h.never i fun f hf => hnot f (Or.inl hf)
    · exact h

/-- A player that is taken up from another field, or added to its own a
second time, is not in one field once any more. -/
theorem Tables.Settled.not_oneField (h : T.Settled) {e : TableEvent} (he : ¬ T.Outside e) :
    ¬ (T.apply cfg e).OneField := by
  cases e with
  | enter s fieldId =>
    simp only [Outside, not_forall] at he
    obtain ⟨p, hp, f, hf, hne⟩ := he
    have hhoused : (T.apply cfg (.enter s fieldId)).housed p.id f := by
      simp only [Tables.apply, hp]
      split <;> exact hf
    have hid : (T.apply cfg (.enter s fieldId)).fieldIdOf p.id = fieldId.toInt32 := by
      simp only [Tables.apply, hp]
      split <;> exact Function.update_self _ _ _
    exact fun hone => hne (((hone p.id).1 f hhoused).1.symm.trans hid)
  | add =>
    simp only [Outside, not_forall, not_not] at he
    obtain ⟨s, pid, fieldId, hpc, f, hf⟩ := he
    have hadded : (T.apply cfg .add).added pid = 2 := by
      simp [Tables.apply, hpc, (h.home pid f hf).2]
    intro hone
    have := (hone pid).2
    omega
  | _ => exact absurd trivial he

end

namespace GameServer

variable {cfg : ServerConfig K}

/-- A player is in `players_` of at most one field worker, whose id is the
player's field id, and `add_player` has been called for it at most once:
nothing removes it. -/
def OneField (st : GameServer K) : Prop :=
  ∀ pid, (∀ f fw, st.fields f = some fw → pid ∈ fw.players → st.fieldIdOf pid = f ∧
    ∀ g gw, st.fields g = some gw → pid ∈ gw.players → g = f) ∧ st.added pid ≤ 1

/-- The game worker takes up an `EnterField` for no player that is in
another field, and completes it for none that is in a field. -/
def EntersFromOutside (st : GameServer K) : ServerAction K → Prop
  | .gameWorker =>
    (∀ s fieldId queue p, st.pc = .idle → st.queue = ⟨s, .enterField fieldId⟩ :: queue →
      st.pm.getBySession (some s) = some p →
      ∀ f fw, st.fields f = some fw → p.id ∈ fw.players → f = fieldId.toInt32) ∧
    ∀ s pid fieldId, st.pc = .inField s pid fieldId →
      ∀ f fw, st.fields f = some fw → pid ∉ fw.players
  | _ => True

omit [Scalar K] in
theorem oneField_iff (st : GameServer K) : st.OneField ↔ st.tables.OneField := by
  simp only [OneField, Tables.OneField, tables, forall_exists_index, and_imp]

omit [Scalar K] in
theorem entersFromOutside_iff (st : GameServer K) (a : ServerAction K) :
    st.EntersFromOutside a ↔ st.tables.Outside (st.event a) := by
  cases a with
  | gameWorker =>
    simp only [EntersFromOutside, event]
    cases hpc : st.pc with
    | idle =>
      cases st.queue with
      | nil => simp [Tables.Outside]
      | cons msg queue =>
        obtain ⟨s, request⟩ := msg
        cases request with
        | enterField fieldId =>
          simp only [messageEvent, Tables.Outside, tables, forall_exists_index, and_imp]
          constructor
          · exact fun h p => h.1 s fieldId queue p trivial rfl
          · rintro h
            refine ⟨?_, nofun⟩
            rintro _ _ _ p - ⟨⟩
            exact h p
        | login userId token =>
          simp only [messageEvent]
          split <;> simp [Tables.Outside]
        | _ => simp [messageEvent, Tables.Outside]
    | inField s pid fieldId =>
      simp [Tables.Outside, tables, hpc]
    | _ => simp_all [Tables.Outside]
  | _ => simp [EntersFromOutside, event, Tables.Outside]

theorem settled_step {st : GameServer K} {a : ServerAction K} {st' : GameServer K}
    (hids : Function.Injective cfg.nextPlayerId) (h : st.tables.Inv cfg ∧ st.tables.Settled)
    (hout : st.EntersFromOutside a) (hstep : (gameServerSystem cfg).step st a st') :
    st'.tables.Inv cfg ∧ st'.tables.Settled := by
  obtain ⟨ha, rfl⟩ := hstep
  rw [step_tables cfg st ha]
  exact ⟨h.1.apply hids _, h.2.apply h.1 hids ((entersFromOutside_iff st a).mp hout)⟩

theorem start_settled : (start : GameServer K).tables.Settled :=
  ⟨by simp [tables, start], by simp [tables, start], by simp [tables, start]⟩

/-- A player that has not been added is in no field. -/
theorem run_not_added (hids : Function.Injective cfg.nextPlayerId)
    {l : List (GameServer K × ServerAction K)} {st : GameServer K}
    (r : Run (gameServerSystem cfg) l st) (hl : ∀ e ∈ l, e.1.EntersFromOutside e.2)
    (pid : EntityId) (hpid : st.added pid = 0) (f : FieldId) (fw : FieldWorker K)
    (hf : st.fields f = some fw) : pid ∉ fw.players := by
  intro hmem
  have h : st.tables.Inv cfg ∧ st.tables.Settled := by
    refine r.invariant_of_steps (I := fun st => st.tables.Inv cfg ∧ st.tables.Settled)
      (P := EntersFromOutside) ?_ (fun _ _ _ => settled_step hids) hl
    rintro st rfl
    exact ⟨start_tables_inv, start_settled⟩
  have hadded : st.added pid = 1 := (h.2.home pid f ⟨fw, hf, hmem⟩).2
  omega

/-- **One field at a time.** In a run every player is in at most one field
throughout exactly when no `EnterField` is handled for a player that is in
a field already. -/
theorem one_field_iff (hids : Function.Injective cfg.nextPlayerId)
    {l : List (GameServer K × ServerAction K)} {st : GameServer K}
    (r : Run (gameServerSystem cfg) l st) :
    ((∀ e ∈ l, e.1.OneField) ∧ st.OneField) ↔ ∀ e ∈ l, e.1.EntersFromOutside e.2 := by
  refine r.good_iff_steps (I := fun st => st.tables.Inv cfg ∧ st.tables.Settled)
    (G := OneField) (P := EntersFromOutside) ?_ ?_ ?_ ?_
  · rintro st rfl
    exact ⟨start_tables_inv, start_settled⟩
  · exact fun st a st' => settled_step hids
  · exact fun st h => (oneField_iff st).mpr h.2.oneField
  · rintro st a st' ⟨-, h⟩ hout ⟨ha, rfl⟩ hone
    rw [oneField_iff, step_tables cfg st ha] at hone
    exact h.not_oneField (fun h => hout ((entersFromOutside_iff st a).mpr h)) hone

/-- Session 1 has logged in. -/
def afterLogin : GameServer ℚ :=
  [ServerAction.onNewConn true, .onRead 1 { envelope := some (.login (some "a") (some "t")) },
    .gameWorker, .gameWorker, .gameWorker].foldl (step rationalConfig) start

theorem run_afterLogin : ∃ l, Run (gameServerSystem rationalConfig) l afterLogin ∧
    ∀ e ∈ l, e.1.EntersFromOutside e.2 := by
  have r : Run (gameServerSystem rationalConfig) [] start := .start rfl
  have r := (r.next (.onNewConn true) ⟨trivial, rfl⟩).next
    (.onRead 1 { envelope := some (.login (some "a") (some "t")) }) ⟨⟨_, rfl, rfl⟩, rfl⟩
  have r := ((r.next .gameWorker ⟨trivial, rfl⟩).next .gameWorker ⟨trivial, rfl⟩).next
    .gameWorker ⟨trivial, rfl⟩
  refine ⟨_, r, ?_⟩
  simp only [List.forall_mem_cons, List.not_mem_nil, false_implies, implies_true, and_true,
    entersFromOutside_iff]
  exact ⟨trivial, trivial, trivial, trivial, trivial⟩

theorem outside_cons {l : List (GameServer ℚ × ServerAction ℚ)}
    (hl : ∀ e ∈ l, e.1.EntersFromOutside e.2) (st : GameServer ℚ) (a : ServerAction ℚ)
    (ha : st.EntersFromOutside a) : ∀ e ∈ (st, a) :: l, e.1.EntersFromOutside e.2 :=
  List.forall_mem_cons.mpr ⟨ha, hl⟩

/-- Its request to enter field 1 is queued. -/
def afterRequest : GameServer ℚ :=
  step rationalConfig afterLogin (.onRead 1 { envelope := some (.enterField 1) })

/-- Session 1 enters field 1 and stays there. -/
theorem one_field_entered : ∃ l st, Run (gameServerSystem rationalConfig) l st ∧
    (∃ fw, st.fields 1 = some fw ∧ 1 ∈ fw.players) ∧ st.OneField := by
  obtain ⟨l, r, hl⟩ := run_afterLogin
  have r₁ := r.next (.onRead 1 { envelope := some (.enterField 1) }) ⟨⟨_, rfl, rfl⟩, rfl⟩
  have h₁ := outside_cons hl afterLogin (.onRead 1 { envelope := some (.enterField 1) }) trivial
  -- nobody has been added when the request is taken up, nor when it is completed
  have hout := fun pid f fw => run_not_added rationalConfig_ids r₁ h₁ pid rfl f fw
  have r₂ := (r₁.next .gameWorker ⟨trivial, rfl⟩).next .gameWorker ⟨trivial, rfl⟩
  have h₂ := outside_cons (outside_cons h₁ afterRequest .gameWorker
    ⟨fun _ _ _ p _ _ _ f fw hf hp => absurd hp (hout p.id f fw hf),
      fun _ _ _ hpc => nomatch hpc⟩)
    (step rationalConfig afterRequest .gameWorker) .gameWorker
    ⟨fun _ _ _ _ hpc => (nomatch hpc), fun _ _ _ hpc => nomatch hpc⟩
  have r₃ := r₂.next .gameWorker ⟨trivial, rfl⟩
  have h₃ := outside_cons h₂ (step rationalConfig (step rationalConfig afterRequest .gameWorker)
    .gameWorker) .gameWorker
    ⟨fun _ _ _ _ hpc => (nomatch hpc),
      fun _ _ _ _ f fw hf => run_not_added rationalConfig_ids r₂ h₂ _ rfl f fw hf⟩
  exact ⟨_, _, r₃, ⟨_, rfl, by decide +kernel⟩, ((one_field_iff rationalConfig_ids r₃).mpr h₃).2⟩

/-- Two requests to enter are read before the first is handled. -/
theorem two_requests_two_fields : ∃ l st, Run (gameServerSystem rationalConfig) l st ∧
    ¬ st.OneField := by
  obtain ⟨l, r, -⟩ := run_afterLogin
  have r := (r.next (.onRead 1 { envelope := some (.enterField 1) }) ⟨⟨_, rfl, rfl⟩, rfl⟩).next
    (.onRead 1 { envelope := some (.enterField 2) }) ⟨⟨_, rfl, rfl⟩, rfl⟩
  have r := ((r.next .gameWorker ⟨trivial, rfl⟩).next .gameWorker ⟨trivial, rfl⟩).next
    .gameWorker ⟨trivial, rfl⟩
  have r := ((r.next .gameWorker ⟨trivial, rfl⟩).next .gameWorker ⟨trivial, rfl⟩).next
    .gameWorker ⟨trivial, rfl⟩
  refine ⟨_, _, r, fun hone => ?_⟩
  have hsame := ((hone 1).1 1 _ rfl (by decide +kernel)).2 2 _ rfl (by decide +kernel)
  exact absurd hsame (by decide)

end GameServer

/-! ## The session manager -/

/-- What an event does to the bindings is one call of the manager, or
nothing. -/
theorem Tables.bindings_shown {m : ManagedSessions SessionId} {T : Tables}
    (hm : ∀ pid, m.ofPlayer pid = T.bindings pid) (hd : m.destroyed = ∅) (e : TableEvent) :
    (∀ pid, m.ofPlayer pid = (T.apply cfg e).bindings pid) ∨
      ∃ a, m.Enabled a ∧ (m.next id a).destroyed = ∅ ∧
        ∀ pid, (m.next id a).ofPlayer pid = (T.apply cfg e).bindings pid := by
  cases e with
  | unbind s =>
    refine .inr ⟨.removeSession s Enumeration.increasing, trivial, hd, fun pid => ?_⟩
    ext s'
    rw [ManagedSessions.ofPlayer_removeSession, hm]
    change _ ↔ (if T.bindings pid = some s then none else T.bindings pid) = some s'
    by_cases hs : T.bindings pid = some s
    · rw [if_pos hs, hs]
      simp [eq_comm]
    · rw [if_neg hs]
      exact and_iff_left_of_imp fun h (heq : s' = s) => hs (heq ▸ h)
  | bind =>
    cases hpc : T.pc with
    | named s pid userId =>
      have henabled : m.Enabled (.bindPlayer pid (some s)) := by
        change s ∉ m.destroyed
        rw [hd]
        exact Finset.notMem_empty s
      refine .inr ⟨.bindPlayer pid (some s), henabled, hd, fun pid' => ?_⟩
      rw [ManagedSessions.ofPlayer_next henabled]
      simp only [Tables.apply, hpc]
      by_cases hpid : pid = pid'
      · subst hpid
        rw [Register.apply_write _ (if_pos rfl), Function.update_self]
      · rw [Register.apply_keep _ (if_neg hpid) fun _ => rfl, hm,
          Function.update_of_ne (Ne.symm hpid)]
    | _ => exact .inl fun pid => by simp only [Tables.apply, hpc, hm]
  | enter s fieldId =>
    refine .inl fun pid => ?_
    simp only [Tables.apply]
    split
    · exact hm pid
    · split <;> exact hm pid
  | name => exact .inl fun pid => by simp only [Tables.apply]; split <;> exact hm pid
  | accept => exact .inl fun pid => by simp only [Tables.apply]; split <;> exact hm pid
  | add => exact .inl fun pid => by simp only [Tables.apply]; split <;> exact hm pid
  | create s userId => exact .inl hm
  | quiet => exact .inl hm

namespace GameServer

/-- **The session manager of a server** finds for a player what the
server's binding says: what is proved of the manager's lookups holds of
the server's. -/
theorem manager_shows_bindings {l : List (GameServer K × ServerAction K)} {st : GameServer K}
    (r : Run (gameServerSystem cfg) l st) :
    ∃ l' m, Run (managerSystem (id : SessionId → Nat)) l' m ∧ m.destroyed = ∅ ∧
      ∀ pid, m.ofPlayer pid = st.findByPlayerId pid := by
  induction r with
  | start h =>
    obtain rfl := h
    exact ⟨[], {}, .start rfl, rfl, fun _ => rfl⟩
  | @step l st st' a _ h ih =>
    obtain ⟨l', m, r', hd, hm⟩ := ih
    obtain ⟨ha, rfl⟩ := h
    have hstep : ∀ pid, (st.step cfg a).findByPlayerId pid =
        (st.tables.apply cfg (st.event a)).bindings pid := by
      intro pid
      rw [← step_tables cfg st ha]
      rfl
    simp only [hstep]
    have hshown : ∀ pid, m.ofPlayer pid = st.tables.bindings pid := hm
    rcases Tables.bindings_shown hshown hd (st.event a) with
      hsame | ⟨a', henabled, hd', hm'⟩
    · exact ⟨l', m, r', hd, hsame⟩
    · exact ⟨_, _, r'.next a' ⟨henabled, rfl⟩, hd', hm'⟩

end GameServer

end MmorpgServer.Game
