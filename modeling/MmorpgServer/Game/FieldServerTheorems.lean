/-
MmorpgServer.Game.FieldServerTheorems — whose command moves a player.

* `Owned` — what a session says about its player is true: once it is in
  `InField`, its player is one that `OnRecv_Login` created for it. The
  default id a session starts with is never acted on.
* `fieldServer_simulates` — the server with its queues is a run of
  `GameServer`, so that what is proved there holds here.
* `only_its_client_moves_a_player` — a player is set in motion by a command
  of its own session only, and taken elsewhere by ticks and by its own
  session entering a field only.
-/
import MmorpgServer.Game.FieldServer
import MmorpgServer.Game.GameServerTheorems
import MmorpgServer.Worker.MotionTheorems

namespace MmorpgServer.Game

open MmorpgServer.Lib MmorpgServer.Field MmorpgServer.Net MmorpgServer.Worker Scalar

namespace GameServer

variable {K : Type}

/-! ## What the parts of a step leave alone -/

theorem sendPayload_eq (st : GameServer K) (s : SessionId) (ack : Ack) :
    ∃ out, st.sendPayload s ack = { st with out } := by
  unfold sendPayload
  split
  · split
    · exact ⟨st.out, rfl⟩
    · exact ⟨_, rfl⟩
  · exact ⟨st.out, rfl⟩

theorem sendToFieldWorker_eq (st : GameServer K) (fieldId : FieldId) (s : SessionId) :
    ∃ out, st.sendToFieldWorker fieldId s = { st with out } := by
  unfold sendToFieldWorker
  split
  · exact ⟨_, rfl⟩
  · exact ⟨st.out, rfl⟩

theorem onField_eq (st : GameServer K) (fieldId : FieldId) (f : FieldWorker K → FieldWorker K) :
    ∃ fields playerData, st.onField fieldId f = { st with fields, playerData } := by
  unfold onField
  split
  · exact ⟨st.fields, st.playerData, rfl⟩
  · exact ⟨_, _, rfl⟩

theorem createField_eq [Scalar K] (cfg : ServerConfig K) (st : GameServer K) (fieldId : FieldId) :
    ∃ fields, (createField cfg st fieldId).1 = { st with fields } := by
  unfold createField
  split
  · exact ⟨st.fields, rfl⟩
  · split
    · exact ⟨st.fields, rfl⟩
    · exact ⟨_, rfl⟩

/-! ## Sessions and their players -/

/-- The player was created for the session. -/
def Owns (st : GameServer K) (s : SessionId) (pid : EntityId) : Prop :=
  ∃ p, st.pm.playersById pid = some p ∧ p.session = some s

/-- A session that has logged in names a player created for it, unless it
is about to be given the next one; so does a session in `InField`. -/
structure Owned (cfg : ServerConfig K) (st : GameServer K) : Prop where
  issued : ∀ s sess, st.sessions s = some sess → ∃ n < st.sessionCount, s = cfg.nextSessionId n
  queued : ∀ msg ∈ st.queue, ∃ sess, st.sessions msg.session = some sess
  indexed : ∀ s pid, st.pm.idBySession (some s) = some pid →
    st.Owns s pid ∧ ∃ sess, st.sessions s = some sess
  creating : ∀ s pid u, st.pc = .created s pid u → st.Owns s pid
  entering : ∀ s pid fieldId, st.pc = .prepared s pid fieldId →
    ∃ pid', st.pm.idBySession (some s) = some pid'
  loggedIn : ∀ s sess pid, st.sessions s = some sess → st.pm.idBySession (some s) = some pid →
    st.Owns s sess.playerId ∨ ∃ u, st.pc = .created s pid u
  inField : ∀ s sess, st.sessions s = some sess → sess.state = .inField → st.Owns s sess.playerId

variable {cfg : ServerConfig K} {st : GameServer K}

/-- Nothing but sessions, queue, `PlayerManager` and `pc` matters, and the
last only where it creates or enters. -/
theorem Owned.congr (h : st.Owned cfg) {st' : GameServer K} (hs : st'.sessions = st.sessions)
    (hcount : st'.sessionCount = st.sessionCount) (hqueue : st'.queue ⊆ st.queue)
    (hpm : st'.pm = st.pm) (hpc : st'.pc = st.pc ∨ (∀ s pid u, st.pc ≠ .created s pid u) ∧
      (∀ s pid u, st'.pc ≠ .created s pid u) ∧ ∀ s pid f, st'.pc ≠ .prepared s pid f) :
    st'.Owned cfg := by
  have howns : ∀ s pid, st.Owns s pid → st'.Owns s pid := by
    intro s pid h
    unfold Owns
    rw [hpm]
    exact h
  constructor
  · rw [hs, hcount]
    exact h.issued
  · rw [hs]
    exact fun msg hmsg => h.queued msg (hqueue hmsg)
  · intro s pid hid
    rw [hpm] at hid
    rw [hs]
    exact ⟨howns s pid (h.indexed s pid hid).1, (h.indexed s pid hid).2⟩
  · intro s pid u hcreated
    rcases hpc with hpc | ⟨-, hpc, -⟩
    · exact howns s pid (h.creating s pid u (hpc ▸ hcreated))
    · exact absurd hcreated (hpc s pid u)
  · intro s pid fieldId hprepared
    rw [hpm]
    rcases hpc with hpc | ⟨-, -, hpc⟩
    · exact h.entering s pid fieldId (hpc ▸ hprepared)
    · exact absurd hprepared (hpc s pid fieldId)
  · intro s sess pid hsess hid
    rw [hs] at hsess
    rw [hpm] at hid
    rcases h.loggedIn s sess pid hsess hid with howned | ⟨u, hcreated⟩
    · exact .inl (howns s _ howned)
    · rcases hpc with hpc | ⟨hpc, -⟩
      · exact .inr ⟨u, hpc.trans hcreated⟩
      · exact absurd hcreated (hpc s pid u)
  · intro s sess hsess hstate
    rw [hs] at hsess
    exact howns s _ (h.inField s sess hsess hstate)

theorem setSession_some {s s' : SessionId} (f : Session → Session) {old : Session}
    (h : st.sessions s' = some old) : ∃ sess, (st.setSession s f).sessions s' = some sess := by
  unfold GameServer.setSession
  by_cases hs : s' = s
  · subst hs
    simp [h]
  · simp [hs, h]

/-- A session changed in what does not name its player. -/
theorem Owned.setSession (h : st.Owned cfg) (s : SessionId) (f : Session → Session)
    (hid : ∀ sess, (f sess).playerId = sess.playerId)
    (hstate : ∀ sess, st.sessions s = some sess → (f sess).state = .inField →
      st.Owns s sess.playerId) : (st.setSession s f).Owned cfg := by
  -- the session after it, from the one before
  have hprev : ∀ s' sess, (st.setSession s f).sessions s' = some sess →
      ∃ old, st.sessions s' = some old ∧ old.playerId = sess.playerId ∧
        (sess.state = .inField → st.Owns s' old.playerId) := by
    intro s' sess hsess
    unfold GameServer.setSession at hsess
    by_cases hs : s' = s
    · subst hs
      simp only [Function.update_self, Option.map_eq_some_iff] at hsess
      obtain ⟨old, hold, rfl⟩ := hsess
      exact ⟨old, hold, (hid old).symm, hstate old hold⟩
    · simp only [Function.update_of_ne hs] at hsess
      exact ⟨sess, hsess, rfl, h.inField s' sess hsess⟩
  constructor
  · intro s' sess hsess
    obtain ⟨old, hold, -⟩ := hprev s' sess hsess
    exact h.issued s' old hold
  · intro msg hmsg
    obtain ⟨old, hold⟩ := h.queued msg hmsg
    exact setSession_some f hold
  · intro s' pid hpid
    obtain ⟨howns, old, hold⟩ := h.indexed s' pid hpid
    exact ⟨howns, setSession_some f hold⟩
  · exact h.creating
  · exact h.entering
  · intro s' sess pid hsess hpid
    obtain ⟨old, hold, hplayer, -⟩ := hprev s' sess hsess
    rw [← hplayer]
    exact h.loggedIn s' old pid hold hpid
  · intro s' sess hsess hinField
    obtain ⟨old, -, hplayer, howns⟩ := hprev s' sess hsess
    rw [← hplayer]
    exact howns hinField

/-- A new session. -/
theorem Owned.onNewConn (h : st.Owned cfg) (hids : Function.Injective cfg.nextSessionId)
    (accepted : Bool) : (st.onNewConn cfg accepted).Owned cfg := by
  have hfresh : st.sessions (cfg.nextSessionId st.sessionCount) = none := by
    cases hsess : st.sessions (cfg.nextSessionId st.sessionCount) with
    | none => rfl
    | some sess =>
      obtain ⟨n, hn, heq⟩ := h.issued _ sess hsess
      exact absurd (hids heq) (by omega)
  have hissued : ∀ s sess, st.sessions s = some sess →
      ∃ n < st.sessionCount + 1, s = cfg.nextSessionId n := by
    intro s sess hsess
    obtain ⟨n, hn, heq⟩ := h.issued s sess hsess
    exact ⟨n, by omega, heq⟩
  unfold GameServer.onNewConn
  simp only
  split
  · have hother : ∀ s sess, st.sessions s = some sess →
        Function.update st.sessions (cfg.nextSessionId st.sessionCount) (some { playerId := 4 }) s =
          some sess := by
      intro s sess hsess
      have hs : s ≠ cfg.nextSessionId st.sessionCount := by
        rintro rfl
        simp [hfresh] at hsess
      rw [Function.update_of_ne hs, hsess]
    have hsplit : ∀ s sess,
        Function.update st.sessions (cfg.nextSessionId st.sessionCount) (some { playerId := 4 }) s =
          some sess →
        (s = cfg.nextSessionId st.sessionCount ∧ sess = { playerId := 4 }) ∨
          st.sessions s = some sess := by
      intro s sess hsess
      by_cases hs : s = cfg.nextSessionId st.sessionCount
      · subst hs
        rw [Function.update_self] at hsess
        exact .inl ⟨rfl, (Option.some.inj hsess).symm⟩
      · rw [Function.update_of_ne hs] at hsess
        exact .inr hsess
    constructor
    · intro s sess hsess
      rcases hsplit s sess hsess with ⟨rfl, -⟩ | hsess
      · exact ⟨st.sessionCount, by simp [addSession], rfl⟩
      · exact hissued s sess hsess
    · intro msg hmsg
      obtain ⟨sess, hsess⟩ := h.queued msg hmsg
      exact ⟨sess, hother _ sess hsess⟩
    · intro s pid hpid
      obtain ⟨howns, sess, hsess⟩ := h.indexed s pid hpid
      exact ⟨howns, sess, hother s sess hsess⟩
    · exact h.creating
    · exact h.entering
    · intro s sess pid hsess hpid
      rcases hsplit s sess hsess with ⟨rfl, -⟩ | hsess
      · obtain ⟨-, sess', hsess'⟩ := h.indexed _ pid hpid
        simp [hfresh] at hsess'
      · exact h.loggedIn s sess pid hsess hpid
    · intro s sess hsess hinField
      rcases hsplit s sess hsess with ⟨rfl, rfl⟩ | hsess
      · cases hinField
      · exact h.inField s sess hsess hinField
  · exact { h with issued := hissued }

/-- A player is created. -/
theorem Owned.create (h : st.Owned cfg) {s : SessionId} {sess : Session}
    (hsess : st.sessions s = some sess) {pid : EntityId} (hfree : st.pm.playersById pid = none)
    (hidle : st.pc = .idle) {st' : GameServer K} {userId : String}
    (hs : st'.sessions = st.sessions) (hcount : st'.sessionCount = st.sessionCount)
    (hqueue : st'.queue = st.queue) (hpm : st'.pm = (st.pm.createPlayer pid userId (some s)).1)
    (hpc : st'.pc = .created s pid userId) : st'.Owned cfg := by
  have howns : ∀ s' pid', st.Owns s' pid' → st'.Owns s' pid' := by
    intro s' pid' ⟨p, hp, hsession⟩
    have hne : pid' ≠ pid := by
      rintro rfl
      simp [hfree] at hp
    exact ⟨p, by simp [hpm, PlayerManager.createPlayer, hne, hp], hsession⟩
  have hself : st'.Owns s pid := by
    unfold Owns
    rw [hpm]
    exact ⟨_, Function.update_self _ _ _, rfl⟩
  have hindex : ∀ s' pid', st'.pm.idBySession (some s') = some pid' →
      (s' = s ∧ pid' = pid) ∨ st.pm.idBySession (some s') = some pid' := by
    intro s' pid' hid
    rw [hpm] at hid
    by_cases hs' : s' = s
    · subst hs'
      simp only [PlayerManager.createPlayer, Function.update_self, Option.some.injEq] at hid
      exact .inl ⟨rfl, hid.symm⟩
    · exact .inr (by simpa [PlayerManager.createPlayer, hs'] using hid)
  constructor
  · rw [hs, hcount]
    exact h.issued
  · rw [hs, hqueue]
    exact h.queued
  · intro s' pid' hid
    rw [hs]
    rcases hindex s' pid' hid with ⟨rfl, rfl⟩ | hid
    · exact ⟨hself, sess, hsess⟩
    · exact ⟨howns s' pid' (h.indexed s' pid' hid).1, (h.indexed s' pid' hid).2⟩
  · intro s' pid' u hcreated
    rw [hpc] at hcreated
    cases hcreated
    exact hself
  · intro s' pid' fieldId hprepared
    simp [hpc] at hprepared
  · intro s' sess' pid' hsess' hid
    rcases hindex s' pid' hid with ⟨rfl, rfl⟩ | hid
    · exact .inr ⟨userId, hpc⟩
    · rw [hs] at hsess'
      rcases h.loggedIn s' sess' pid' hsess' hid with howned | ⟨u, hcreated⟩
      · exact .inl (howns s' _ howned)
      · simp [hidle] at hcreated
  · intro s' sess' hsess' hinField
    rw [hs] at hsess'
    exact howns s' _ (h.inField s' sess' hsess' hinField)

/-- A session is given its player. -/
theorem Owned.name (h : st.Owned cfg) {s : SessionId} {pid : EntityId} {u : String}
    (hpc : st.pc = .created s pid u) :
    ({ st.setSession s fun sess => { sess with playerId := pid } with
      pc := .named s pid u } : GameServer K).Owned cfg := by
  have howns := h.creating s pid u hpc
  have hprev : ∀ s' sess,
      (st.setSession s fun sess => { sess with playerId := pid }).sessions s' = some sess →
      ∃ old, st.sessions s' = some old ∧ old.state = sess.state ∧
        (st.Owns s' sess.playerId ∨ s' ≠ s ∧ old = sess) := by
    intro s' sess hsess
    unfold GameServer.setSession at hsess
    by_cases hs : s' = s
    · subst hs
      simp only [Function.update_self, Option.map_eq_some_iff] at hsess
      obtain ⟨old, hold, rfl⟩ := hsess
      exact ⟨old, hold, rfl, .inl howns⟩
    · simp only [Function.update_of_ne hs] at hsess
      exact ⟨sess, hsess, rfl, .inr ⟨hs, rfl⟩⟩
  constructor
  · intro s' sess hsess
    obtain ⟨old, hold, -⟩ := hprev s' sess hsess
    exact h.issued s' old hold
  · intro msg hmsg
    obtain ⟨old, hold⟩ := h.queued msg hmsg
    exact setSession_some _ hold
  · intro s' pid' hpid
    obtain ⟨howns', old, hold⟩ := h.indexed s' pid' hpid
    exact ⟨howns', setSession_some _ hold⟩
  · simp
  · simp
  · intro s' sess pid' hsess hpid
    obtain ⟨old, hold, -, howned | ⟨hs, rfl⟩⟩ := hprev s' sess hsess
    · exact .inl howned
    · rcases h.loggedIn s' old pid' hold hpid with howned | ⟨u', hcreated⟩
      · exact .inl howned
      · rw [hpc, GamePc.created.injEq] at hcreated
        exact absurd hcreated.1.symm hs
  · intro s' sess hsess hinField
    obtain ⟨old, hold, hstate, howned | ⟨-, rfl⟩⟩ := hprev s' sess hsess
    · exact howned
    · exact h.inField s' old hold hinField

variable [Scalar K]

/-- A message taken up. -/
theorem Owned.dispatch (h : st.Owned cfg) (hinv : st.tables.Inv cfg)
    (hids : Function.Injective cfg.nextPlayerId) (hidle : st.pc = .idle) {msg : NetMessage}
    (hmsg : ∃ sess, st.sessions msg.session = some sess) :
    (GameServer.dispatch cfg st msg).Owned cfg := by
  unfold GameServer.dispatch
  cases msg.request with
  | ping => exact h
  | other => exact h
  | login userId token =>
    unfold onRecvLogin
    simp only
    split
    · exact h
    · obtain ⟨sess, hsess⟩ := hmsg
      exact h.create hsess (hinv.next_free hids) hidle rfl rfl rfl rfl rfl
  | enterField fieldId =>
    unfold onRecvEnterField
    cases hp : st.pm.getBySession (some msg.session) with
    | none => exact h
    | some player =>
      simp only
      generalize hst₁ : ({ st with
        fieldIdOf := Function.update st.fieldIdOf player.id fieldId.toInt32
        playerData := Function.update st.playerData player.id
          { st.playerData player.id with pos := ⟨lit 102.1, lit 155.91⟩ } } : GameServer K) = st₁
      have h₁ : st₁.Owned cfg := by
        subst hst₁
        exact h.congr rfl rfl (fun _ hm => hm) rfl (.inl rfl)
      obtain ⟨fields, hfields⟩ := createField_eq cfg st₁ fieldId.toInt32
      rw [hfields]
      have h₂ : ({ st₁ with fields } : GameServer K).Owned cfg :=
        h₁.congr rfl rfl (fun _ hm => hm) rfl (.inl rfl)
      split
      · exact h₂
      · have h₃ := h₂.setSession msg.session (fun sess => { sess with fieldId := fieldId.toInt32 })
          (fun _ => rfl) fun sess hsess hin => h₂.inField _ sess hsess hin
        have hindexed : ∃ pid, st₁.pm.idBySession (some msg.session) = some pid := by
          subst hst₁
          unfold PlayerManager.getBySession at hp
          cases hid : st.pm.idBySession (some msg.session) with
          | none => simp [hid] at hp
          | some pid => exact ⟨pid, rfl⟩
        have hidle₁ : st₁.pc = .idle := by
          subst hst₁
          exact hidle
        constructor
        · exact h₃.issued
        · exact h₃.queued
        · exact h₃.indexed
        · simp
        · intro s pid f hprepared
          cases hprepared
          exact hindexed
        · intro s sess pid hsess hpid
          rcases h₃.loggedIn s sess pid hsess hpid with howned | ⟨u, hcreated⟩
          · exact .inl howned
          · exact absurd (hidle₁.symm.trans hcreated) (by simp)
        · exact h₃.inField
  | skillCmd skill targetId =>
    unfold onRecvSkillCmd
    cases st.sessions msg.session with
    | none => exact h
    | some sess =>
      simp only
      split
      · obtain ⟨out, hout⟩ := sendPayload_eq st msg.session (.skillCmd skill targetId)
        rw [hout]
        exact h.congr rfl rfl (fun _ hm => hm) rfl (.inl rfl)
      · obtain ⟨out, hout⟩ := sendToFieldWorker_eq st sess.fieldId msg.session
        rw [hout]
        exact h.congr rfl rfl (fun _ hm => hm) rfl (.inl rfl)

theorem Owned.gameStep (h : st.Owned cfg) (hinv : st.tables.Inv cfg)
    (hids : Function.Injective cfg.nextPlayerId) : (st.gameStep cfg).Owned cfg := by
  unfold GameServer.gameStep
  cases hpc : st.pc with
  | idle =>
    cases hqueue : st.queue with
    | nil => exact h
    | cons msg queue =>
      have hpop : ({ st with queue, pc := .idle } : GameServer K).Owned cfg :=
        h.congr rfl rfl (by rw [hqueue]; exact List.subset_cons_self _ _) rfl (.inl hpc.symm)
      have htables : ({ st with queue, pc := .idle } : GameServer K).tables = st.tables := by
        simp [tables, hpc]
      exact hpop.dispatch (htables.symm ▸ hinv) hids rfl (h.queued msg (by simp [hqueue]))
  | created s pid u => exact h.name hpc
  | named s pid u =>
    obtain ⟨out, hout⟩ := sendPayload_eq (st.bindPlayer pid s) s (.login pid u 1000)
    simp only
    rw [hout]
    exact h.congr rfl rfl (fun _ hm => hm) rfl (.inr ⟨by simp [hpc], by simp, by simp⟩)
  | prepared s pid fieldId =>
    obtain ⟨pid', hpid'⟩ := h.entering s pid fieldId hpc
    have hset := h.setSession s (fun sess => { sess with state := .inField }) (fun _ => rfl)
      fun sess hsess _ => by
        rcases h.loggedIn s sess pid' hsess hpid' with howned | ⟨u, hcreated⟩
        · exact howned
        · simp [hpc] at hcreated
    refine hset.congr rfl rfl (fun _ hm => hm) rfl (.inr ⟨?_, by simp, by simp⟩)
    intro s pid u
    change st.pc ≠ _
    simp [hpc]
  | inField s pid fieldId =>
    obtain ⟨out, hout⟩ := sendPayload_eq st s (.enterField fieldId pid)
    simp only
    rw [hout]
    unfold addPlayer
    obtain ⟨fields, playerData, hfield⟩ := onField_eq ({ st with out } : GameServer K)
      fieldId.toInt32 fun fw => fw.addPlayer (cfg.field fieldId.toInt32) pid (st.playerData pid)
    simp only
    rw [hfield]
    exact h.congr rfl rfl (fun _ hm => hm) rfl (.inr ⟨by simp [hpc], by simp, by simp⟩)

/-- **Sessions and their players.** -/
theorem run_owned (hsessions : Function.Injective cfg.nextSessionId)
    (hplayers : Function.Injective cfg.nextPlayerId)
    {l : List (GameServer K × ServerAction K)} {st : GameServer K}
    (r : Run (gameServerSystem cfg) l st) : st.Owned cfg := by
  induction r with
  | start h =>
    cases h
    constructor <;> simp [start]
  | @step l st st' a r h ih =>
    obtain ⟨hallowed, rfl⟩ := h
    cases a with
    | onNewConn accepted => exact ih.onNewConn hsessions accepted
    | onRead s f =>
      obtain ⟨sess, hsess, -⟩ := hallowed
      simp only [GameServer.step, onRead, hsess]
      split
      · split
        · refine { ih with queued := ?_ }
          intro msg hmsg
          rcases List.mem_append.mp hmsg with hmsg | hmsg
          · exact ih.queued msg hmsg
          · obtain rfl := List.mem_singleton.mp hmsg
            exact ⟨sess, hsess⟩
        · exact ih
      · obtain ⟨out, hout⟩ := sendToFieldWorker_eq st sess.fieldId s
        rw [hout]
        exact ih.congr rfl rfl (fun _ hm => hm) rfl (.inl rfl)
      · exact ih
    | onReadError s =>
      exact ih.setSession s _ (fun _ => rfl) fun sess hsess hin => ih.inField s sess hsess hin
    | onClosed s =>
      have hremoved : ({ st.removeSession s with
          connections := st.connections.erase s } : GameServer K).Owned cfg :=
        ih.congr rfl rfl (fun _ hm => hm) rfl (.inl rfl)
      exact hremoved.setSession s _ (fun _ => rfl) fun sess hsess hin => ih.inField s sess hsess hin
    | gameWorker => exact ih.gameStep (run_tables_inv hplayers r) hplayers
    | fieldWorker fieldId a =>
      obtain ⟨fields, playerData, hfield⟩ := onField_eq st fieldId
        fun fw => fw.step (cfg.field fieldId) a
      simp only [GameServer.step]
      rw [hfield]
      exact ih.congr rfl rfl (fun _ hm => hm) rfl (.inl rfl)

/-! ## What a step makes of a player's motion -/

end GameServer

/-- A player that is sent no direction stays where it stands, or goes on in
its direction or stops. -/
def Drifts (m m' : Motion K) : Prop :=
  (m.moveState.moving = false → m' = m) ∧
    (m'.moveState.moving = true → m'.moveState.dir = m.moveState.dir)

theorem Drifts.refl (m : Motion K) : Drifts m m :=
  ⟨fun _ => rfl, fun _ => rfl⟩

/-- It does not start. -/
theorem Drifts.moving {m m' : Motion K} (h : Drifts m m') (hm : m'.moveState.moving = true) :
    m.moveState.moving = true := by
  cases hmoving : m.moveState.moving with
  | true => rfl
  | false =>
    rw [h.1 hmoving, hmoving] at hm
    exact hm

theorem Drifts.trans {m m' m'' : Motion K} (h : Drifts m m') (h' : Drifts m' m'') :
    Drifts m m'' := by
  constructor
  · intro hm
    have hsame := h.1 hm
    rw [h'.1 (hsame ▸ hm), hsame]
  · intro hm
    exact (h'.2 hm).trans (h.2 (h'.moving hm))

theorem drifts_tick [Scalar K] (worldTime step : K) (m : Motion K) :
    Drifts m (m.tick worldTime step) := by
  unfold Motion.tick
  split
  · rename_i hlate
    exact ⟨fun hm => by simp [hm] at hlate, fun hm => by simp [Motion.halt] at hm⟩
  · split
    · rename_i hmoving
      exact ⟨fun hm => by simp [hm] at hmoving, fun _ => rfl⟩
    · exact Drifts.refl m

theorem drifts_frame [Scalar K] (dt : K) (ms : Motions K) (pid : EntityId) :
    Drifts (ms.motion pid) ((ms.frame dt).motion pid) := by
  have hpass : ∀ ms : Motions K, Drifts (ms.motion pid) (ms.pass.motion pid) := by
    intro ms
    simp only [Motions.pass, Motions.tick]
    split
    · exact drifts_tick _ _ _
    · exact Drifts.refl _
  have hloop : ∀ loops (ms : Motions K),
      Drifts (ms.motion pid) ((ms.playerLoop loops).motion pid) := by
    intro loops
    induction loops with
    | zero => exact fun ms => Drifts.refl _
    | succ loops ih =>
      intro ms
      unfold Motions.playerLoop
      split
      · exact (hpass ms).trans (ih ms.pass)
      · exact Drifts.refl _
  unfold Motions.frame
  split
  · exact Drifts.refl _
  · exact hloop 5 { ms with worldTime := ms.worldTime + dt, playerAcc := ms.playerAcc + dt }

namespace GameServer

variable [Scalar K] {cfg : ServerConfig K} {st : GameServer K}

/-- The game worker takes up a request of session `s`, whose player is
`pid`, to enter a field. -/
def TakesUpEntry (st : GameServer K) (s : SessionId) (pid : EntityId) : Prop :=
  ∃ fieldId queue p, st.pc = .idle ∧ st.queue = ⟨s, .enterField fieldId⟩ :: queue ∧
    st.pm.getBySession (some s) = some p ∧ p.id = pid

/-- What a step can do to the motion `m` of a player. -/
inductive Moves (cfg : ServerConfig K) (st : GameServer K) (pid : EntityId) (m : Motion K) :
    ServerAction K → Motion K → Prop
  | rests (a : ServerAction K) : Moves cfg st pid m a m
  | ticks (fieldId : FieldId) (policy : List K → Fin 5 → K) (dt : K) (m' : Motion K)
      (h : Drifts m m') : Moves cfg st pid m (.fieldWorker fieldId (.updateWorld policy dt)) m'
  | told (fieldId : FieldId) (d : Vec2 K) (worldTime : K) :
      Moves cfg st pid m (.fieldWorker fieldId (.moveInput (some pid) pid (some d)))
        (m.input worldTime d)
  | enters (s : SessionId) (h : st.TakesUpEntry s pid) (pos : Vec2 K) :
      Moves cfg st pid m .gameWorker { m with pos }
  | created (h : pid = cfg.nextPlayerId st.playerCount) :
      Moves cfg st pid m .gameWorker (newPlayer (K := K)).motion

theorem moves_onField (st' : GameServer K) (fieldId : FieldId)
    (f : FieldWorker K → FieldWorker K) (pid : EntityId) {m : Motion K} {a : ServerAction K}
    (hm : m = (st'.playerData pid).motion)
    (h : ∀ fw, Moves cfg st pid m a ((f (st'.attach fw)).motions.motion pid)) :
    Moves cfg st pid m a ((st'.onField fieldId f).playerData pid).motion := by
  unfold onField
  cases st'.fields fieldId with
  | none => exact hm ▸ .rests a
  | some fw => exact h fw

theorem dispatch_moves (st' : GameServer K) {msg : NetMessage} {queue : List NetMessage}
    (hidle : st.pc = .idle) (hqueue : st.queue = msg :: queue) (hpm : st'.pm = st.pm)
    (hcount : st'.playerCount = st.playerCount) (hdata : st'.playerData = st.playerData)
    (pid : EntityId) :
    Moves cfg st pid (st.playerData pid).motion .gameWorker
      ((dispatch cfg st' msg).playerData pid).motion := by
  unfold dispatch
  cases hrequest : msg.request with
  | ping | other =>
    simp only
    rw [hdata]
    exact .rests _
  | login userId token =>
    unfold onRecvLogin
    simp only
    split
    · rw [hdata]
      exact .rests _
    · by_cases hpid : pid = cfg.nextPlayerId st.playerCount
      · simp only [hcount, hpid, Function.update_self]
        exact .created rfl
      · simp only [hcount, Function.update_of_ne hpid, hdata]
        exact .rests _
  | enterField fieldId =>
    unfold onRecvEnterField
    cases hp : st'.pm.getBySession (some msg.session) with
    | none =>
      simp only
      rw [hdata]
      exact .rests _
    | some player =>
      simp only
      generalize hst₁ : ({ st' with
        fieldIdOf := Function.update st'.fieldIdOf player.id fieldId.toInt32
        playerData := Function.update st'.playerData player.id
          { st'.playerData player.id with pos := ⟨lit 102.1, lit 155.91⟩ } } : GameServer K) = st₁
      have hmoves : Moves cfg st pid (st.playerData pid).motion .gameWorker
          (st₁.playerData pid).motion := by
        subst hst₁
        by_cases hpid : pid = player.id
        · subst hpid
          simp only [Function.update_self, hdata]
          refine .enters msg.session ⟨fieldId, queue, player, hidle, ?_, hpm ▸ hp, rfl⟩ _
          rw [hqueue, ← hrequest]
        · simp only [Function.update_of_ne hpid, hdata]
          exact .rests _
      obtain ⟨fields, hfields⟩ := createField_eq cfg st₁ fieldId.toInt32
      rw [hfields]
      split
      · exact hmoves
      · exact hmoves
  | skillCmd skill targetId =>
    unfold onRecvSkillCmd
    cases st'.sessions msg.session with
    | none =>
      simp only
      rw [hdata]
      exact .rests _
    | some sess =>
      simp only
      split
      · obtain ⟨out, hout⟩ := sendPayload_eq st' msg.session (.skillCmd skill targetId)
        rw [hout, hdata]
        exact .rests _
      · obtain ⟨out, hout⟩ := sendToFieldWorker_eq st' sess.fieldId msg.session
        rw [hout, hdata]
        exact .rests _

theorem gameStep_moves (cfg : ServerConfig K) (st : GameServer K) (pid : EntityId) :
    Moves cfg st pid (st.playerData pid).motion .gameWorker
      ((st.gameStep cfg).playerData pid).motion := by
  unfold gameStep
  cases hpc : st.pc with
  | idle =>
    cases hqueue : st.queue with
    | nil => exact .rests _
    | cons msg queue =>
      exact dispatch_moves { st with queue, pc := .idle } hpc hqueue rfl rfl rfl pid
  | created s pid' u => exact .rests _
  | named s pid' u =>
    obtain ⟨out, hout⟩ := sendPayload_eq (st.bindPlayer pid' s) s (.login pid' u 1000)
    simp only
    rw [hout]
    exact .rests _
  | prepared s pid' fieldId => exact .rests _
  | inField s pid' fieldId =>
    obtain ⟨out, hout⟩ := sendPayload_eq st s (.enterField fieldId pid')
    simp only
    rw [hout]
    unfold addPlayer
    refine moves_onField { st with out } fieldId.toInt32 _ pid rfl fun fw => ?_
    -- a player comes into a field as it is
    rw [FieldWorker.motions_addPlayer]
    by_cases hpid : pid = pid'
    · subst hpid
      simp only [Motions.setMotion, Function.update_self]
      exact .rests _
    · simp only [Motions.setMotion, Function.update_of_ne hpid]
      exact .rests _

/-- **What moves a player**: ticks, the input of its session, entering a
field, and being created. -/
theorem step_moves (cfg : ServerConfig K) {a : ServerAction K} (ha : st.Allowed a)
    (pid : EntityId) :
    Moves cfg st pid (st.playerData pid).motion a ((st.step cfg a).playerData pid).motion := by
  cases a with
  | onNewConn accepted =>
    simp only [step, onNewConn]
    split
    · exact .rests _
    · exact .rests _
  | onRead s f =>
    simp only [step, onRead]
    cases st.sessions s with
    | none => exact .rests _
    | some sess =>
      simp only
      split
      · split
        · exact .rests _
        · exact .rests _
      · obtain ⟨out, hout⟩ := sendToFieldWorker_eq st sess.fieldId s
        rw [hout]
        exact .rests _
      · exact .rests _
  | onReadError s => exact .rests _
  | onClosed s => exact .rests _
  | gameWorker => exact gameStep_moves cfg st pid
  | fieldWorker fieldId a =>
    simp only [step]
    refine moves_onField st fieldId _ pid rfl fun fw => ?_
    generalize hfw : st.attach fw = fw
    have hm : (st.playerData pid).motion = fw.motions.motion pid := by
      rw [← hfw]
      rfl
    rw [hm, FieldWorker.step_motions]
    cases a with
    | moveInput session entityId dir =>
      simp only [Motions.step]
      cases haccepted : fw.motions.accepted session entityId dir with
      | none => exact .rests _
      | some d =>
        obtain ⟨⟨rfl, -⟩, rfl⟩ : (session = some entityId ∧ entityId ∈ fw.motions.players) ∧
            dir = some d := by
          unfold Motions.accepted at haccepted
          split at haccepted
          · rename_i htaken
            exact ⟨htaken, haccepted⟩
          · cases haccepted
        by_cases hpid : pid = entityId
        · subst hpid
          rw [Motions.setMotion_motion]
          exact .told fieldId d _
        · simp only [Motions.setMotion, Function.update_of_ne hpid]
          exact .rests _
    | skill session targetId => exact .rests _
    | updateWorld policy dt => exact .ticks fieldId policy dt _ (drifts_frame dt fw.motions pid)
    | addPlayer _ _ | removePlayer _ | setSession _ _ | setRegistered _ _ => exact ha.elim

/-! ## What stays -/

/-- A player stays that of its session. -/
theorem step_owns (hinv : st.tables.Inv cfg) (hids : Function.Injective cfg.nextPlayerId)
    {a : ServerAction K} (ha : st.Allowed a) {s : SessionId} {pid : EntityId}
    (h : st.Owns s pid) : (st.step cfg a).Owns s pid := by
  obtain ⟨p, hp, hsession⟩ := h
  refine ⟨p, ?_, hsession⟩
  change (st.step cfg a).tables.pm.playersById pid = some p
  rw [step_tables cfg st ha]
  exact hinv.stays hids _ hp

/-- The session is in `InField`. -/
def InField (st : GameServer K) (s : SessionId) : Prop :=
  ∃ sess, st.sessions s = some sess ∧ sess.state = .inField

omit [Scalar K] in
theorem InField.setSession {s : SessionId} (h : st.InField s) (s' : SessionId)
    (f : Session → Session) (hf : ∀ sess, sess.state = .inField → (f sess).state = .inField) :
    (st.setSession s' f).InField s := by
  obtain ⟨sess, hsess, hstate⟩ := h
  unfold InField GameServer.setSession
  by_cases hs : s = s'
  · subst hs
    exact ⟨f sess, by simp [hsess], hf sess hstate⟩
  · exact ⟨sess, by simp [hs, hsess], hstate⟩

theorem InField.dispatch {s : SessionId} (h : st.InField s) (msg : NetMessage) :
    (GameServer.dispatch cfg st msg).InField s := by
  unfold GameServer.dispatch
  cases msg.request with
  | ping | other => exact h
  | login userId token =>
    unfold onRecvLogin
    simp only
    split
    · exact h
    · exact h
  | enterField fieldId =>
    unfold onRecvEnterField
    cases st.pm.getBySession (some msg.session) with
    | none => exact h
    | some player =>
      simp only
      generalize hst₁ : ({ st with
        fieldIdOf := Function.update st.fieldIdOf player.id fieldId.toInt32
        playerData := Function.update st.playerData player.id
          { st.playerData player.id with pos := ⟨lit 102.1, lit 155.91⟩ } } : GameServer K) = st₁
      have h₁ : st₁.InField s := by
        subst hst₁
        exact h
      obtain ⟨fields, hfields⟩ := createField_eq cfg st₁ fieldId.toInt32
      rw [hfields]
      have h₂ : ({ st₁ with fields } : GameServer K).InField s := h₁
      split
      · exact h₂
      · exact h₂.setSession msg.session _ fun _ hstate => hstate
  | skillCmd skill targetId =>
    unfold onRecvSkillCmd
    cases st.sessions msg.session with
    | none => exact h
    | some sess =>
      simp only
      split
      · obtain ⟨out, hout⟩ := sendPayload_eq st msg.session (.skillCmd skill targetId)
        rw [hout]
        exact h
      · obtain ⟨out, hout⟩ := sendToFieldWorker_eq st sess.fieldId msg.session
        rw [hout]
        exact h

theorem InField.gameStep {s : SessionId} (h : st.InField s) : (st.gameStep cfg).InField s := by
  unfold GameServer.gameStep
  cases st.pc with
  | idle =>
    cases st.queue with
    | nil => exact h
    | cons msg queue =>
      have hpop : ({ st with queue, pc := .idle } : GameServer K).InField s := h
      exact hpop.dispatch msg
  | created s' pid u => exact h.setSession s' _ fun _ hstate => hstate
  | named s' pid u =>
    obtain ⟨out, hout⟩ := sendPayload_eq (st.bindPlayer pid s') s' (.login pid u 1000)
    simp only
    rw [hout]
    exact h
  | prepared s' pid fieldId => exact h.setSession s' _ fun _ _ => rfl
  | inField s' pid fieldId =>
    obtain ⟨out, hout⟩ := sendPayload_eq st s' (.enterField fieldId pid)
    simp only
    rw [hout]
    unfold addPlayer
    obtain ⟨fields, playerData, hfield⟩ := onField_eq ({ st with out } : GameServer K)
      fieldId.toInt32 fun fw => fw.addPlayer (cfg.field fieldId.toInt32) pid (st.playerData pid)
    simp only
    rw [hfield]
    exact h

/-- A session in `InField` stays in it. -/
theorem InField.step (howned : st.Owned cfg) (hids : Function.Injective cfg.nextSessionId)
    {s : SessionId} (h : st.InField s) (a : ServerAction K) : (st.step cfg a).InField s := by
  cases a with
  | onNewConn accepted =>
    obtain ⟨sess, hsess, hstate⟩ := h
    obtain ⟨n, hn, rfl⟩ := howned.issued s sess hsess
    have hne : cfg.nextSessionId n ≠ cfg.nextSessionId st.sessionCount := by
      intro heq
      have := hids heq
      omega
    simp only [GameServer.step, GameServer.onNewConn]
    split
    · exact ⟨sess, by simp [addSession, Function.update_of_ne hne, hsess], hstate⟩
    · exact ⟨sess, hsess, hstate⟩
  | onRead s' f =>
    simp only [GameServer.step, onRead]
    cases st.sessions s' with
    | none => exact h
    | some sess =>
      simp only
      split
      · split
        · exact h
        · exact h
      · obtain ⟨out, hout⟩ := sendToFieldWorker_eq st sess.fieldId s'
        rw [hout]
        exact h
      · exact h
  | onReadError s' => exact h.setSession s' _ fun _ hstate => hstate
  | onClosed s' =>
    have hremoved : ({ st.removeSession s' with
        connections := st.connections.erase s' } : GameServer K).InField s := h
    exact hremoved.setSession s' _ fun _ hstate => hstate
  | gameWorker => exact h.gameStep
  | fieldWorker fieldId a =>
    obtain ⟨fields, playerData, hfield⟩ := onField_eq st fieldId
      fun fw => fw.step (cfg.field fieldId) a
    simp only [GameServer.step]
    rw [hfield]
    exact h

omit [Scalar K] in
/-- The session that asks to enter is the player's. -/
theorem TakesUpEntry.owns (howned : st.Owned cfg) (hinv : st.tables.Inv cfg) {s : SessionId}
    {pid : EntityId} (h : st.TakesUpEntry s pid) : st.Owns s pid := by
  obtain ⟨fieldId, queue, p, -, -, hp, rfl⟩ := h
  have hregistered : st.pm.playersById p.id = some p := Tables.getBySession_registered hinv hp
  unfold PlayerManager.getBySession at hp
  cases hid : st.pm.idBySession (some s) with
  | none => simp [hid] at hp
  | some id =>
    simp only [hid] at hp
    obtain ⟨⟨p', hp', hsession⟩, -⟩ := howned.indexed s id hid
    obtain rfl : p = p' := Option.some.inj (hp.symm.trans hp')
    exact ⟨p, hregistered, hsession⟩

end GameServer

namespace FieldServer

variable [Scalar K] {cfg : ServerConfig K} {st : FieldServer K}

/-! ## The queues -/

/-- What a step is to `GameServer`, if anything. -/
def serverAction (st : FieldServer K) : FieldServerAction K → Option (ServerAction K)
  | .onNewConn accepted => some (.onNewConn accepted)
  | .onRead s f _ => some (.onRead s f)
  | .onReadError s => some (.onReadError s)
  | .onClosed s => some (.onClosed s)
  | .gameWorker => some .gameWorker
  | .handleMessage fieldId =>
    match st.fieldQueue fieldId with
    | [] => none
    | msg :: _ => (st.fieldAction msg).map (.fieldWorker fieldId)
  | .updateWorld fieldId policy dt => some (.fieldWorker fieldId (.updateWorld policy dt))

theorem step_server (cfg : ServerConfig K) (st : FieldServer K) (a : FieldServerAction K) :
    (st.step cfg a).server =
      match st.serverAction a with
      | none => st.server
      | some b => st.server.step cfg b := by
  cases a with
  | handleMessage fieldId =>
    simp only [step, handleMessage, serverAction]
    cases st.fieldQueue fieldId with
    | nil => rfl
    | cons msg rest =>
      simp only
      cases st.fieldAction msg with
      | none => rfl
      | some b => rfl
  | onNewConn _ | onRead _ _ _ | onReadError _ | onClosed _ | gameWorker | updateWorld _ _ _ => rfl

omit [Scalar K] in
/-- A field worker handles the front of its queue. -/
theorem serverAction_handleMessage {fieldId : FieldId} {b : ServerAction K}
    (h : st.serverAction (.handleMessage fieldId) = some b) :
    ∃ msg rest c, st.fieldQueue fieldId = msg :: rest ∧ st.fieldAction msg = some c ∧
      b = .fieldWorker fieldId c := by
  simp only [serverAction] at h
  cases hqueue : st.fieldQueue fieldId with
  | nil => simp [hqueue] at h
  | cons msg rest =>
    simp only [hqueue, Option.map_eq_some_iff] at h
    obtain ⟨c, hc, rfl⟩ := h
    exact ⟨msg, rest, c, rfl, hc, rfl⟩

omit [Scalar K] in
theorem fieldAction_cases {msg : FieldMessage K} {c : FieldAction K}
    (h : st.fieldAction msg = some c) :
    (∃ s entityId dir, msg = .custom s (some (entityId, dir)) ∧
      c = .moveInput (st.playerIdOf s) entityId dir) ∨
    ∃ s targetId, msg = .skill s targetId ∧ c = .skill (st.playerIdOf s) targetId := by
  cases msg with
  | custom s move =>
    cases move with
    | none => simp [fieldAction] at h
    | some m => exact .inl ⟨s, m.1, m.2, rfl, (Option.some.inj h).symm⟩
  | skill s targetId => exact .inr ⟨s, targetId, rfl, (Option.some.inj h).symm⟩

omit [Scalar K] in
theorem serverAction_allowed {a : FieldServerAction K} {b : ServerAction K} (ha : st.Allowed a)
    (hb : st.serverAction a = some b) : st.server.Allowed b := by
  cases a with
  | handleMessage fieldId =>
    obtain ⟨msg, rest, c, -, hc, rfl⟩ := serverAction_handleMessage hb
    rcases fieldAction_cases hc with ⟨s, entityId, dir, -, rfl⟩ | ⟨s, targetId, -, rfl⟩
    · exact trivial
    · exact trivial
  | onRead s f move =>
    cases hb
    exact ha
  | onReadError s =>
    cases hb
    exact ha
  | onClosed s =>
    cases hb
    exact ha
  | onNewConn _ | gameWorker | updateWorld _ _ _ =>
    cases hb
    exact trivial

/-- **Simulation.** With its queues the server runs as `GameServer` does. -/
theorem fieldServer_simulates {l : List (FieldServer K × FieldServerAction K)}
    (r : Run (fieldServerSystem cfg) l st) : ∃ l', Run (gameServerSystem cfg) l' st.server := by
  refine r.simulate server ?_ ?_
  · rintro st rfl
    rfl
  · rintro st a st' ⟨ha, rfl⟩
    rw [step_server]
    cases hb : st.serverAction a with
    | none => exact .inl rfl
    | some b => exact .inr ⟨b, serverAction_allowed ha hb, rfl⟩

/-- The command was read off the session while it was in `InField`. -/
def Heard (l : List (FieldServer K × FieldServerAction K)) (s : SessionId)
    (move : Option (EntityId × Option (Vec2 K))) : Prop :=
  ∃ e ∈ l, e.1.server.InField s ∧ ∃ f, e.2 = .onRead s f move

omit [Scalar K] in
theorem Heard.cons {l : List (FieldServer K × FieldServerAction K)} {s : SessionId}
    {move : Option (EntityId × Option (Vec2 K))} (h : Heard l s move)
    (e : FieldServer K × FieldServerAction K) : Heard (e :: l) s move := by
  obtain ⟨e', he, hrest⟩ := h
  exact ⟨e', List.mem_cons_of_mem e he, hrest⟩

omit [Scalar K] in
theorem mem_push {fieldId fieldId' : FieldId} {msg msg' : FieldMessage K}
    (h : msg ∈ (st.push fieldId' msg').fieldQueue fieldId) :
    msg ∈ st.fieldQueue fieldId ∨ msg = msg' := by
  unfold push at h
  split at h
  · by_cases hf : fieldId = fieldId'
    · subst hf
      simpa using h
    · exact .inl (by simpa [hf] using h)
  · exact .inl h

omit [Scalar K] in
/-- Which step gives a field worker a direction. -/
theorem serverAction_moveInput {a : FieldServerAction K} {fieldId : FieldId} {pid : EntityId}
    {d : Vec2 K} (h : st.serverAction a =
      some (.fieldWorker fieldId (.moveInput (some pid) pid (some d)))) :
    ∃ s rest, st.fieldQueue fieldId = .custom s (some (pid, some d)) :: rest ∧
      st.playerIdOf s = some pid := by
  cases a with
  | handleMessage fieldId' =>
    obtain ⟨msg, rest, c, hqueue, hc, heq⟩ := serverAction_handleMessage h
    obtain ⟨rfl, rfl⟩ := ServerAction.fieldWorker.inj heq
    rcases fieldAction_cases hc with ⟨s, entityId, dir, rfl, heq⟩ | ⟨s, targetId, -, heq⟩
    · obtain ⟨hs, rfl, rfl⟩ := FieldAction.moveInput.inj heq
      exact ⟨s, rest, hqueue, hs.symm⟩
    · cases heq
  | onNewConn _ | onRead _ _ _ | onReadError _ | onClosed _ | gameWorker | updateWorld _ _ _ =>
    simp [serverAction] at h

omit [Scalar K] in
theorem serverAction_updateWorld {a : FieldServerAction K} {fieldId : FieldId}
    {policy : List K → Fin 5 → K} {dt : K}
    (h : st.serverAction a = some (.fieldWorker fieldId (.updateWorld policy dt))) :
    a = .updateWorld fieldId policy dt := by
  cases a with
  | handleMessage fieldId' =>
    obtain ⟨msg, rest, c, -, hc, heq⟩ := serverAction_handleMessage h
    obtain ⟨rfl, rfl⟩ := ServerAction.fieldWorker.inj heq
    rcases fieldAction_cases hc with ⟨s, entityId, dir, -, heq⟩ | ⟨s, targetId, -, heq⟩
    · cases heq
    · cases heq
  | updateWorld _ _ _ => simpa [serverAction] using h
  | onNewConn _ | onRead _ _ _ | onReadError _ | onClosed _ | gameWorker =>
    simp [serverAction] at h

omit [Scalar K] in
theorem serverAction_gameWorker {a : FieldServerAction K}
    (h : st.serverAction a = some .gameWorker) : a = .gameWorker := by
  cases a with
  | handleMessage fieldId =>
    obtain ⟨msg, rest, c, -, -, heq⟩ := serverAction_handleMessage h
    cases heq
  | gameWorker => rfl
  | onNewConn _ | onRead _ _ _ | onReadError _ | onClosed _ | updateWorld _ _ _ =>
    simp [serverAction] at h

/-- What a step leaves in a queue was there, or is read off a session in
`InField`, or is a skill. -/
theorem mem_fieldQueue_step {a : FieldServerAction K} {fieldId : FieldId} {s : SessionId}
    {move : Option (EntityId × Option (Vec2 K))}
    (h : .custom s move ∈ (st.step cfg a).fieldQueue fieldId) :
    .custom s move ∈ st.fieldQueue fieldId ∨
      st.server.InField s ∧ ∃ f, a = .onRead s f move := by
  cases a with
  | onRead s' f move' =>
    simp only [step, onRead] at h
    cases hsess : st.server.sessions s' with
    | none =>
      simp only [hsess] at h
      exact .inl h
    | some sess =>
      simp only [hsess] at h
      split at h
      · rename_i hroute
        rcases mem_push h with h | h
        · exact .inl h
        · cases h
          refine .inr ⟨⟨sess, hsess, ?_⟩, f, rfl⟩
          unfold Frame.route at hroute
          by_contra hstate
          rw [if_neg hstate] at hroute
          split at hroute <;> cases hroute
      · exact .inl h
  | gameWorker =>
    simp only [step, gameStep] at h
    split at h
    · split at h
      · exact .inl h
      · split at h
        · exact .inl h
        · rcases mem_push h with h | h
          · exact .inl h
          · cases h
    · exact .inl h
  | handleMessage fieldId' =>
    simp only [step, handleMessage] at h
    cases hqueue : st.fieldQueue fieldId' with
    | nil =>
      simp only [hqueue] at h
      exact .inl h
    | cons msg rest =>
      have hpopped : .custom s move ∈ Function.update st.fieldQueue fieldId' rest fieldId := by
        simp only [hqueue] at h
        cases hc : st.fieldAction msg with
        | none => simpa [hc] using h
        | some c => simpa [hc] using h
      left
      by_cases hf : fieldId = fieldId'
      · subst hf
        rw [Function.update_self] at hpopped
        rw [hqueue]
        exact List.mem_cons_of_mem msg hpopped
      · rwa [Function.update_of_ne hf] at hpopped
  | onNewConn _ | onReadError _ | onClosed _ | updateWorld _ _ _ => exact .inl h

/-- A command in a queue was read off its session, which is still in
`InField`. -/
theorem run_fieldQueue (hsessions : Function.Injective cfg.nextSessionId)
    (hplayers : Function.Injective cfg.nextPlayerId)
    {l : List (FieldServer K × FieldServerAction K)} (r : Run (fieldServerSystem cfg) l st)
    {fieldId : FieldId} {s : SessionId} {move : Option (EntityId × Option (Vec2 K))}
    (h : .custom s move ∈ st.fieldQueue fieldId) : st.server.InField s ∧ Heard l s move := by
  induction r generalizing fieldId s move with
  | start h0 =>
    cases h0
    cases h
  | @step l st st' a r hstep ih =>
    obtain ⟨ha, rfl⟩ := hstep
    obtain ⟨l', r'⟩ := fieldServer_simulates r
    have howned := GameServer.run_owned hsessions hplayers r'
    have hkeep : st.server.InField s → (st.step cfg a).server.InField s := by
      intro hin
      rw [step_server]
      cases st.serverAction a with
      | none => exact hin
      | some b => exact hin.step howned hsessions b
    rcases mem_fieldQueue_step h with h | ⟨hin, f, rfl⟩
    · obtain ⟨hin, hheard⟩ := ih h
      exact ⟨hkeep hin, hheard.cons _⟩
    · exact ⟨hkeep hin, _, List.mem_cons_self, hin, f, rfl⟩

/-! ## Whose command it is -/

/-- The direction a player takes when sent `d`. -/
def heading (d : Vec2 K) : Vec2 K :=
  let invLen := lit 1 / sqrt (d.x * d.x + d.y * d.y)
  ⟨d.x * invLen, d.y * invLen⟩

theorem input_pos (worldTime : K) (m : Motion K) (d : Vec2 K) :
    (m.input worldTime d).pos = m.pos := by
  unfold Motion.input
  simp only
  split
  · split <;> rfl
  · rfl

theorem input_dir {worldTime : K} {m : Motion K} {d : Vec2 K}
    (h : (m.input worldTime d).moveState.moving = true) :
    (m.input worldTime d).moveState.dir = heading d := by
  unfold Motion.input at h ⊢
  simp only at h ⊢
  split at h
  · split at h
    · simp [Motion.halt] at h
    · contradiction
  · rename_i hlen
    rw [if_neg hlen]
    rfl

/-- A player on the move goes where the client of its session sent it. -/
theorem moving_was_sent (hsessions : Function.Injective cfg.nextSessionId)
    (hplayers : Function.Injective cfg.nextPlayerId)
    {l : List (FieldServer K × FieldServerAction K)} (r : Run (fieldServerSystem cfg) l st)
    {pid : EntityId} (hmoving : (st.server.playerData pid).moveState.moving = true) :
    ∃ s d, st.server.Owns s pid ∧ Heard l s (some (pid, some d)) ∧
      (st.server.playerData pid).moveState.dir = heading d := by
  induction r with
  | start h0 =>
    cases h0
    simp [GameServer.start, GameServer.newPlayer] at hmoving
  | @step l st st' a r hstep ih =>
    obtain ⟨ha, rfl⟩ := hstep
    obtain ⟨l', r'⟩ := fieldServer_simulates r
    have howned := GameServer.run_owned hsessions hplayers r'
    have hinv := GameServer.run_tables_inv hplayers r'
    rw [step_server] at hmoving ⊢
    cases hb : st.serverAction a with
    | none =>
      simp only [hb] at hmoving ⊢
      obtain ⟨s, d, howns, hheard, hdir⟩ := ih hmoving
      exact ⟨s, d, howns, hheard.cons _, hdir⟩
    | some b =>
      simp only [hb] at hmoving ⊢
      have hallowed := serverAction_allowed ha hb
      -- a player that was moving already, in the same direction
      have hsame : ((st.server.step cfg b).playerData pid).moveState.dir =
            (st.server.playerData pid).moveState.dir →
          (st.server.playerData pid).moveState.moving = true →
          ∃ s d, (st.server.step cfg b).Owns s pid ∧ Heard ((st, a) :: l) s (some (pid, some d)) ∧
            ((st.server.step cfg b).playerData pid).moveState.dir = heading d := by
        intro hdir hmoving
        obtain ⟨s, d, howns, hheard, hdir'⟩ := ih hmoving
        exact ⟨s, d, GameServer.step_owns hinv hplayers hallowed howns, hheard.cons _,
          hdir.trans hdir'⟩
      have hmoves := GameServer.step_moves cfg hallowed pid
      rw [← Player.motion_moveState] at hmoving hsame ⊢
      generalize ((st.server.step cfg b).playerData pid).motion = m' at hmoves hmoving hsame ⊢
      cases hmoves with
      | rests => exact hsame rfl hmoving
      | ticks fieldId policy dt m' hdrifts =>
        exact hsame (hdrifts.2 hmoving) (hdrifts.moving hmoving)
      | told fieldId d worldTime =>
        obtain ⟨s, rest, hqueue, hs⟩ := serverAction_moveInput hb
        obtain ⟨⟨sess, hsess, hstate⟩, hheard⟩ :=
          run_fieldQueue hsessions hplayers r (hqueue ▸ List.mem_cons_self)
        have hpid : sess.playerId = pid := by
          simpa [playerIdOf, hsess] using hs
        have howns : st.server.Owns s pid := hpid ▸ howned.inField s sess hsess hstate
        refine ⟨s, d, GameServer.step_owns hinv hplayers hallowed howns, hheard.cons _, ?_⟩
        exact input_dir hmoving
      | enters s hs pos => exact hsame rfl hmoving
      | created hpid => simp [GameServer.newPlayer] at hmoving

/-- **Whose command moves a player.** A player on the move goes in a
direction that was read off the session it was created for, while that was
in a field. A player is taken from where it stands by a tick, if it is on
the move, and by the game worker, when that session asks to enter a field. -/
theorem only_its_client_moves_a_player (hsessions : Function.Injective cfg.nextSessionId)
    (hplayers : Function.Injective cfg.nextPlayerId)
    {l : List (FieldServer K × FieldServerAction K)} (r : Run (fieldServerSystem cfg) l st)
    (pid : EntityId) :
    ((st.server.playerData pid).moveState.moving = true →
      ∃ s d, st.server.Owns s pid ∧ Heard l s (some (pid, some d)) ∧
        (st.server.playerData pid).moveState.dir = heading d) ∧
    ∀ a, st.Allowed a → (∃ p, st.server.pm.playersById pid = some p) →
      ((st.step cfg a).server.playerData pid).pos ≠ (st.server.playerData pid).pos →
        ((∃ fieldId policy dt, a = .updateWorld fieldId policy dt) ∧
          (st.server.playerData pid).moveState.moving = true) ∨
        (a = .gameWorker ∧ ∃ s, st.server.TakesUpEntry s pid ∧ st.server.Owns s pid) := by
  refine ⟨moving_was_sent hsessions hplayers r, ?_⟩
  intro a ha ⟨p, hp⟩ hpos
  obtain ⟨l', r'⟩ := fieldServer_simulates r
  have howned := GameServer.run_owned hsessions hplayers r'
  have hinv := GameServer.run_tables_inv hplayers r'
  rw [step_server] at hpos
  cases hb : st.serverAction a with
  | none => simp [hb] at hpos
  | some b =>
    simp only [hb] at hpos
    have hmoves := GameServer.step_moves cfg (serverAction_allowed ha hb) pid
    rw [← Player.motion_pos, ← Player.motion_pos] at hpos
    rw [← Player.motion_moveState]
    generalize ((st.server.step cfg b).playerData pid).motion = m' at hmoves hpos
    cases hmoves with
    | rests => exact absurd rfl hpos
    | ticks fieldId policy dt m' hdrifts =>
      left
      refine ⟨⟨fieldId, policy, dt, serverAction_updateWorld hb⟩, ?_⟩
      by_contra hstands
      rw [Bool.not_eq_true] at hstands
      exact hpos (congrArg Motion.pos (hdrifts.1 hstands))
    | told fieldId d worldTime => exact absurd (input_pos _ _ _) hpos
    | enters s hs pos => exact .inr ⟨serverAction_gameWorker hb, s, hs, hs.owns howned hinv⟩
    | created hpid =>
      have hfree := hinv.next_free hplayers
      rw [hpid] at hp
      exact absurd (hfree.symm.trans hp) (by simp)

/-- Session 1 logs in, enters field 1 and sends its player east. -/
def walkEast : List (FieldServerAction ℚ) :=
  [.onNewConn true, .onRead 1 { envelope := some (.login (some "a") (some "t")) } none,
    .gameWorker, .gameWorker, .gameWorker,
    .onRead 1 { envelope := some (.enterField 1) } none, .gameWorker, .gameWorker, .gameWorker,
    .onRead 1 { envelope := none, fieldCmd := true } (some (1, some ⟨1, 0⟩)), .handleMessage 1]

theorem client_sends_player_east : ∃ l st, Run (fieldServerSystem GameServer.rationalConfig) l st ∧
    (st.server.playerData 1).moveState.moving = true ∧
    ∃ s d, st.server.Owns s 1 ∧ Heard l s (some (1, some d)) ∧
      (st.server.playerData 1).moveState.dir = heading d := by
  have r : Run (fieldServerSystem GameServer.rationalConfig) [] { server := .start } := .start rfl
  have r := (r.next (.onNewConn true) ⟨trivial, rfl⟩).next
    (.onRead 1 { envelope := some (.login (some "a") (some "t")) } none) ⟨⟨_, rfl, rfl⟩, rfl⟩
  have r := ((r.next .gameWorker ⟨trivial, rfl⟩).next .gameWorker ⟨trivial, rfl⟩).next
    .gameWorker ⟨trivial, rfl⟩
  have r := r.next (.onRead 1 { envelope := some (.enterField 1) } none) ⟨⟨_, rfl, rfl⟩, rfl⟩
  have r := ((r.next .gameWorker ⟨trivial, rfl⟩).next .gameWorker ⟨trivial, rfl⟩).next
    .gameWorker ⟨trivial, rfl⟩
  have r := (r.next (.onRead 1 { envelope := none, fieldCmd := true } (some (1, some ⟨1, 0⟩)))
    ⟨⟨_, rfl, rfl⟩, rfl⟩).next (.handleMessage 1) ⟨trivial, rfl⟩
  have hmoving : (((walkEast.foldl (step GameServer.rationalConfig)
      { server := .start }).server.playerData 1).moveState.moving) = true := by decide +kernel
  have hids : Function.Injective GameServer.rationalConfig.nextSessionId :=
    fun _ _ h => Nat.succ.inj h
  exact ⟨_, _, r, hmoving, (only_its_client_moves_a_player hids GameServer.rationalConfig_ids r
    1).1 hmoving⟩

end FieldServer

end MmorpgServer.Game
