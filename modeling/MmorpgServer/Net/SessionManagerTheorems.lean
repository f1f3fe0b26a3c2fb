/-
MmorpgServer.Net.SessionManagerTheorems — a lookup follows the last
binding.

What `find_by_player_id` returns for a player is a register of its own
(`playerRegister`): `bind_player` writes it, and `unbind_player`,
`remove_session` and the end of the session clear it. Entries of other
players, and those whose session has expired, do not show in it; so it
makes no difference when they are erased.

* `ofPlayer_next`, `ofSessionId_next` — what a step does to a lookup.
* `find_by_player_id_follows_last_binding` — what it finds after any run.
* `ofSessionId_eq_some_iff` — the same for `find_by_session_id`.
-/
import MmorpgServer.Net.SessionManager

namespace MmorpgServer.Net

open MmorpgServer.Lib

variable {S : Type} [DecidableEq S] {sessionId : S → Nat}

theorem lock_eq_some_iff {destroyed : Finset S} {sess s : S} :
    lock destroyed sess = some s ↔ sess = s ∧ s ∉ destroyed := by
  unfold lock
  split
  · rename_i hdead
    refine iff_of_false (Option.some_ne_none s).symm ?_
    rintro ⟨rfl, halive⟩
    exact halive hdead
  · rename_i halive
    rw [Option.some_inj]
    constructor
    · rintro rfl
      exact ⟨rfl, halive⟩
    · exact And.left

theorem lock_of_alive {destroyed : Finset S} {s : S} (h : s ∉ destroyed) :
    lock destroyed s = some s :=
  lock_eq_some_iff.mpr ⟨rfl, h⟩

/-- One more session is destroyed. -/
theorem lock_insert (destroyed : Finset S) (gone sess : S) :
    lock (insert gone destroyed) sess =
      (lock destroyed sess).filter fun s => !decide (gone = s) := by
  ext s
  rw [lock_eq_some_iff, Option.filter_eq_some_iff, lock_eq_some_iff]
  simp only [Finset.mem_insert, not_or, Bool.not_eq_true', decide_eq_false_iff_not]
  exact ⟨fun ⟨heq, hne, halive⟩ => ⟨⟨heq, halive⟩, Ne.symm hne⟩,
    fun ⟨⟨heq, halive⟩, hne⟩ => ⟨heq, Ne.symm hne, halive⟩⟩

theorem bind_lock_insert (destroyed : Finset S) (gone : S) (entry : Option S) :
    entry.bind (lock (insert gone destroyed)) =
      (entry.bind (lock destroyed)).filter fun s => !decide (gone = s) := by
  cases entry with
  | none => rfl
  | some sess => exact lock_insert _ _ _

/-- What the loop of `remove_session` leaves of an entry, once locked. -/
theorem filter_dropped (destroyed : Finset S) (sid : Nat) (entry : Option S) :
    (entry.filter fun sess => !SessionManager.dropped sessionId destroyed sid sess).bind
        (lock destroyed) =
      (entry.bind (lock destroyed)).filter fun s => !decide (sessionId s = sid) := by
  cases entry with
  | none => rfl
  | some sess =>
    rw [Option.filter_some, Option.bind_some]
    unfold SessionManager.dropped
    cases hlock : lock destroyed sess with
    | none => rfl
    | some s =>
      by_cases hsid : sessionId s = sid
      · simp [Option.filter_some, hsid]
      · simp [Option.filter_some, hsid, hlock]

namespace ManagedSessions

/-! ## One step -/

theorem ofPlayer_eq (st : ManagedSessions S) (p : Nat) :
    st.ofPlayer p = (st.manager.sessionsByPlayerId.lookup p).bind (lock st.destroyed) := by
  unfold ofPlayer SessionManager.findByPlayerId
  split
  · rename_i hlookup
    rw [hlookup]
    rfl
  · rename_i sess hlookup
    rw [hlookup, Option.bind_some]
    split <;> rename_i hlock <;> rw [hlock]

theorem ofSessionId_eq (st : ManagedSessions S) (sid : Nat) :
    st.ofSessionId sid = (st.manager.sessionsBySessionId.lookup sid).bind (lock st.destroyed) := by
  unfold ofSessionId SessionManager.findBySessionId
  split <;> rename_i hlookup <;> rw [hlookup] <;> rfl

/-- The entry a lookup erases has expired. -/
theorem lookup_findByPlayerId (m : SessionManager S) (destroyed : Finset S) (p p' : Nat) :
    ((m.findByPlayerId destroyed p').2.sessionsByPlayerId.lookup p).bind (lock destroyed) =
      (m.sessionsByPlayerId.lookup p).bind (lock destroyed) := by
  unfold SessionManager.findByPlayerId
  split
  · rfl
  · rename_i sess hlookup
    split
    · rename_i hlock
      by_cases hp : p = p'
      · subst hp
        rw [Finmap.lookup_erase, hlookup, Option.bind_some, hlock]
        rfl
      · rw [Finmap.lookup_erase_ne hp]
    · rfl

theorem sessionsBySessionId_findByPlayerId (m : SessionManager S) (destroyed : Finset S) (p : Nat) :
    (m.findByPlayerId destroyed p).2.sessionsBySessionId = m.sessionsBySessionId := by
  unfold SessionManager.findByPlayerId
  split
  · rfl
  · split <;> rfl

end ManagedSessions

/-- What the actions do to the session of a player. -/
def playerRegister (sessionId : S → Nat) (p : Nat) : Register (ManagerAction S) S where
  writes
    | .bindPlayer p' (some s) => if p' = p then some s else none
    | _ => none
  clears
    | .unbindPlayer p', _ => decide (p' = p)
    | .removeSession sid _, s => decide (sessionId s = sid)
    | .destroy gone, s => decide (gone = s)
    | _, _ => false

/-- What the actions do to the session of a session id. -/
def sessionRegister (sessionId : S → Nat) (sid : Nat) : Register (ManagerAction S) S where
  writes
    | .addSession (some s) => if sessionId s = sid then some s else none
    | _ => none
  clears
    | .removeSession sid' _, _ => decide (sid' = sid)
    | .destroy gone, s => decide (gone = s)
    | _, _ => false

namespace ManagedSessions

/-- **A step changes the session of a player as its register.** -/
theorem ofPlayer_next {st : ManagedSessions S} {a : ManagerAction S} (h : st.Enabled a) (p : Nat) :
    (st.next sessionId a).ofPlayer p = (playerRegister sessionId p).apply (st.ofPlayer p) a := by
  have hkeep : (playerRegister sessionId p).writes a = none →
      (∀ s, (playerRegister sessionId p).clears a s = false) →
      (playerRegister sessionId p).apply (st.ofPlayer p) a = st.ofPlayer p :=
    fun hwrites hclears => Register.apply_keep _ hwrites hclears _
  cases a with
  | addSession sess =>
    rw [hkeep rfl fun _ => rfl, ofPlayer_eq, ofPlayer_eq]
    cases sess <;> rfl
  | removeSession sid order =>
    rw [Register.apply_filter _ rfl, ofPlayer_eq, ofPlayer_eq]
    simp only [next, SessionManager.removeSession, playerRegister]
    rw [lookup_eraseWhere, filter_dropped]
  | bindPlayer p' sess =>
    cases sess with
    | none => exact (hkeep rfl fun _ => rfl).symm
    | some s =>
      by_cases hp : p' = p
      · rw [Register.apply_write _ (if_pos hp), ofPlayer_eq]
        simp only [next, SessionManager.bindPlayer]
        rw [hp, Finmap.lookup_insert, Option.bind_some, lock_of_alive h]
      · rw [hkeep (if_neg hp) fun _ => rfl, ofPlayer_eq, ofPlayer_eq]
        simp only [next, SessionManager.bindPlayer]
        rw [Finmap.lookup_insert_of_ne _ (Ne.symm hp)]
  | unbindPlayer p' =>
    by_cases hp : p' = p
    · rw [Register.apply_clear _ rfl fun _ => decide_eq_true hp, ofPlayer_eq]
      simp only [next, SessionManager.unbindPlayer]
      rw [hp, Finmap.lookup_erase, Option.bind_none]
    · rw [hkeep rfl fun _ => decide_eq_false hp, ofPlayer_eq, ofPlayer_eq]
      simp only [next, SessionManager.unbindPlayer]
      rw [Finmap.lookup_erase_ne (Ne.symm hp)]
  | findBySessionId sid => exact (hkeep rfl fun _ => rfl).symm
  | findByPlayerId p' =>
    rw [hkeep rfl fun _ => rfl, ofPlayer_eq, ofPlayer_eq]
    exact lookup_findByPlayerId _ _ _ _
  | destroy gone =>
    rw [Register.apply_filter _ rfl, ofPlayer_eq, ofPlayer_eq]
    exact bind_lock_insert _ _ _

/-- A step changes the session of a session id as its register. -/
theorem ofSessionId_next {st : ManagedSessions S} {a : ManagerAction S} (h : st.Enabled a)
    (sid : Nat) :
    (st.next sessionId a).ofSessionId sid =
      (sessionRegister sessionId sid).apply (st.ofSessionId sid) a := by
  have hkeep : (sessionRegister sessionId sid).writes a = none →
      (∀ s, (sessionRegister sessionId sid).clears a s = false) →
      (sessionRegister sessionId sid).apply (st.ofSessionId sid) a = st.ofSessionId sid :=
    fun hwrites hclears => Register.apply_keep _ hwrites hclears _
  cases a with
  | addSession sess =>
    cases sess with
    | none => exact (hkeep rfl fun _ => rfl).symm
    | some s =>
      by_cases hsid : sessionId s = sid
      · rw [Register.apply_write _ (if_pos hsid), ofSessionId_eq]
        simp only [next, SessionManager.addSession]
        rw [hsid, Finmap.lookup_insert, Option.bind_some, lock_of_alive h]
      · rw [hkeep (if_neg hsid) fun _ => rfl, ofSessionId_eq, ofSessionId_eq]
        simp only [next, SessionManager.addSession]
        rw [Finmap.lookup_insert_of_ne _ (Ne.symm hsid)]
  | removeSession sid' order =>
    by_cases hsid : sid' = sid
    · rw [Register.apply_clear _ rfl fun _ => decide_eq_true hsid, ofSessionId_eq]
      simp only [next, SessionManager.removeSession]
      rw [hsid, Finmap.lookup_erase, Option.bind_none]
    · rw [hkeep rfl fun _ => decide_eq_false hsid, ofSessionId_eq, ofSessionId_eq]
      simp only [next, SessionManager.removeSession]
      rw [Finmap.lookup_erase_ne (Ne.symm hsid)]
  | bindPlayer p sess =>
    rw [hkeep rfl fun _ => rfl, ofSessionId_eq, ofSessionId_eq]
    cases sess <;> rfl
  | unbindPlayer p => exact (hkeep rfl fun _ => rfl).symm
  | findBySessionId sid' => exact (hkeep rfl fun _ => rfl).symm
  | findByPlayerId p =>
    rw [hkeep rfl fun _ => rfl, ofSessionId_eq, ofSessionId_eq]
    simp only [next]
    rw [sessionsBySessionId_findByPlayerId]
  | destroy gone =>
    rw [Register.apply_filter _ rfl, ofSessionId_eq, ofSessionId_eq]
    exact bind_lock_insert _ _ _

/-! ## Runs -/

theorem ofPlayer_run {l : List (ManagedSessions S × ManagerAction S)} {t : ManagedSessions S}
    (r : Run (managerSystem sessionId) l t) (p : Nat) :
    t.ofPlayer p = (playerRegister sessionId p).after (l.map Prod.snd) := by
  refine r.register (playerRegister sessionId p) (fun st => st.ofPlayer p) ?_ ?_
  · rintro st rfl
    rfl
  · rintro st a t ⟨h, rfl⟩
    exact ofPlayer_next h p

theorem ofSessionId_run {l : List (ManagedSessions S × ManagerAction S)} {t : ManagedSessions S}
    (r : Run (managerSystem sessionId) l t) (sid : Nat) :
    t.ofSessionId sid = (sessionRegister sessionId sid).after (l.map Prod.snd) := by
  refine r.register (sessionRegister sessionId sid) (fun st => st.ofSessionId sid) ?_ ?_
  · rintro st rfl
    rfl
  · rintro st a t ⟨h, rfl⟩
    exact ofSessionId_next h sid

/-- The destroyed sessions are those a run has destroyed. -/
theorem mem_destroyed_run {l : List (ManagedSessions S × ManagerAction S)}
    {t : ManagedSessions S} (r : Run (managerSystem sessionId) l t) (s : S) :
    s ∈ t.destroyed ↔ .destroy s ∈ l.map Prod.snd := by
  induction r with
  | start h =>
    rw [h]
    simp
  | step _ h ih =>
    obtain ⟨-, rfl⟩ := h
    rename_i a _
    rw [List.map_cons, List.mem_cons, ← ih]
    cases a with
    | destroy gone => simp [next]
    | _ => simp [next]

end ManagedSessions

/-- The last binding of a player in a history, newest action first, is to a
session, and since then neither the player was unbound nor the session
removed. -/
def LastBound (sessionId : S → Nat) (p : Nat) (s : S) (history : List (ManagerAction S)) : Prop :=
  ∃ since before, history = since ++ .bindPlayer p (some s) :: before ∧
    ∀ a ∈ since, (∀ s', a ≠ .bindPlayer p (some s')) ∧ a ≠ .unbindPlayer p ∧
      ∀ order, a ≠ .removeSession (sessionId s) order

theorem playerRegister_writes_eq_some {p : Nat} {a : ManagerAction S} {s : S} :
    (playerRegister sessionId p).writes a = some s ↔ a = .bindPlayer p (some s) := by
  constructor
  · intro h
    unfold playerRegister at h
    simp only at h
    split at h
    · split at h
      · rename_i hp
        rw [hp, Option.some_inj.mp h]
      · cases h
    · cases h
  · rintro rfl
    exact if_pos rfl

theorem playerRegister_writes_eq_none {p : Nat} {a : ManagerAction S} :
    (playerRegister sessionId p).writes a = none ↔ ∀ s, a ≠ .bindPlayer p (some s) := by
  rw [Option.eq_none_iff_forall_ne_some]
  exact forall_congr' fun s => not_congr playerRegister_writes_eq_some

theorem playerRegister_clears_eq_false {p : Nat} {a : ManagerAction S} {s : S} :
    (playerRegister sessionId p).clears a s = false ↔ a ≠ .unbindPlayer p ∧
      (∀ order, a ≠ .removeSession (sessionId s) order) ∧ a ≠ .destroy s := by
  cases a <;> simp [playerRegister, eq_comm]

/-- The register of a player holds a session that was bound last and has
not been destroyed since. -/
theorem last_playerRegister_iff {p : Nat} {s : S} {history : List (ManagerAction S)} :
    (playerRegister sessionId p).Last history s ↔
      ∃ since before, history = since ++ .bindPlayer p (some s) :: before ∧
        ∀ a ∈ since, ((∀ s', a ≠ .bindPlayer p (some s')) ∧ a ≠ .unbindPlayer p ∧
          ∀ order, a ≠ .removeSession (sessionId s) order) ∧ a ≠ .destroy s := by
  constructor
  · rintro ⟨since, a, before, rfl, hwrites, hsince⟩
    obtain rfl := playerRegister_writes_eq_some.mp hwrites
    refine ⟨since, before, rfl, fun a ha => ?_⟩
    obtain ⟨hwrites, hclears⟩ := hsince a ha
    obtain ⟨hunbind, hremove, hdestroy⟩ := playerRegister_clears_eq_false.mp hclears
    exact ⟨⟨playerRegister_writes_eq_none.mp hwrites, hunbind, hremove⟩, hdestroy⟩
  · rintro ⟨since, before, rfl, hsince⟩
    refine ⟨since, _, before, rfl, playerRegister_writes_eq_some.mpr rfl, fun a ha => ?_⟩
    obtain ⟨⟨hbind, hunbind, hremove⟩, hdestroy⟩ := hsince a ha
    exact ⟨playerRegister_writes_eq_none.mpr hbind,
      playerRegister_clears_eq_false.mpr ⟨hunbind, hremove, hdestroy⟩⟩

theorem sessionRegister_writes_eq_some {sid : Nat} {a : ManagerAction S} {s : S} :
    (sessionRegister sessionId sid).writes a = some s ↔
      sessionId s = sid ∧ a = .addSession (some s) := by
  constructor
  · intro h
    unfold sessionRegister at h
    simp only at h
    split at h
    · split at h
      · rename_i hsid
        obtain rfl := Option.some_inj.mp h
        exact ⟨hsid, rfl⟩
      · cases h
    · cases h
  · rintro ⟨hsid, rfl⟩
    exact if_pos hsid

theorem sessionRegister_writes_eq_none {sid : Nat} {a : ManagerAction S} :
    (sessionRegister sessionId sid).writes a = none ↔
      ∀ s, sessionId s = sid → a ≠ .addSession (some s) := by
  rw [Option.eq_none_iff_forall_ne_some]
  exact forall_congr' fun s => (not_congr sessionRegister_writes_eq_some).trans not_and

theorem sessionRegister_clears_eq_false {sid : Nat} {a : ManagerAction S} {s : S} :
    (sessionRegister sessionId sid).clears a s = false ↔
      (∀ order, a ≠ .removeSession sid order) ∧ a ≠ .destroy s := by
  cases a <;> simp [sessionRegister, eq_comm]

/-- The register of a session id holds a session of that id that was added
last and neither removed nor destroyed since. -/
theorem last_sessionRegister_iff {sid : Nat} {s : S} {history : List (ManagerAction S)} :
    (sessionRegister sessionId sid).Last history s ↔ sessionId s = sid ∧
      ∃ since before, history = since ++ .addSession (some s) :: before ∧
        ∀ a ∈ since, (∀ s', sessionId s' = sid → a ≠ .addSession (some s')) ∧
          (∀ order, a ≠ .removeSession sid order) ∧ a ≠ .destroy s := by
  constructor
  · rintro ⟨since, a, before, rfl, hwrites, hsince⟩
    obtain ⟨hsid, rfl⟩ := sessionRegister_writes_eq_some.mp hwrites
    refine ⟨hsid, since, before, rfl, fun a ha => ?_⟩
    obtain ⟨hadd, hclears⟩ := hsince a ha
    exact ⟨sessionRegister_writes_eq_none.mp hadd, sessionRegister_clears_eq_false.mp hclears⟩
  · rintro ⟨hsid, since, before, rfl, hsince⟩
    refine ⟨since, _, before, rfl, sessionRegister_writes_eq_some.mpr ⟨hsid, rfl⟩, fun a ha => ?_⟩
    obtain ⟨hadd, hclears⟩ := hsince a ha
    exact ⟨sessionRegister_writes_eq_none.mpr hadd, sessionRegister_clears_eq_false.mpr hclears⟩

namespace ManagedSessions

/-- What a lookup finds is alive. -/
theorem ofPlayer_alive {st : ManagedSessions S} {p : Nat} {s : S} (h : st.ofPlayer p = some s) :
    s ∉ st.destroyed := by
  rw [ofPlayer_eq, Option.bind_eq_some_iff] at h
  obtain ⟨sess, -, hlock⟩ := h
  exact (lock_eq_some_iff.mp hlock).2

theorem ofPlayer_eq_some_iff {l : List (ManagedSessions S × ManagerAction S)}
    {t : ManagedSessions S} (r : Run (managerSystem sessionId) l t) (p : Nat) (s : S) :
    t.ofPlayer p = some s ↔ LastBound sessionId p s (l.map Prod.snd) ∧ s ∉ t.destroyed := by
  constructor
  · intro h
    have halive := ofPlayer_alive h
    rw [ofPlayer_run r, Register.after_eq_some_iff, last_playerRegister_iff] at h
    obtain ⟨since, before, hl, hsince⟩ := h
    exact ⟨⟨since, before, hl, fun a ha => (hsince a ha).1⟩, halive⟩
  · rintro ⟨⟨since, before, hl, hsince⟩, halive⟩
    rw [ofPlayer_run r, Register.after_eq_some_iff, last_playerRegister_iff]
    refine ⟨since, before, hl, fun a ha => ⟨hsince a ha, ?_⟩⟩
    rintro rfl
    rw [mem_destroyed_run r, hl] at halive
    exact halive (List.mem_append_left _ ha)

/-- What `find_by_session_id` returns. -/
theorem ofSessionId_eq_some_iff {l : List (ManagedSessions S × ManagerAction S)}
    {t : ManagedSessions S} (r : Run (managerSystem sessionId) l t) (sid : Nat) (s : S) :
    t.ofSessionId sid = some s ↔ sessionId s = sid ∧
      ∃ since before, l.map Prod.snd = since ++ .addSession (some s) :: before ∧
        ∀ a ∈ since, (∀ s', sessionId s' = sid → a ≠ .addSession (some s')) ∧
          (∀ order, a ≠ .removeSession sid order) ∧ a ≠ .destroy s := by
  rw [ofSessionId_run r, Register.after_eq_some_iff, last_sessionRegister_iff]

/-- What `remove_session` does to the lookups. -/
theorem ofPlayer_removeSession (st : ManagedSessions S) (sid : Nat) (order : Enumeration Nat)
    (p : Nat) (s : S) :
    (st.next sessionId (.removeSession sid order)).ofPlayer p = some s ↔
      st.ofPlayer p = some s ∧ sessionId s ≠ sid := by
  have henabled : st.Enabled (.removeSession sid order) := trivial
  rw [ofPlayer_next henabled, Register.apply_filter _ rfl, Option.filter_eq_some_iff]
  simp [playerRegister]

end ManagedSessions

/-- **A lookup follows the last binding.** After any calls and ends of
sessions, `find_by_player_id` returns a session exactly if it was the last
one bound to the player, is still alive, and neither was the player
unbound nor the session removed since. So removing another session, such
as the player's old one, keeps the binding, and removing a session drops
every player bound to it. -/
theorem find_by_player_id_follows_last_binding (hids : Function.Injective sessionId)
    {l : List (ManagedSessions S × ManagerAction S)} {t : ManagedSessions S}
    (r : Run (managerSystem sessionId) l t) :
    (∀ p s, t.ofPlayer p = some s ↔
      LastBound sessionId p s (l.map Prod.snd) ∧ s ∉ t.destroyed) ∧
    (∀ p old new order, old ≠ new → t.ofPlayer p = some new →
      (t.next sessionId (.removeSession (sessionId old) order)).ofPlayer p = some new) ∧
    ∀ p sid order s, (t.next sessionId (.removeSession sid order)).ofPlayer p = some s →
      sessionId s ≠ sid := by
  refine ⟨ManagedSessions.ofPlayer_eq_some_iff r, fun p old new order hne hnew => ?_,
    fun p sid order s hs => ?_⟩
  · have hids' : sessionId new ≠ sessionId old := fun h => hne (hids h).symm
    exact (ManagedSessions.ofPlayer_removeSession t _ order p new).mpr ⟨hnew, hids'⟩
  · exact ((ManagedSessions.ofPlayer_removeSession t sid order p s).mp hs).2

/-- Player 7 is bound to session 1, and to session 2 after it has come
back. -/
def reconnected : ManagedSessions Nat :=
  ((({} : ManagedSessions Nat).next id (.addSession (some 1))).next id
    (.bindPlayer 7 (some 1))).next id (.bindPlayer 7 (some 2))

theorem run_reconnected : ∃ l, Run (managerSystem id) l reconnected := by
  have h0 : Run (managerSystem id) [] ({} : ManagedSessions Nat) := .start rfl
  have h1 := h0.next (.addSession (some 1)) ⟨Finset.notMem_empty 1, rfl⟩
  have h2 := h1.next (.bindPlayer 7 (some 1)) ⟨Finset.notMem_empty 1, rfl⟩
  exact ⟨_, h2.next (.bindPlayer 7 (some 2)) ⟨Finset.notMem_empty 2, rfl⟩⟩

/-- The end of session 1 leaves player 7 to session 2. -/
theorem reconnected_keeps_session :
    (reconnected.next id (.removeSession 1 Enumeration.increasing)).ofPlayer 7 = some 2 := by
  obtain ⟨l, r⟩ := run_reconnected
  exact (find_by_player_id_follows_last_binding Function.injective_id r).2.1 7 1 2 _ (by decide)
    (by decide)

end MmorpgServer.Net
