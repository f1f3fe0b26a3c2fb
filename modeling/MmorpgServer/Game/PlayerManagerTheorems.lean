/-
MmorpgServer.Game.PlayerManagerTheorems — when the two indexes of
`PlayerManager` are inverse to each other.

`create_player` overwrites the entry of the session and leaves the player
it named in `playersById_`. The indexes therefore stay inverse as long as
no player is created on a session that has one, and no longer.
-/
import MmorpgServer.Game.PlayerManager

namespace MmorpgServer.Game

open MmorpgServer.Lib MmorpgServer.Field

universe u

variable {S : Type u}

namespace PlayerManager

/-- `get_by_session` finds exactly the registered player of the session,
and every registered player through its session. -/
def Inverse (pm : PlayerManager S) : Prop :=
  (∀ sess p, pm.getBySession sess = some p ↔ pm.getById p.id = some p ∧ p.session = sess) ∧
    ∀ id p, pm.getById id = some p → pm.getBySession p.session = some p

/-- No registered player is on the session. -/
def Vacant (pm : PlayerManager S) (sess : Option S) : Prop :=
  ∀ id p, pm.getById id = some p → p.session ≠ sess

/-! ## The invariant -/

/-- How the tables point at each other. An entry of `idBySession_` may
name an id that is no longer registered: `remove_by_id` leaves that of a
player without a session. -/
structure Linked (pm : PlayerManager S) : Prop where
  keyed : ∀ id p, pm.playersById id = some p → p.id = id ∧ pm.idBySession p.session = some id
  back : ∀ sess id p, pm.idBySession sess = some id → pm.playersById id = some p →
    p.session = sess

theorem Linked.inverse {pm : PlayerManager S} (h : pm.Linked) : pm.Inverse := by
  have hreach : ∀ id p, pm.getById id = some p → pm.getBySession p.session = some p := by
    intro id p hp
    simp [getBySession, (h.keyed id p hp).2, show pm.playersById id = some p from hp]
  refine ⟨fun sess p => ⟨fun hget => ?_, fun hp => ?_⟩, hreach⟩
  · unfold getBySession at hget
    cases hid : pm.idBySession sess with
    | none => simp [hid] at hget
    | some id =>
      simp only [hid] at hget
      have hkey := (h.keyed id p hget).1
      exact ⟨by rw [hkey]; exact hget, h.back sess id p hid hget⟩
  · rw [← hp.2]
    exact hreach _ p hp.1

/-- Both removals take out an id and, at most, the entry of its player's
session. -/
theorem Linked.erase {pm : PlayerManager S} (h : pm.Linked) {id : EntityId}
    {idBySession : Option S → Option EntityId}
    (hother : ∀ s i, pm.idBySession s = some i → i ≠ id → idBySession s = some i)
    (hsub : ∀ s i, idBySession s = some i → pm.idBySession s = some i) :
    ({ playersById := Function.update pm.playersById id none, idBySession } :
      PlayerManager S).Linked := by
  have hne : ∀ i p, Function.update pm.playersById id none i = some p →
      i ≠ id ∧ pm.playersById i = some p := by
    intro i p hp
    by_cases hi : i = id
    · simp [hi] at hp
    · exact ⟨hi, by simpa [hi] using hp⟩
  constructor
  · intro i p hp
    obtain ⟨hi, hp⟩ := hne i p hp
    exact ⟨(h.keyed i p hp).1, hother _ i (h.keyed i p hp).2 hi⟩
  · intro s i p hs hp
    exact h.back s i p (hsub s i hs) (hne i p hp).2

variable [DecidableEq S]

theorem Linked.createPlayer {pm : PlayerManager S} (h : pm.Linked) {id : EntityId} {name : String}
    {sess : Option S} (hfresh : ∀ s, pm.idBySession s ≠ some id) (hvacant : pm.Vacant sess) :
    (pm.createPlayer id name sess).1.Linked := by
  constructor
  · intro i p hp
    simp only [PlayerManager.createPlayer] at hp ⊢
    by_cases hi : i = id
    · subst hi
      obtain rfl : _ = p := by simpa using hp
      simp
    · rw [Function.update_of_ne hi] at hp
      rw [Function.update_of_ne (hvacant i p hp)]
      exact h.keyed i p hp
  · intro s i p hs hp
    simp only [PlayerManager.createPlayer] at hs hp
    by_cases hss : s = sess
    · subst hss
      obtain rfl : id = i := by simpa using hs
      obtain rfl : _ = p := by simpa using hp
      rfl
    · rw [Function.update_of_ne hss] at hs
      have hi : i ≠ id := fun hi => hfresh s (hi ▸ hs)
      rw [Function.update_of_ne hi] at hp
      exact h.back s i p hs hp

/-- The entry of a session, taken out, is that of no other id. -/
theorem update_none {f : Option S → Option EntityId} {sess : Option S} {id : EntityId}
    (hid : f sess = some id) :
    (∀ s i, f s = some i → i ≠ id → Function.update f sess none s = some i) ∧
      ∀ s i, Function.update f sess none s = some i → f s = some i := by
  constructor
  · intro s i hs hi
    have hne : s ≠ sess := by
      rintro rfl
      exact hi (by simpa [hid] using hs.symm)
    rwa [Function.update_of_ne hne]
  · intro s i hs
    have hne : s ≠ sess := by
      rintro rfl
      simp at hs
    rwa [Function.update_of_ne hne] at hs

theorem Linked.removeBySession {pm : PlayerManager S} (h : pm.Linked) (sess : Option S) :
    (pm.removeBySession sess).Linked := by
  unfold PlayerManager.removeBySession
  cases hid : pm.idBySession sess with
  | none => exact h
  | some id => exact h.erase (update_none hid).1 (update_none hid).2

theorem Linked.removeById {pm : PlayerManager S} (h : pm.Linked) (id : EntityId) :
    (pm.removeById id).Linked := by
  unfold PlayerManager.removeById
  cases hp : pm.playersById id with
  | none => exact h
  | some p =>
    have hid := (h.keyed id p hp).2
    cases hs : p.session.isSome with
    | true => simpa [hs] using h.erase (update_none hid).1 (update_none hid).2
    | false => simpa [hs] using h.erase (fun _ _ hs _ => hs) (fun _ _ hs => hs)

end PlayerManager

/-! ## Runs -/

variable [DecidableEq S]

open PlayerManager

/-- Ids are used up: nothing names an id that has not been given out. -/
structure PlayerManagerState.Inv (st : PlayerManagerState S) : Prop where
  linked : st.pm.Linked
  used : ∀ sess id, st.pm.idBySession sess = some id → id ∈ st.used

/-- The player created has a session to itself. -/
def PlayerManagerState.CreatesOnVacant (st : PlayerManagerState S) : PlayerManagerAction S → Prop
  | .createPlayer _ _ sess => st.pm.Vacant sess
  | _ => True

theorem PlayerManagerState.Inv.step {st : PlayerManagerState S} (h : st.Inv)
    {a : PlayerManagerAction S} (hfresh : st.Fresh a) (hvacant : st.CreatesOnVacant a) :
    (st.step a).Inv := by
  have hcut {f : Option S → Option EntityId} {sess : Option S} {used : List EntityId}
      (hf : ∀ s i, f s = some i → i ∈ used) (s : Option S) (i : EntityId)
      (hs : Function.update f sess none s = some i) : i ∈ used := by
    by_cases hss : s = sess
    · simp [hss] at hs
    · exact hf s i (by simpa [hss] using hs)
  cases a with
  | createPlayer id name sess =>
    have hunused : ∀ s, st.pm.idBySession s ≠ some id := fun s hs => hfresh (h.used s id hs)
    refine ⟨h.linked.createPlayer hunused hvacant, fun s i hs => ?_⟩
    simp only [PlayerManagerState.step, createPlayer] at hs ⊢
    by_cases hss : s = sess
    · obtain rfl : id = i := by simpa [hss] using hs
      exact List.mem_cons_self
    · exact List.mem_cons_of_mem _ (h.used s i (by simpa [hss] using hs))
  | removeBySession sess =>
    refine ⟨h.linked.removeBySession sess, fun s i hs => ?_⟩
    simp only [PlayerManagerState.step, removeBySession] at hs
    cases hid : st.pm.idBySession sess with
    | none => exact h.used s i (by simpa [hid] using hs)
    | some id => exact hcut h.used s i (by simpa [hid] using hs)
  | removeById id =>
    refine ⟨h.linked.removeById id, fun s i hs => ?_⟩
    simp only [PlayerManagerState.step, removeById] at hs
    cases hp : st.pm.playersById id with
    | none => exact h.used s i (by simpa [hp] using hs)
    | some p =>
      simp only [hp] at hs
      cases hss : p.session.isSome with
      | true => exact hcut h.used s i (by simpa [hss] using hs)
      | false => exact h.used s i (by simpa [hss] using hs)

/-- On a session that has a player, `create_player` leaves that player
registered and out of reach. -/
theorem createPlayer_not_inverse {st : PlayerManagerState S} (h : st.Inv) {id : EntityId}
    {name : String} {sess : Option S} (hfresh : id ∉ st.used) (hvacant : ¬ st.pm.Vacant sess) :
    ¬ (st.pm.createPlayer id name sess).1.Inverse := by
  simp only [Vacant, not_forall, not_not] at hvacant
  obtain ⟨i, p, hp, hsess⟩ := hvacant
  have hkey := h.linked.keyed i p hp
  have hi : i ≠ id := fun hi => hfresh (hi ▸ h.used _ i hkey.2)
  intro hinv
  have hstill : (st.pm.createPlayer id name sess).1.getById i = some p := by
    simpa [createPlayer, getById, hi] using hp
  have hreach := hinv.2 i p hstill
  have hnew : p.id = id := by
    simp only [getBySession, createPlayer, hsess, Function.update_self, Option.some.injEq] at hreach
    rw [← hreach]
  exact hi (hkey.1.symm.trans hnew)

/-- **Inverse indexes.** In a run of calls the two indexes are inverse
after every call exactly when no player was created on a session that
already had one. -/
theorem indexes_inverse_iff {l : List (PlayerManagerState S × PlayerManagerAction S)}
    {st : PlayerManagerState S} (r : Run (playerManagerSystem S) l st) :
    ((∀ e ∈ l, e.1.pm.Inverse) ∧ st.pm.Inverse) ↔ ∀ e ∈ l, e.1.CreatesOnVacant e.2 := by
  refine r.good_iff_steps (I := PlayerManagerState.Inv) (G := fun st => st.pm.Inverse)
    (P := PlayerManagerState.CreatesOnVacant) ?_ ?_ ?_ ?_
  · rintro st rfl
    exact ⟨⟨by simp, by simp⟩, by simp⟩
  · rintro st a st' h hvacant ⟨hfresh, rfl⟩
    exact h.step hfresh hvacant
  · exact fun st h => h.linked.inverse
  · rintro st a st' h hbad ⟨hfresh, rfl⟩
    cases a with
    | createPlayer id name sess => exact createPlayer_not_inverse h hfresh hbad
    | removeBySession sess => exact absurd trivial hbad
    | removeById id => exact absurd trivial hbad

/-- Two players on one session, the first removed before the second is
created. -/
theorem indexes_inverse_after_logout :
    ∃ st : PlayerManagerState Nat, st.pm.getBySession (some 1) = some ⟨8, some 1, "b", "Paladin"⟩ ∧
      st.pm.Inverse := by
  have r : Run (playerManagerSystem Nat) [] {} := .start rfl
  have r := r.next (.createPlayer 7 "a" (some 1)) ⟨by simp [PlayerManagerState.Fresh], rfl⟩
  have r := r.next (.removeBySession (some 1)) ⟨trivial, rfl⟩
  have r := r.next (.createPlayer 8 "b" (some 1))
    ⟨by simp [PlayerManagerState.Fresh, PlayerManagerState.step], rfl⟩
  refine ⟨_, rfl, ((indexes_inverse_iff r).mpr ?_).2⟩
  simp [PlayerManagerState.CreatesOnVacant, Vacant, getById, PlayerManagerState.step,
    createPlayer, removeBySession]

/-- A second login on session 1: player 7 is still registered for it, and
`get_by_session` finds player 8. -/
theorem second_login_hides_first :
    ¬ ∀ (l : List (PlayerManagerState Nat × PlayerManagerAction Nat)) (st : PlayerManagerState Nat),
      Run (playerManagerSystem Nat) l st → st.pm.Inverse := by
  intro hall
  have r : Run (playerManagerSystem Nat) [] {} := .start rfl
  have r := r.next (.createPlayer 7 "a" (some 1)) ⟨by simp [PlayerManagerState.Fresh], rfl⟩
  have r := r.next (.createPlayer 8 "a" (some 1))
    ⟨by simp [PlayerManagerState.Fresh, PlayerManagerState.step], rfl⟩
  have hreach := (hall _ _ r).2 7 ⟨7, some 1, "a", "Paladin"⟩ rfl
  simp [PlayerManagerState.step, createPlayer, getBySession] at hreach

end MmorpgServer.Game
