/-
MmorpgServer.Lib.KeyLoop — programs that work on a record by its key in
tables, against functions of the record itself.

* `RunsAt` — at the key of a record the program does to the tables what is
  said of the record, and leaves every other key what it holds.
  `RunsAt.pure`, `RunsAt.bind`, `RunsAt.read`, `RunsAt.state` — its rules.
* `forM_of_runsAt` — a loop over keys with such a body does not fail, and
  does what `updateLoop` does with the records.
* `find_of_nodup`, `find_eq_none_iff` — the record of a key in a list.
* `tied_replace`, `forM_find` — one record replaced and the loop rule, for
  the tables of a list of records.
-/
import MmorpgServer.Lib.Loop
import Mathlib.Data.List.Nodup

namespace MmorpgServer.Lib

universe u v w

variable {τ σ ρ ρ' : Type u} {α : Type v} {κ : Type w}

/-! ## Programs at a key -/

/-- `tied t k o` is that the tables `t` hold the record `o`, or none, at
the key `k`. From tables that hold `a` at `k`, and from `s`, the program
answers `x` and leaves `b` at `k` and `s'`. -/
def RunsAt (tied : τ → κ → Option α → Prop) (k : κ) (p : StateT (τ × σ) Option ρ) (a : α) (s : σ)
    (x : ρ) (b : α) (s' : σ) : Prop :=
  ∀ t, tied t k (some a) → ∃ t', p (t, s) = some (x, t', s') ∧ tied t' k (some b) ∧
    ∀ k', k' ≠ k → ∀ o, tied t k' o → tied t' k' o

variable {tied : τ → κ → Option α → Prop} {k : κ}

theorem RunsAt.pure {a : α} {s : σ} (x : ρ) : RunsAt tied k (pure x) a s x a s :=
  fun t ht => ⟨t, rfl, ht, fun _ _ _ h => h⟩

theorem RunsAt.bind {p : StateT (τ × σ) Option ρ} {q : ρ → StateT (τ × σ) Option ρ'} {a b c : α}
    {s s' s'' : σ} {x : ρ} {y : ρ'} (hp : RunsAt tied k p a s x b s')
    (hq : RunsAt tied k (q x) b s' y c s'') : RunsAt tied k (p >>= q) a s y c s'' := by
  intro t ht
  obtain ⟨t₁, hrun₁, ht₁, hother₁⟩ := hp t ht
  obtain ⟨t₂, hrun₂, ht₂, hother₂⟩ := hq t₁ ht₁
  refine ⟨t₂, ?_, ht₂, fun k' hk o h => hother₂ k' hk o (hother₁ k' hk o h)⟩
  change (p (t, s)).bind (fun r => q r.1 r.2) = _
  rw [hrun₁]
  exact hrun₂

/-- A program that reads the record. -/
theorem RunsAt.read {p : StateT (τ × σ) Option ρ} {a : α} {s : σ} {x : ρ}
    (h : ∀ t, tied t k (some a) → p (t, s) = some (x, t, s)) : RunsAt tied k p a s x a s :=
  fun t ht => ⟨t, h t ht, ht, fun _ _ _ h => h⟩

/-- A program that leaves the tables alone. -/
theorem RunsAt.state {p : StateT (τ × σ) Option ρ} {a : α} {s s' : σ} {x : ρ}
    (h : ∀ t, p (t, s) = some (x, t, s')) : RunsAt tied k p a s x a s' :=
  fun t ht => ⟨t, h t, ht, fun _ _ _ h => h⟩

/-! ## Loops over keys -/

/-- **Loop rule for keys.** -/
theorem forM_of_runsAt {key : α → κ} {f : κ → StateT (τ × σ) Option PUnit} {g : σ → α → α × σ}
    (hkey : ∀ s a, key (g s a).1 = key a)
    (hbody : ∀ s a, RunsAt tied (key a) (f (key a)) a s ⟨⟩ (g s a).1 (g s a).2)
    {l : List α} (hl : (l.map key).Nodup) (t : τ) (s : σ) (ht : ∀ a ∈ l, tied t (key a) (some a)) :
    ∃ t', (l.map key).forM f (t, s) = some (⟨⟩, t', (updateLoop g s l).2) ∧
      (∀ a ∈ (updateLoop g s l).1, tied t' (key a) (some a)) ∧
      ∀ k ∉ l.map key, ∀ o, tied t k o → tied t' k o := by
  induction l generalizing t s with
  | nil => exact ⟨t, rfl, by simp, fun _ _ _ htied => htied⟩
  | cons a l ih =>
    rw [List.map_cons, List.nodup_cons] at hl
    obtain ⟨hfresh, hl⟩ := hl
    obtain ⟨t₁, hrun, hself, hother⟩ := hbody s a t (ht a List.mem_cons_self)
    have hrest : ∀ b ∈ l, tied t₁ (key b) (some b) := by
      intro b hb
      have hne : key b ≠ key a := fun heq => hfresh (heq ▸ List.mem_map_of_mem hb)
      exact hother (key b) hne _ (ht b (List.mem_cons_of_mem a hb))
    obtain ⟨t₂, hloop, htied, houtside⟩ := ih hl t₁ (g s a).2 hrest
    have hhead : tied t₂ (key a) (some (g s a).1) := houtside _ hfresh _ hself
    refine ⟨t₂, ?_, ?_, ?_⟩
    · change (f (key a) (t, s)).bind (fun r => (l.map key).forM f r.2) = _
      rw [hrun]
      exact hloop
    · intro b hb
      rw [updateLoop_cons, List.mem_cons] at hb
      rcases hb with rfl | hb
      · rw [hkey]
        exact hhead
      · exact htied b hb
    · intro k hk o htie
      simp only [List.map_cons, List.mem_cons, not_or] at hk
      exact houtside k hk.2 o (hother k hk.1 o htie)

/-! ## The record of a key -/

variable [DecidableEq κ] {key : α → κ} {l : List α}

theorem find_of_nodup (hl : (l.map key).Nodup) {a : α} (ha : a ∈ l) :
    l.find? (fun b => key b = key a) = some a := by
  induction l with
  | nil => simp at ha
  | cons b l ih =>
    rw [List.map_cons, List.nodup_cons] at hl
    rw [List.mem_cons] at ha
    rcases ha with rfl | ha
    · simp
    · have hne : key b ≠ key a := fun heq => hl.1 (heq ▸ List.mem_map_of_mem ha)
      simp [hne, ih hl.2 ha]

theorem find_eq_none_iff (k : κ) : l.find? (fun b => key b = k) = none ↔ k ∉ l.map key := by
  simp

/-- Tables hold a list of records if they hold each record at its key and
nothing at the other keys. -/
theorem tied_find_iff {t : τ} (hl : (l.map key).Nodup) :
    (∀ k, tied t k (l.find? fun a => key a = k)) ↔
      (∀ a ∈ l, tied t (key a) (some a)) ∧ ∀ k ∉ l.map key, tied t k none := by
  constructor
  · intro h
    constructor
    · intro a ha
      rw [← find_of_nodup hl ha]
      exact h (key a)
    · intro k hk
      rw [← (find_eq_none_iff k).mpr hk]
      exact h k
  · intro h k
    by_cases hk : k ∈ l.map key
    · obtain ⟨a, ha, rfl⟩ := List.mem_map.mp hk
      rw [find_of_nodup hl ha]
      exact h.1 a ha
    · rw [(find_eq_none_iff k).mpr hk]
      exact h.2 k hk

/-- A program that has replaced the record of one key. -/
theorem tied_replace {g : α → α} (hg : ∀ a, key (g a) = key a) (hl : (l.map key).Nodup) {a : α}
    (ha : a ∈ l) {t t' : τ} (ht : ∀ k, tied t k (l.find? fun a => key a = k))
    (hself : tied t' (key a) (some (g a)))
    (hother : ∀ k, k ≠ key a → ∀ o, tied t k o → tied t' k o) (k : κ) :
    tied t' k ((l.map fun b => if key b = key a then g b else b).find? fun b => key b = k) := by
  have hkey : ∀ b, key (if key b = key a then g b else b) = key b := by
    intro b
    split
    · exact hg b
    · rfl
  rw [List.find?_map]
  simp only [Function.comp_def, hkey]
  by_cases hk : k = key a
  · subst hk
    simpa [find_of_nodup hl ha] using hself
  · have hsame : (l.find? fun b => key b = k).map (fun b => if key b = key a then g b else b) =
        l.find? fun b => key b = k := by
      cases hfind : l.find? fun b => key b = k with
      | none => rfl
      | some b =>
        have hb : key b = k := by simpa using List.find?_some hfind
        simp [hb, hk]
    rw [hsame]
    exact hother k hk _ (ht k)

/-- **Loop rule for the tables of a list of records.** -/
theorem forM_find {f : κ → StateT (τ × σ) Option PUnit} {g : σ → α → α × σ}
    (hkey : ∀ s a, key (g s a).1 = key a)
    (hbody : ∀ s a, RunsAt tied (key a) (f (key a)) a s ⟨⟩ (g s a).1 (g s a).2)
    (hl : (l.map key).Nodup) (t : τ) (s : σ)
    (ht : ∀ k, tied t k (l.find? fun a => key a = k)) :
    ∃ t', (l.map key).forM f (t, s) = some (⟨⟩, t', (updateLoop g s l).2) ∧
      ∀ k, tied t' k ((updateLoop g s l).1.find? fun a => key a = k) := by
  rw [tied_find_iff hl] at ht
  obtain ⟨t', hloop, htied, houtside⟩ := forM_of_runsAt hkey hbody hl t s ht.1
  have hkeys : (updateLoop g s l).1.map key = l.map key := updateLoop_map hkey s l
  refine ⟨t', hloop, ?_⟩
  rw [tied_find_iff (hkeys ▸ hl), hkeys]
  exact ⟨htied, fun k hk => houtside k hk none (ht.2 k hk)⟩

end MmorpgServer.Lib
