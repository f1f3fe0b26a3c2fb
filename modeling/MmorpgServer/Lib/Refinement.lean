/-
MmorpgServer.Lib.Refinement — steps of one system that are several steps
of another.

* `Path` — the steps from one state to another, first to last; `Path.run`
  continues a run with them, `Run.split` takes the last ones of a run.
* `Behavior` — infinitely many steps from any state on; `exists_behavior`
  joins infinitely many paths, each of at least one step, to one behavior.
-/
import MmorpgServer.Lib.TransitionSystem

namespace MmorpgServer.Lib

universe u v

variable {σ : Type u} {α : Type v} {S : System σ α}

/-! ## Paths -/

/-- The steps from one state to another, first to last. -/
inductive Path (S : System σ α) : σ → List (σ × α) → σ → Prop
  | nil (s : σ) : Path S s [] s
  | cons {s t u : σ} {a : α} {l : List (σ × α)} (h : S.step s a t) (p : Path S t l u) :
      Path S s ((s, a) :: l) u

theorem Path.single {s t : σ} {a : α} (h : S.step s a t) : Path S s [(s, a)] t := .cons h (.nil t)

theorem Path.append {s t u : σ} {l l' : List (σ × α)} (p : Path S s l t) (p' : Path S t l' u) :
    Path S s (l ++ l') u := by
  induction p with
  | nil => exact p'
  | cons h _ ih => exact .cons h (ih p')

theorem Path.eq_of_nil {s t : σ} (h : Path S s [] t) : t = s := by
  cases h
  rfl

/-- A path, without its first step. -/
theorem Path.uncons {s t : σ} {p : σ × α} {l : List (σ × α)} (h : Path S s (p :: l) t) :
    p.1 = s ∧ ∃ u, S.step p.1 p.2 u ∧ Path S u l t := by
  cases h with
  | cons h path => exact ⟨rfl, _, h, path⟩

/-- A run, continued along a path. -/
theorem Path.run {s t : σ} {l l' : List (σ × α)} (p : Path S s l' t) (r : Run S l s) :
    Run S (l'.reverse ++ l) t := by
  induction p generalizing l with
  | nil => exact r
  | cons h _ ih =>
    rw [List.reverse_cons, List.append_assoc]
    exact ih (r.next _ h)

/-- A run, up to one of its states, and the path from there. -/
theorem Run.split {l₂ l₁ : List (σ × α)} {t : σ} (r : Run S (l₂ ++ l₁) t) :
    ∃ s, Run S l₁ s ∧ Path S s l₂.reverse t := by
  induction l₂ generalizing t with
  | nil => exact ⟨t, r, .nil t⟩
  | cons p l₂ ih =>
    cases r with
    | step r h =>
      obtain ⟨s, r, path⟩ := ih r
      rw [List.reverse_cons]
      exact ⟨s, r, path.append (.single h)⟩

/-! ## Behaviors -/

/-- An infinite behavior of a system, from any state on. -/
structure Behavior (S : System σ α) (st : ℕ → σ) (act : ℕ → α) : Prop where
  step : ∀ n, S.step (st n) (act n) (st (n + 1))

section

variable {l : ℕ → List (σ × α)}

/-- Where a walk along infinitely many paths is: the number of the path it
is on, and what is left of it. -/
def walk (l : ℕ → List (σ × α)) : ℕ → ℕ × List (σ × α)
  | 0 => (0, l 0)
  | k + 1 =>
    match (walk l k).2 with
    | [] | [_] => ((walk l k).1 + 1, l ((walk l k).1 + 1))
    | _ :: p :: rest => ((walk l k).1, p :: rest)

theorem walk_along {k n : ℕ} {p : σ × α} {pre rest : List (σ × α)}
    (h : walk l k = (n, pre ++ p :: rest)) : walk l (k + pre.length) = (n, p :: rest) := by
  induction pre generalizing k with
  | nil => exact h
  | cons q pre ih =>
    have hnext : walk l (k + 1) = (n, pre ++ p :: rest) := by
      rw [walk, h]
      cases pre <;> rfl
    rw [List.length_cons, Nat.add_comm pre.length, ← Nat.add_assoc]
    exact ih hnext

/-- The walk comes to every path, after at least as many steps. -/
theorem walk_reaches (hl : ∀ n, l n ≠ []) (n : ℕ) : ∃ k, n ≤ k ∧ walk l k = (n, l n) := by
  induction n with
  | zero => exact ⟨0, Nat.le_refl _, rfl⟩
  | succ n ih =>
    obtain ⟨k, hk, hwalk⟩ := ih
    obtain ⟨pre, p, hlast⟩ := (List.eq_nil_or_concat (l n)).resolve_left (hl n)
    rw [hlast, List.concat_eq_append] at hwalk
    refine ⟨k + pre.length + 1, by omega, ?_⟩
    rw [walk, walk_along hwalk]

/-- What is left of a path is a path, and not empty. -/
theorem walk_path {x : ℕ → σ} (hne : ∀ n, l n ≠ []) (hl : ∀ n, Path S (x n) (l n) (x (n + 1)))
    (k : ℕ) : ∃ p rest, (walk l k).2 = p :: rest ∧ p ∈ l (walk l k).1 ∧
      rest ⊆ l (walk l k).1 ∧ Path S p.1 (p :: rest) (x ((walk l k).1 + 1)) := by
  have hstart : ∀ n, ∃ p rest, l n = p :: rest ∧ p ∈ l n ∧ rest ⊆ l n ∧
      Path S p.1 (p :: rest) (x (n + 1)) := by
    intro n
    obtain ⟨p, rest, hn⟩ := List.exists_cons_of_ne_nil (hne n)
    have hpath := hl n
    rw [hn] at hpath ⊢
    exact ⟨p, rest, rfl, List.mem_cons_self, List.subset_cons_self p rest, hpath.uncons.1 ▸ hpath⟩
  induction k with
  | zero => exact hstart 0
  | succ k ih =>
    obtain ⟨p, rest, hleft, hp, hrest, hpath⟩ := ih
    rw [walk, hleft]
    cases rest with
    | nil => exact hstart _
    | cons q rest =>
      obtain ⟨hq, hrest⟩ := List.cons_subset.mp hrest
      obtain ⟨-, u, -, hpath⟩ := hpath.uncons
      exact ⟨q, rest, rfl, hq, hrest, hpath.uncons.1 ▸ hpath⟩

/-- **Joining paths.** -/
theorem exists_behavior {x : ℕ → σ} (hne : ∀ n, l n ≠ [])
    (hl : ∀ n, Path S (x n) (l n) (x (n + 1))) :
    ∃ st act, Behavior S st act ∧ st 0 = x 0 ∧ (∀ k, ∃ n, (st k, act k) ∈ l n) ∧
      (∀ n, ∃ k, n ≤ k ∧ st k = x n) ∧ ∀ n, ∀ p ∈ l n, ∃ k, n ≤ k ∧ (st k, act k) = p := by
  choose p rest hleft hp hrest hpath using walk_path hne hl
  have hat : ∀ n k, walk l k = (n, l n) → (p k).1 = x n := by
    intro n k hk
    have hpath := hl n
    have hcons := hleft k
    rw [hk] at hcons
    simp only at hcons
    rw [hcons] at hpath
    exact hpath.uncons.1
  refine ⟨fun k => (p k).1, fun k => (p k).2, ⟨fun k => ?_⟩, hat 0 0 rfl,
    fun k => ⟨_, hp k⟩, fun n => ?_, fun n q hq => ?_⟩
  · obtain ⟨-, u, hstep, hend⟩ := (hpath k).uncons
    have hleft' := hleft (k + 1)
    rw [walk, hleft k] at hleft'
    cases hrest : rest k with
    | nil =>
      rw [hrest] at hend hleft'
      cases hend
      have hnext : walk l (k + 1) = ((walk l k).1 + 1, l ((walk l k).1 + 1)) := by
        rw [walk, hleft k, hrest]
      rw [hat _ (k + 1) hnext]
      exact hstep
    | cons q rest' =>
      rw [hrest] at hend hleft'
      obtain ⟨rfl, -⟩ := List.cons.inj hleft'
      rw [hend.uncons.1]
      exact hstep
  · obtain ⟨k, hk, hwalk⟩ := walk_reaches hne n
    exact ⟨k, hk, hat n k hwalk⟩
  · obtain ⟨k, hk, hwalk⟩ := walk_reaches hne n
    obtain ⟨pre, suf, hn⟩ := List.append_of_mem hq
    rw [hn] at hwalk
    have hnow := hleft (k + pre.length)
    rw [walk_along hwalk] at hnow
    exact ⟨k + pre.length, by omega, (List.cons.inj hnow).1.symm⟩

end

end MmorpgServer.Lib
