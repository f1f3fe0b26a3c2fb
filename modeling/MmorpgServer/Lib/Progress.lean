/-
MmorpgServer.Lib.Progress — what happens sooner or later in an infinite
behavior.

* `exists_follow` — a part of the state that every step hands on, followed
  through all of them.
* `exists_of_gain` — what never shrinks and grows by a fixed amount again
  and again, as long as something does not happen, and is then below a
  bound, makes it happen.
* `eventually_nonpos` — a number that never grows, and drops again and
  again while it is positive, ends up at most 0.
-/
import Mathlib.Algebra.Order.Archimedean.Basic
import Mathlib.Tactic.Linarith

namespace MmorpgServer.Lib

universe u

/-- **Following a part.** -/
theorem exists_follow {β : Type u} {P : ℕ → β → Prop} {R : ℕ → β → β → Prop} {x : β} (h0 : P 0 x)
    (h : ∀ n x, P n x → ∃ y, P (n + 1) y ∧ R n x y) :
    ∃ f : ℕ → β, f 0 = x ∧ ∀ n, P n (f n) ∧ R n (f n) (f (n + 1)) := by
  choose next hnext using h
  let f : ∀ n, { x // P n x } :=
    fun n => Nat.rec ⟨x, h0⟩ (fun n x => ⟨next n x.1 x.2, (hnext n x.1 x.2).1⟩) n
  exact ⟨fun n => (f n).1, rfl, fun n => ⟨(f n).2, (hnext n (f n).1 (f n).2).2⟩⟩

/-- **Progress by gain.** -/
theorem exists_of_gain {K : Type u} [Field K] [LinearOrder K] [IsStrictOrderedRing K]
    [Archimedean K] {P Now : ℕ → Prop} (hfair : ∀ n, ∃ k, n ≤ k ∧ Now k) {f : ℕ → K} {δ B : K}
    (hδ : 0 < δ) (start : ℕ) (hbound : ∀ n, start ≤ n → Now n → ¬ P n → f n ≤ B)
    (hgain : ∀ n, start ≤ n → ¬ P n → ¬ P (n + 1) →
      f n ≤ f (n + 1) ∧ (Now n → f n + δ ≤ f (n + 1))) : ∃ n, start ≤ n ∧ P n := by
  by_contra hnever
  have hnot : ∀ n, start ≤ n → ¬ P n := fun n hn hP => hnever ⟨n, hn, hP⟩
  have hstep : ∀ n, start ≤ n → f n ≤ f (n + 1) ∧ (Now n → f n + δ ≤ f (n + 1)) := fun n hn =>
    hgain n hn (hnot n hn) (hnot _ (by omega))
  have hmono : ∀ n k, start ≤ n → f n ≤ f (n + k) := by
    intro n k hn
    induction k with
    | zero => exact le_refl _
    | succ k ih => exact ih.trans (hstep (n + k) (by omega)).1
  have hgrown : ∀ k : ℕ, ∃ n, start ≤ n ∧ f start + k * δ ≤ f n := by
    intro k
    induction k with
    | zero => exact ⟨start, le_refl _, by simp⟩
    | succ k ih =>
      obtain ⟨n, hn, hle⟩ := ih
      obtain ⟨n', hn', hnow⟩ := hfair n
      refine ⟨n' + 1, by omega, ?_⟩
      have hbefore := hmono n (n' - n) hn
      rw [Nat.add_sub_cancel' hn'] at hbefore
      have hafter := (hstep n' (by omega)).2 hnow
      push_cast
      linarith
  obtain ⟨k, hk⟩ := exists_nat_gt ((B - f start) / δ)
  rw [div_lt_iff₀ hδ] at hk
  obtain ⟨n, hn, hle⟩ := hgrown k
  obtain ⟨n', hn', hnow⟩ := hfair n
  have hbefore := hmono n (n' - n) hn
  rw [Nat.add_sub_cancel' hn'] at hbefore
  have hbound := hbound n' (by omega) hnow (hnot n' (by omega))
  linarith

/-- **Progress by drops.** -/
theorem eventually_nonpos {f : ℕ → ℤ} (start : ℕ) (hmono : ∀ n, start ≤ n → f (n + 1) ≤ f n)
    (hdrop : ∀ n, start ≤ n → ∃ k, n ≤ k ∧ (0 < f k → f (k + 1) < f k)) :
    ∃ N, ∀ n, N ≤ n → f n ≤ 0 := by
  have hanti : ∀ n k, start ≤ n → f (n + k) ≤ f n := by
    intro n k hn
    induction k with
    | zero => exact le_refl _
    | succ k ih => exact (hmono (n + k) (by omega)).trans ih
  -- by induction on how much is left
  have hend : ∀ (r : ℕ) (n : ℕ), start ≤ n → f n ≤ r → ∃ N, start ≤ N ∧ f N ≤ 0 := by
    intro r
    induction r with
    | zero => exact fun n hn hr => ⟨n, hn, by simpa using hr⟩
    | succ r ih =>
      intro n hn hr
      obtain ⟨k, hk, hlt⟩ := hdrop n hn
      rcases le_or_gt (f k) 0 with hzero | hpos
      · exact ⟨k, by omega, hzero⟩
      · have hlt := hlt hpos
        have hle := hanti n (k - n) hn
        rw [Nat.add_sub_cancel' hk] at hle
        refine ih (k + 1) (by omega) ?_
        push_cast at hr
        omega
  obtain ⟨N, hN, hzero⟩ := hend (f start).toNat start (le_refl _) (Int.self_le_toNat _)
  refine ⟨N, fun n hn => ?_⟩
  have hle := hanti N (n - N) hN
  rw [Nat.add_sub_cancel' hn] at hle
  exact hle.trans hzero

end MmorpgServer.Lib
