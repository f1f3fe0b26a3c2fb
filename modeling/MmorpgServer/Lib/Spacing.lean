/-
MmorpgServer.Lib.Spacing — how often something happens that keeps its
distance.

A history of events, each of which takes some time, newest first. When
two hits are always at least `d` apart, `n` hits take at least
`(n - 1) * d`, and a window of length `T` has at most `T / d + 1` of them.
What may not happen before a countdown of `d` has run out keeps the
distance `d` (`Countdown.spaced_cons`).
-/
import Mathlib.Algebra.Order.BigOperators.Group.List
import Mathlib.Algebra.Order.Floor.Semiring
import Mathlib.Tactic.Linarith

namespace MmorpgServer.Lib

universe u v

variable {α : Type u} {K : Type v} [Field K] [LinearOrder K] [IsStrictOrderedRing K]

/-- The time a history takes. -/
def elapsed (len : α → K) (l : List α) : K := (l.map len).sum

section

omit [LinearOrder K] [IsStrictOrderedRing K]

variable (len : α → K)

@[simp] theorem elapsed_nil : elapsed len [] = 0 := rfl

@[simp] theorem elapsed_cons (a : α) (l : List α) :
    elapsed len (a :: l) = len a + elapsed len l := by
  simp [elapsed]

@[simp] theorem elapsed_append (l₂ l₁ : List α) :
    elapsed len (l₂ ++ l₁) = elapsed len l₂ + elapsed len l₁ := by
  simp [elapsed]

theorem elapsed_reverse (l : List α) : elapsed len l.reverse = elapsed len l := by
  simp [elapsed, List.sum_reverse]

end

theorem elapsed_nonneg {len : α → K} {l : List α} (h : ∀ a ∈ l, 0 ≤ len a) : 0 ≤ elapsed len l :=
  List.sum_nonneg (by simpa using h)

/-- Any two hits of the history are at least `d` apart. -/
def Spaced (len : α → K) (hit : α → Bool) (d : K) (l : List α) : Prop :=
  ∀ l₃ b l₂ a l₁, l = l₃ ++ b :: (l₂ ++ a :: l₁) → hit a → hit b → d ≤ elapsed len (b :: l₂)

variable {len : α → K} {hit : α → Bool} {d : K}

omit [IsStrictOrderedRing K] in
theorem Spaced.of_append {l₂ l₁ : List α} (h : Spaced len hit d (l₂ ++ l₁)) :
    Spaced len hit d l₁ := by
  rintro l₃ b l a l' rfl
  exact h (l₂ ++ l₃) b l a l' (by simp)

/-- The newest hit of a history, if it has any. -/
theorem exists_newest_hit {l : List α} (h : l.countP hit ≠ 0) :
    ∃ l₂ a l₁, l = l₂ ++ a :: l₁ ∧ hit a ∧ l.countP hit = (a :: l₁).countP hit := by
  induction l with
  | nil => exact absurd rfl h
  | cons b l ih =>
    by_cases hb : hit b
    · exact ⟨[], b, l, rfl, hb, rfl⟩
    · have hcount : (b :: l).countP hit = l.countP hit := by simp [hb]
      rw [hcount] at h
      obtain ⟨l₂, a, l₁, hl, ha, heq⟩ := ih h
      exact ⟨b :: l₂, a, l₁, by simp [hl], ha, hcount.trans heq⟩

/-- **Hits that keep their distance take their time.** -/
theorem Spaced.count_mul_le {l : List α} (hlen : ∀ a ∈ l, 0 ≤ len a) (h : Spaced len hit d l)
    (hhit : l.countP hit ≠ 0) : ((l.countP hit : K) - 1) * d ≤ elapsed len l := by
  -- induction over the histories that end in a hit
  induction hn : l.length using Nat.strong_induction_on generalizing l with
  | _ n ih =>
    obtain ⟨l₂, b, l₁, rfl, hb, hcount⟩ := exists_newest_hit hhit
    have hpre : 0 ≤ elapsed len l₂ := elapsed_nonneg fun a ha => hlen a (by simp [ha])
    have hcons : (b :: l₁).countP hit = l₁.countP hit + 1 := by simp [hb]
    rw [hcount, hcons, elapsed_append]
    by_cases hrest : l₁.countP hit = 0
    · have hsuf : 0 ≤ elapsed len (b :: l₁) := elapsed_nonneg fun a ha => hlen a (by simp_all)
      rw [hrest]
      push_cast
      linarith
    · obtain ⟨l₃, a, l₄, rfl, ha, hcount'⟩ := exists_newest_hit hrest
      have hgap : d ≤ elapsed len (b :: l₃) := h l₂ b l₃ a l₄ rfl ha hb
      have hcount₁ : (a :: l₄).countP hit ≠ 0 := hcount' ▸ hrest
      have hsplit : Spaced len hit d ((l₂ ++ b :: l₃) ++ a :: l₄) := by simpa using h
      have hlater := ih (a :: l₄).length (by simp [← hn]; omega)
        (fun c hc => hlen c (by simp_all)) hsplit.of_append hcount₁ rfl
      rw [hcount']
      push_cast
      simp only [elapsed_cons, elapsed_append] at hgap hlater ⊢
      linarith

/-- **The rate bound.** -/
theorem Spaced.count_le [FloorSemiring K] {l : List α} (hd : 0 < d) (hlen : ∀ a ∈ l, 0 ≤ len a)
    (h : Spaced len hit d l) : l.countP hit ≤ ⌊elapsed len l / d⌋₊ + 1 := by
  by_cases hhit : l.countP hit = 0
  · omega
  have hmul := h.count_mul_le hlen hhit
  have hle : ((l.countP hit - 1 : ℕ) : K) ≤ elapsed len l / d := by
    rw [le_div_iff₀ hd, Nat.cast_sub (by omega)]
    simpa using hmul
  have hfloor := Nat.le_floor hle
  omega

/-! ## Countdowns -/

/-- A countdown that stands at `c`: since each hit it has lost no more of
`d` than the time that has gone by. -/
def Countdown (len : α → K) (hit : α → Bool) (d : K) (l : List α) (c : K) : Prop :=
  ∀ l₂ a l₁, l = l₂ ++ a :: l₁ → hit a → d ≤ c + elapsed len l₂

omit [IsStrictOrderedRing K] in
theorem countdown_nil (c : K) : Countdown len hit d ([] : List α) c := by
  intro l₂ a l₁ h
  simp at h

variable {l : List α} {b : α} {c c' : K}

/-- It runs with the time, and a hit sets it. -/
theorem Countdown.cons (h : Countdown len hit d l c) (hrun : c ≤ c' + len b)
    (hset : hit b → d ≤ c') : Countdown len hit d (b :: l) c' := by
  intro l₂ a l₁ hsplit ha
  cases l₂ with
  | nil =>
    obtain ⟨rfl, -⟩ := List.cons.inj hsplit
    simpa using hset ha
  | cons b' l₂ =>
    obtain ⟨rfl, rfl⟩ := List.cons.inj hsplit
    have hbefore := h l₂ a l₁ rfl ha
    rw [elapsed_cons]
    linarith

/-- A hit that waits for it keeps the distance. -/
theorem Countdown.spaced_cons (h : Countdown len hit d l c)
    (hspaced : Spaced len hit d l) (hwait : hit b → c ≤ len b) : Spaced len hit d (b :: l) := by
  intro l₃ b' l₂ a l₁ hsplit ha hb
  cases l₃ with
  | nil =>
    obtain ⟨rfl, rfl⟩ := List.cons.inj hsplit
    have hlast := h l₂ a l₁ rfl ha
    have hdone := hwait hb
    rw [elapsed_cons]
    linarith
  | cons b'' l₃ =>
    obtain ⟨rfl, rfl⟩ := List.cons.inj hsplit
    exact hspaced l₃ b' l₂ a l₁ rfl ha hb

end MmorpgServer.Lib
