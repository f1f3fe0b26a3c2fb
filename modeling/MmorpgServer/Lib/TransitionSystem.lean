/-
MmorpgServer.Lib.TransitionSystem — labelled transition systems, their
runs and the two induction rules every run theorem of the development
goes through.

* `System` — initial states and a step relation; `System.ofFn` builds
  one from a guarded function, `System.restrict` one from part of the
  steps.
* `Run` — a run with its history: the list records every step as the
  pair of its source state and its action, newest first, so that "every
  state reached in the run" and "every step of the run" are both plain
  quantifiers over that list.
* `Run.map` — a function that takes the steps of one system to steps of
  another takes runs to runs; `Run.simulate` lets steps map to no step.
* `Run.iterate` — the run that takes one action again and again.
* `Run.invariant` — what holds initially and is kept by every step holds
  at the end of every run.
* `Run.invariant_of_steps` — the same when only the steps meeting a
  condition keep the invariant.
* `Run.throughout` — what holds at the end of every run holds in every
  state of a run.
* `Run.good_iff_steps` — when a step that misses the condition lands in
  a bad state, a run is good throughout exactly when all its steps meet
  the condition; `Run.good_iff_steps_along` lets both depend on the
  history.
-/
import Mathlib.Data.List.Basic
import Mathlib.Logic.Function.Iterate

namespace MmorpgServer.Lib

universe u v w x

/-- A labelled transition system: initial states and a step relation. -/
structure System (σ : Type u) (α : Type v) where
  init : σ → Prop
  step : σ → α → σ → Prop

/-- The system of a function whose calls are allowed under a guard. -/
def System.ofFn {σ : Type u} {α : Type v} (start : σ) (guard : σ → α → Prop)
    (f : σ → α → σ) : System σ α where
  init s := s = start
  step s a t := guard s a ∧ t = f s a

/-- The steps of a system that meet a condition. -/
def System.restrict {σ : Type u} {α : Type v} (S : System σ α) (Q : σ → α → Prop) :
    System σ α where
  init := S.init
  step s a t := Q s a ∧ S.step s a t

variable {σ : Type u} {α : Type v} {S : System σ α}

/-- A run and its history, newest step first: each entry is the state a
step was taken from and the action taken. -/
inductive Run (S : System σ α) : List (σ × α) → σ → Prop
  | start {s : σ} (h : S.init s) : Run S [] s
  | step {l : List (σ × α)} {s t : σ} {a : α} (r : Run S l s) (h : S.step s a t) :
      Run S ((s, a) :: l) t

/-- A run, extended by an action. -/
theorem Run.next {l : List (σ × α)} {s t : σ} (r : Run S l s) (a : α) (h : S.step s a t) :
    Run S ((s, a) :: l) t :=
  r.step h

/-- Every entry of a history is a step taken from a reached state. -/
theorem Run.source {l : List (σ × α)} {t : σ} (r : Run S l t) :
    ∀ p ∈ l, ∃ l' t', Run S l' p.1 ∧ S.step p.1 p.2 t' := by
  induction r with
  | start _ => intro p hp; cases hp
  | step r h ih =>
    intro p hp
    rcases List.mem_cons.mp hp with rfl | hp
    · exact ⟨_, _, r, h⟩
    · exact ih p hp

/-- A run, up to one of its steps. -/
theorem Run.before {l₂ l₁ : List (σ × α)} {s t : σ} {a : α} (r : Run S (l₂ ++ (s, a) :: l₁) t) :
    Run S l₁ s ∧ ∃ t', S.step s a t' := by
  induction l₂ generalizing t with
  | nil =>
    cases r with
    | step r h => exact ⟨r, _, h⟩
  | cons p l₂ ih =>
    cases r with
    | step r _ => exact ih r

/-- A run whose steps all meet a condition is a run of those steps. -/
theorem Run.restrict {Q : σ → α → Prop} {l : List (σ × α)} {t : σ} (r : Run S l t)
    (hQ : ∀ p ∈ l, Q p.1 p.2) : Run (S.restrict Q) l t := by
  induction r with
  | start h => exact .start h
  | step _ h ih =>
    rw [List.forall_mem_cons] at hQ
    exact .step (ih hQ.2) ⟨hQ.1, h⟩

/-- A run of some of the steps is a run, and its steps are of those. -/
theorem Run.of_restrict {Q : σ → α → Prop} {l : List (σ × α)} {t : σ}
    (r : Run (S.restrict Q) l t) : Run S l t ∧ ∀ p ∈ l, Q p.1 p.2 := by
  induction r with
  | start h => exact ⟨.start h, by simp⟩
  | step _ h ih => exact ⟨ih.1.step h.2, List.forall_mem_cons.mpr ⟨h.1, ih.2⟩⟩

/-- **Simulation rule**: a view of the states under which every step is a
step of another system. -/
theorem Run.map {τ : Type w} {T : System τ α} (view : σ → τ)
    (h0 : ∀ s, S.init s → T.init (view s))
    (hstep : ∀ s a t, S.step s a t → T.step (view s) a (view t))
    {l : List (σ × α)} {t : σ} (r : Run S l t) :
    Run T (l.map fun p => (view p.1, p.2)) (view t) := by
  induction r with
  | start h => exact .start (h0 _ h)
  | step _ h ih => exact ih.step (hstep _ _ _ h)

/-- **Simulation rule with idle steps**: every step is a step of the other
system under the view, or changes nothing in it. -/
theorem Run.simulate {τ : Type w} {β : Type x} {T : System τ β} (view : σ → τ)
    (h0 : ∀ s, S.init s → T.init (view s))
    (hstep : ∀ s a t, S.step s a t → view t = view s ∨ ∃ b, T.step (view s) b (view t))
    {l : List (σ × α)} {t : σ} (r : Run S l t) : ∃ l', Run T l' (view t) := by
  induction r with
  | start h => exact ⟨[], .start (h0 _ h)⟩
  | step _ h ih =>
    obtain ⟨l', r'⟩ := ih
    rcases hstep _ _ _ h with hidle | ⟨b, hb⟩
    · exact ⟨l', hidle ▸ r'⟩
    · exact ⟨_, r'.next b hb⟩

/-- A run, extended by the same action `n` times. -/
theorem Run.iterate {start : σ} {guard : σ → α → Prop} {f : σ → α → σ} {l : List (σ × α)} {t : σ}
    (r : Run (System.ofFn start guard f) l t) (a : α) (n : Nat)
    (h : ∀ k < n, guard ((fun s => f s a)^[k] t) a) :
    ∃ l', Run (System.ofFn start guard f) l' ((fun s => f s a)^[n] t) := by
  induction n with
  | zero => exact ⟨l, r⟩
  | succ n ih =>
    obtain ⟨l', r'⟩ := ih fun k hk => h k (by omega)
    refine ⟨_, r'.next a ⟨h n (by omega), ?_⟩⟩
    rw [Function.iterate_succ_apply']

/-- **Invariant rule.** -/
theorem Run.invariant {I : σ → Prop} (h0 : ∀ s, S.init s → I s)
    (hstep : ∀ s a t, I s → S.step s a t → I t)
    {l : List (σ × α)} {t : σ} (r : Run S l t) : I t := by
  induction r with
  | start h => exact h0 _ h
  | step _ h ih => exact hstep _ _ _ ih h

/-- **Conditional invariant rule**: only the steps that meet `P` are
known to keep the invariant, so the run must consist of such steps. -/
theorem Run.invariant_of_steps {I : σ → Prop} {P : σ → α → Prop}
    (h0 : ∀ s, S.init s → I s)
    (hstep : ∀ s a t, I s → P s a → S.step s a t → I t)
    {l : List (σ × α)} {t : σ} (r : Run S l t) (hP : ∀ p ∈ l, P p.1 p.2) : I t := by
  induction r with
  | start h => exact h0 _ h
  | step r h ih =>
    refine hstep _ _ _ (ih fun p hp => hP p (List.mem_cons_of_mem _ hp)) ?_ h
    exact hP _ List.mem_cons_self

/-- What holds at the end of every run whose steps meet a condition holds
in all states of such a run. -/
theorem Run.throughout {P : σ → α → Prop} {G : σ → Prop}
    (hend : ∀ l t, Run S l t → (∀ p ∈ l, P p.1 p.2) → G t)
    {l : List (σ × α)} {t : σ} (r : Run S l t) (hP : ∀ p ∈ l, P p.1 p.2) :
    (∀ p ∈ l, G p.1) ∧ G t := by
  induction r with
  | start h => exact ⟨by simp, hend _ _ (.start h) hP⟩
  | step r h ih =>
    obtain ⟨hl, hs⟩ := ih fun p hp => hP p (List.mem_cons_of_mem _ hp)
    exact ⟨List.forall_mem_cons.mpr ⟨hs, hl⟩, hend _ _ (r.step h) hP⟩

/-- **First-violation rule with history.** If the steps meeting `P` keep an
invariant that makes a state good, and a step missing `P` leaves a bad
state, then the states of a run are all good exactly when its steps all
meet `P`. Everything may depend on the history. -/
theorem Run.good_iff_steps_along {I G : List (σ × α) → σ → Prop} {P : List (σ × α) → σ → α → Prop}
    (h0 : ∀ s, S.init s → I [] s)
    (hstep : ∀ l s a t, I l s → P l s a → S.step s a t → I ((s, a) :: l) t)
    (hgood : ∀ l s, I l s → G l s)
    (hbad : ∀ l s a t, I l s → ¬ P l s a → S.step s a t → ¬ G ((s, a) :: l) t)
    {l : List (σ × α)} {t : σ} (r : Run S l t) :
    ((∀ l₂ p l₁, l = l₂ ++ p :: l₁ → G l₁ p.1) ∧ G l t) ↔
      ∀ l₂ p l₁, l = l₂ ++ p :: l₁ → P l₁ p.1 p.2 := by
  have hcons : ∀ (Q : List (σ × α) → σ × α → Prop) (q : σ × α) (l : List (σ × α)),
      (∀ l₂ p l₁, q :: l = l₂ ++ p :: l₁ → Q l₁ p) ↔
        Q l q ∧ ∀ l₂ p l₁, l = l₂ ++ p :: l₁ → Q l₁ p := by
    intro Q q l
    constructor
    · exact fun h => ⟨h [] q l rfl, fun l₂ p l₁ hl => h (q :: l₂) p l₁ (by rw [hl]; rfl)⟩
    · rintro ⟨hq, hl⟩ l₂ p l₁ heq
      cases l₂ with
      | nil =>
        obtain ⟨rfl, rfl⟩ := List.cons.inj heq
        exact hq
      | cons q' l₂ =>
        exact hl l₂ p l₁ (List.cons.inj heq).2
  have key : ((∀ l₂ p l₁, l = l₂ ++ p :: l₁ → G l₁ p.1) ∧ G l t →
      ∀ l₂ p l₁, l = l₂ ++ p :: l₁ → P l₁ p.1 p.2) ∧
      ((∀ l₂ p l₁, l = l₂ ++ p :: l₁ → P l₁ p.1 p.2) →
        I l t ∧ ∀ l₂ p l₁, l = l₂ ++ p :: l₁ → G l₁ p.1) := by
    induction r with
    | start h => exact ⟨fun _ l₂ p l₁ hl => by simp at hl, fun _ => ⟨h0 _ h, by simp⟩⟩
    | @step l s t a r h ih =>
      obtain ⟨ihP, ihInv⟩ := ih
      rw [hcons (fun l₁ p => G l₁ p.1), hcons (fun l₁ p => P l₁ p.1 p.2)]
      constructor
      · rintro ⟨⟨hs, hl⟩, ht⟩
        have hP := ihP ⟨hl, hs⟩
        refine ⟨?_, hP⟩
        by_contra hn
        exact hbad _ _ _ _ (ihInv hP).1 hn h ht
      · rintro ⟨ha, hP⟩
        obtain ⟨hs, hl⟩ := ihInv hP
        exact ⟨hstep _ _ _ _ hs ha h, hgood _ _ hs, hl⟩
  exact ⟨key.1, fun hP => ⟨(key.2 hP).2, hgood _ _ (key.2 hP).1⟩⟩

/-- Every entry of a history is found at a split of it. -/
theorem forall_split_iff {Q : σ × α → Prop} {l : List (σ × α)} :
    (∀ l₂ p l₁, l = l₂ ++ p :: l₁ → Q p) ↔ ∀ p ∈ l, Q p := by
  constructor
  · intro h p hp
    obtain ⟨l₂, l₁, hl⟩ := List.append_of_mem hp
    exact h l₂ p l₁ hl
  · exact fun h l₂ p l₁ hl => h p (by simp [hl])

/-- **First-violation rule.** The same, with no dependence on the history. -/
theorem Run.good_iff_steps {I G : σ → Prop} {P : σ → α → Prop}
    (h0 : ∀ s, S.init s → I s)
    (hstep : ∀ s a t, I s → P s a → S.step s a t → I t)
    (hgood : ∀ s, I s → G s)
    (hbad : ∀ s a t, I s → ¬ P s a → S.step s a t → ¬ G t)
    {l : List (σ × α)} {t : σ} (r : Run S l t) :
    ((∀ p ∈ l, G p.1) ∧ G t) ↔ ∀ p ∈ l, P p.1 p.2 := by
  rw [← forall_split_iff (Q := fun p => G p.1), ← forall_split_iff (Q := fun p => P p.1 p.2)]
  exact r.good_iff_steps_along (I := fun _ => I) (G := fun _ => G) (P := fun _ => P) h0
    (fun _ => hstep) (fun _ => hgood) fun _ => hbad

end MmorpgServer.Lib
