/-
MmorpgServer.Lib.Loop — a `for` loop whose body changes a state and
emits output.

`emitLoop_state` is the invariant rule for the state; `emitLoop_output`
says that when the body's output depends on the element alone, the loop
emits the outputs of the elements one after another.

`updateLoop` is the loop whose body also replaces the element it is at.
`updateLoop_forall` is the rule for what ties each element to the state:
the body may break it for the other elements only through their own keys;
`updateLoop_turn` is the same for a tie that the body changes.
`visits` is the state and the element each pass of the body runs with;
`updateLoop_of_visits` is the rule for what each of these passes keeps,
`updateLoop_of_visit` that for what one pass brings about,
`updateLoop_log` that for a log the passes write to.
-/
import Mathlib.Data.List.Basic

namespace MmorpgServer.Lib

universe u v w

variable {σ : Type u} {α : Type v} {ε : Type w}

/-- Run the body on every element in order, collecting the output. -/
def emitLoop (f : σ → α → σ × List ε) : σ → List α → σ × List ε
  | s, [] => (s, [])
  | s, a :: l => ((emitLoop f (f s a).1 l).1, (f s a).2 ++ (emitLoop f (f s a).1 l).2)

@[simp] theorem emitLoop_nil (f : σ → α → σ × List ε) (s : σ) : emitLoop f s [] = (s, []) := rfl

/-- What every pass of the body keeps holds after the loop. -/
theorem emitLoop_state {f : σ → α → σ × List ε} {I : σ → Prop}
    (hI : ∀ s a, I s → I (f s a).1) {s : σ} (hs : I s) (l : List α) : I (emitLoop f s l).1 := by
  induction l generalizing s with
  | nil => exact hs
  | cons a l ih => exact ih (hI s a hs)

/-- Output of a loop whose body emits a function of the element, as long
as `I` holds of the state. -/
theorem emitLoop_output {f : σ → α → σ × List ε} {I : σ → Prop} {g : α → List ε}
    (hI : ∀ s a, I s → I (f s a).1) (hg : ∀ s a, I s → (f s a).2 = g a)
    {s : σ} (hs : I s) (l : List α) : (emitLoop f s l).2 = l.flatMap g := by
  induction l generalizing s with
  | nil => rfl
  | cons a l ih => simp only [emitLoop, List.flatMap_cons, hg s a hs, ih (hI s a hs)]

/-- A loop whose body stays silent. -/
theorem emitLoop_silent {f : σ → α → σ × List ε} {I : σ → Prop}
    (hI : ∀ s a, I s → I (f s a).1) (hg : ∀ s a, I s → (f s a).2 = []) {s : σ} (hs : I s)
    (l : List α) : (emitLoop f s l).2 = [] := by
  rw [emitLoop_output hI hg hs, List.flatMap_eq_nil_iff]
  exact fun _ _ => rfl

/-- Run the body on every element in order; each element becomes what the
body makes of it. -/
def updateLoop (f : σ → α → α × σ) : σ → List α → List α × σ
  | s, [] => ([], s)
  | s, a :: l => ((f s a).1 :: (updateLoop f (f s a).2 l).1, (updateLoop f (f s a).2 l).2)

@[simp] theorem updateLoop_nil (f : σ → α → α × σ) (s : σ) : updateLoop f s [] = ([], s) := rfl

theorem updateLoop_cons (f : σ → α → α × σ) (s : σ) (a : α) (l : List α) :
    updateLoop f s (a :: l) =
      ((f s a).1 :: (updateLoop f (f s a).2 l).1, (updateLoop f (f s a).2 l).2) := rfl

/-- **Loop rule for the state.** What the body keeps at every element of
the list holds after the loop. -/
theorem updateLoop_state {f : σ → α → α × σ} {I : σ → Prop} {l : List α}
    (hI : ∀ s, ∀ a ∈ l, I s → I (f s a).2) {s : σ} (hs : I s) : I (updateLoop f s l).2 := by
  induction l generalizing s with
  | nil => exact hs
  | cons a l ih =>
    have hhead := hI s a List.mem_cons_self hs
    exact ih (fun s b hb => hI s b (List.mem_cons_of_mem a hb)) hhead

/-- **Loop rule for state and elements.** What the body keeps of both, the
loop keeps of both. -/
theorem updateLoop_both {f : σ → α → α × σ} {I : σ → Prop} {Q : α → Prop}
    (h : ∀ s a, I s → Q a → I (f s a).2 ∧ Q (f s a).1) {s : σ} (hs : I s) {l : List α}
    (hl : ∀ a ∈ l, Q a) : I (updateLoop f s l).2 ∧ ∀ a ∈ (updateLoop f s l).1, Q a := by
  induction l generalizing s with
  | nil => exact ⟨hs, hl⟩
  | cons a l ih =>
    rw [List.forall_mem_cons] at hl
    obtain ⟨hstate, hhead⟩ := h s a hs hl.1
    obtain ⟨hend, hrest⟩ := ih hstate hl.2
    rw [updateLoop_cons, List.forall_mem_cons]
    exact ⟨hend, hhead, hrest⟩

/-- What the body does not change of an element, the loop does not change
of the list. -/
theorem updateLoop_map {κ : Type*} {f : σ → α → α × σ} {key : α → κ}
    (hkey : ∀ s a, key (f s a).1 = key a) (s : σ) (l : List α) :
    (updateLoop f s l).1.map key = l.map key := by
  induction l generalizing s with
  | nil => rfl
  | cons a l ih => rw [updateLoop_cons, List.map_cons, List.map_cons, hkey, ih]

/-- **Loop rule for elements that change their tie to the state.** The
body takes the element it is at from the one tie to the other, and keeps
both ties of every element with another key. -/
theorem updateLoop_turn {κ : Type*} {f : σ → α → α × σ} {key : α → κ} {Before After : σ → α → Prop}
    (hkey : ∀ s a, key (f s a).1 = key a)
    (hself : ∀ s a, Before s a → After (f s a).2 (f s a).1)
    (hother : ∀ s a b, Before s a → key b ≠ key a →
      (Before s b → Before (f s a).2 b) ∧ (After s b → After (f s a).2 b))
    {s : σ} {l : List α} (hl : (l.map key).Nodup) (h : ∀ a ∈ l, Before s a) :
    ∀ a ∈ (updateLoop f s l).1, After (updateLoop f s l).2 a := by
  -- an element already replaced is not touched by what follows
  have hkeep : ∀ (l : List α) (s : σ) (b : α), key b ∉ l.map key → (∀ a ∈ l, Before s a) →
      (l.map key).Nodup → After s b → After (updateLoop f s l).2 b := by
    intro l
    induction l with
    | nil => exact fun s b _ _ _ hb => hb
    | cons a l ih =>
      intro s b hb hall hnd htied
      rw [List.map_cons, List.mem_cons, not_or] at hb
      obtain ⟨hnot, hnd⟩ := List.nodup_cons.mp hnd
      have ha := hall a List.mem_cons_self
      refine ih (f s a).2 b hb.2 (fun c hc => ?_) hnd ((hother s a b ha hb.1).2 htied)
      have hca : key c ≠ key a := fun e => hnot (e ▸ List.mem_map_of_mem hc)
      exact (hother s a c ha hca).1 (hall c (List.mem_cons_of_mem a hc))
  induction l generalizing s with
  | nil => intro a ha; cases ha
  | cons a l ih =>
    obtain ⟨hnot, hnd⟩ := List.nodup_cons.mp hl
    have ha := h a List.mem_cons_self
    have hrest : ∀ c ∈ l, Before (f s a).2 c := fun c hc =>
      (hother s a c ha (fun e => hnot (e ▸ List.mem_map_of_mem hc))).1
        (h c (List.mem_cons_of_mem a hc))
    intro c hc
    rw [updateLoop_cons] at hc ⊢
    rcases List.mem_cons.mp hc with rfl | hc
    · refine hkeep l _ _ ?_ hrest hnd (hself s a ha)
      rw [hkey]
      exact hnot
    · exact ih hnd hrest c hc

/-- **Loop rule for elements tied to the state.** The body keeps the tie
of the element it is at and of every element with another key. -/
theorem updateLoop_forall {κ : Type*} {f : σ → α → α × σ} {key : α → κ}
    {Tied : σ → α → Prop} (hkey : ∀ s a, key (f s a).1 = key a)
    (hself : ∀ s a, Tied s a → Tied (f s a).2 (f s a).1)
    (hother : ∀ s a b, Tied s a → key b ≠ key a → Tied s b → Tied (f s a).2 b)
    {s : σ} {l : List α} (hl : (l.map key).Nodup) (h : ∀ a ∈ l, Tied s a) :
    ∀ a ∈ (updateLoop f s l).1, Tied (updateLoop f s l).2 a :=
  updateLoop_turn hkey hself (fun s a b ha hb => ⟨hother s a b ha hb, hother s a b ha hb⟩) hl h

/-- Two bodies that do the same up to a view of the state do the same in a
loop. -/
theorem updateLoop_view {τ : Type*} {f : τ → α → α × τ} {g : σ → α → α × σ} {view : τ → σ}
    (h : ∀ t a, (f t a).1 = (g (view t) a).1 ∧ view (f t a).2 = (g (view t) a).2) (t : τ)
    (l : List α) :
    (updateLoop f t l).1 = (updateLoop g (view t) l).1 ∧
      view (updateLoop f t l).2 = (updateLoop g (view t) l).2 := by
  induction l generalizing t with
  | nil => exact ⟨rfl, rfl⟩
  | cons a l ih =>
    obtain ⟨h₁, h₂⟩ := h t a
    obtain ⟨ih₁, ih₂⟩ := ih (f t a).2
    rw [updateLoop_cons, updateLoop_cons, ← h₂]
    exact ⟨congrArg₂ List.cons h₁ ih₁, ih₂⟩

/-- The passes of the body: the state and the element of each. -/
def visits (f : σ → α → α × σ) : σ → List α → List (σ × α)
  | _, [] => []
  | s, a :: l => (s, a) :: visits f (f s a).2 l

theorem visits_map_snd (f : σ → α → α × σ) (s : σ) (l : List α) :
    (visits f s l).map Prod.snd = l := by
  induction l generalizing s with
  | nil => rfl
  | cons a l ih => rw [visits, List.map_cons, ih]

/-- The loop's elements are what its passes made of them. -/
theorem updateLoop_fst (f : σ → α → α × σ) (s : σ) (l : List α) :
    (updateLoop f s l).1 = (visits f s l).map fun v => (f v.1 v.2).1 := by
  induction l generalizing s with
  | nil => rfl
  | cons a l ih => rw [updateLoop_cons, visits, List.map_cons, ih]

theorem mem_updateLoop {f : σ → α → α × σ} {s : σ} {l : List α} {b : α} :
    b ∈ (updateLoop f s l).1 ↔ ∃ v ∈ visits f s l, (f v.1 v.2).1 = b := by
  rw [updateLoop_fst, List.mem_map]

theorem mem_of_mem_visits {f : σ → α → α × σ} {s : σ} {l : List α} {v : σ × α}
    (h : v ∈ visits f s l) : v.2 ∈ l := by
  rw [← visits_map_snd f s l]
  exact List.mem_map_of_mem h

/-- What the body keeps holds at every pass. -/
theorem visits_state {f : σ → α → α × σ} {I : σ → Prop} {l : List α}
    (hI : ∀ s, ∀ a ∈ l, I s → I (f s a).2) {s : σ} (hs : I s) : ∀ v ∈ visits f s l, I v.1 := by
  induction l generalizing s with
  | nil => intro v hv; cases hv
  | cons a l ih =>
    intro v hv
    rcases List.mem_cons.mp hv with rfl | hv
    · exact hs
    · have hhead := hI s a List.mem_cons_self hs
      exact ih (fun s b hb => hI s b (List.mem_cons_of_mem a hb)) hhead v hv

/-- What each of the passes keeps holds after the loop. -/
theorem updateLoop_of_visits {f : σ → α → α × σ} {I : σ → Prop} {s : σ} {l : List α}
    (hI : ∀ v ∈ visits f s l, I v.1 → I (f v.1 v.2).2) (hs : I s) : I (updateLoop f s l).2 := by
  induction l generalizing s with
  | nil => exact hs
  | cons a l ih =>
    rw [visits, List.forall_mem_cons] at hI
    exact ih hI.2 (hI.1 hs)

/-- What one pass brings about and the body keeps holds after the loop. -/
theorem updateLoop_of_visit {f : σ → α → α × σ} {I : σ → Prop} {l : List α}
    (hI : ∀ s, ∀ a ∈ l, I s → I (f s a).2) {s : σ} {v : σ × α} (hv : v ∈ visits f s l)
    (h : I (f v.1 v.2).2) : I (updateLoop f s l).2 := by
  induction l generalizing s with
  | nil => cases hv
  | cons a l ih =>
    have hrest : ∀ s, ∀ b ∈ l, I s → I (f s b).2 := fun s b hb =>
      hI s b (List.mem_cons_of_mem a hb)
    rw [updateLoop_cons]
    rcases List.mem_cons.mp hv with rfl | hv
    · exact updateLoop_state hrest h
    · exact ih hrest hv

/-- With different keys, the pass of an element is found by its key. -/
theorem find_visit {κ : Type*} [DecidableEq κ] {f : σ → α → α × σ} {key : α → κ} {s : σ}
    {l : List α} (hl : (l.map key).Nodup) {v : σ × α} (h : v ∈ visits f s l) :
    (visits f s l).find? (fun u => key u.2 = key v.2) = some v := by
  induction l generalizing s with
  | nil => cases h
  | cons a l ih =>
    obtain ⟨hnot, hl⟩ := List.nodup_cons.mp hl
    rw [visits] at h ⊢
    rcases List.mem_cons.mp h with rfl | h
    · simp
    · have hne : key a ≠ key v.2 := fun he => hnot (he ▸ List.mem_map_of_mem (mem_of_mem_visits h))
      simpa [hne] using ih hl h

/-- What the body does not change of the keys, the element found by a key
is what the body made of the element found before. -/
theorem find_updateLoop {f : σ → α → α × σ} {p : α → Bool} (hp : ∀ s a, p (f s a).1 = p a)
    (s : σ) {l : List α} {a : α} (h : l.find? p = some a) :
    ∃ s', (updateLoop f s l).1.find? p = some (f s' a).1 := by
  induction l generalizing s with
  | nil => cases h
  | cons b l ih =>
    rw [updateLoop_cons]
    cases hb : p b with
    | true =>
      rw [List.find?_cons_of_pos hb] at h
      obtain rfl := Option.some.inj h
      exact ⟨s, List.find?_cons_of_pos ((hp s b).trans hb)⟩
    | false =>
      rw [List.find?_cons_of_neg (by simp [hb])] at h
      obtain ⟨s', hs'⟩ := ih (f s b).2 h
      exact ⟨s', by rw [List.find?_cons_of_neg (by simp [hp, hb])]; exact hs'⟩

/-- Every element has a pass. -/
theorem exists_visit (f : σ → α → α × σ) (s : σ) {l : List α} {a : α} (h : a ∈ l) :
    ∃ v ∈ visits f s l, v.2 = a := by
  rw [← visits_map_snd f s l] at h
  exact List.mem_map.mp h

/-- **Loop rule for a log.** When each pass logs entries under the key of
the element it is at, the loop adds to the entries under a key what the
pass of that element logs. -/
theorem updateLoop_log {κ : Type*} [DecidableEq κ] {f : σ → α → α × σ} {key : α → κ}
    (log : σ → List ε) {tag : ε → κ} {entries : σ → α → List ε}
    (hlog : ∀ s a, log (f s a).2 = log s ++ entries s a)
    (htag : ∀ s a, ∀ e ∈ entries s a, tag e = key a) {s : σ} {l : List α}
    (hl : (l.map key).Nodup) {v : σ × α} (hv : v ∈ visits f s l) :
    (log (updateLoop f s l).2).filter (fun e => tag e = key v.2) =
      (log s).filter (fun e => tag e = key v.2) ++ entries v.1 v.2 := by
  have hmine : ∀ s a, (entries s a).filter (fun e => tag e = key a) = entries s a :=
    fun s a => List.filter_eq_self.mpr fun e he => by simpa using htag s a e he
  have hothers : ∀ s a k, key a ≠ k → (entries s a).filter (fun e => tag e = k) = [] :=
    fun s a k hk => List.filter_eq_nil_iff.mpr fun e he => by simpa [htag s a e he] using hk
  -- once past its element, a key is logged no more
  have hafter : ∀ (l : List α) (s : σ) (k : κ), k ∉ l.map key →
      (log (updateLoop f s l).2).filter (fun e => tag e = k) =
        (log s).filter (fun e => tag e = k) := by
    intro l
    induction l with
    | nil => exact fun s k _ => rfl
    | cons a l ih =>
      intro s k hk
      rw [List.map_cons, List.mem_cons, not_or] at hk
      rw [updateLoop_cons, ih _ _ hk.2, hlog, List.filter_append, hothers _ _ _ (Ne.symm hk.1),
        List.append_nil]
  induction l generalizing s with
  | nil => cases hv
  | cons a l ih =>
    obtain ⟨hnot, hl⟩ := List.nodup_cons.mp hl
    rw [updateLoop_cons]
    rcases List.mem_cons.mp hv with rfl | hv
    · rw [hafter _ _ _ hnot, hlog, List.filter_append, hmine]
    · have hne : key a ≠ key v.2 := fun he => hnot (he ▸ List.mem_map_of_mem (mem_of_mem_visits hv))
      rw [ih hl hv, hlog, List.filter_append, hothers _ _ _ hne, List.append_nil]

end MmorpgServer.Lib
