/-
MmorpgServer.Storage.RtPendingTheorems — the counter follows the queue.

`Balanced` is the invariant: the counter is the length of the queue, and
what has been swapped out and not subtracted, less the pushes not counted
yet, modulo 2^32. Each of the four steps changes both sides alike, and
nothing else touches either. A counter that has wrapped below zero is
only a push that is still to be counted.
-/
import Mathlib.Data.Int.ModEq
import MmorpgServer.Storage.RtPending

namespace MmorpgServer.Storage

open MmorpgServer.Lib

/-! ## A 32-bit counter -/

theorem uint32_add_modEq (a b : UInt32) :
    ((a + b).toNat : Int) ≡ a.toNat + b.toNat [ZMOD 2 ^ 32] := by
  rw [UInt32.toNat_add]
  push_cast
  exact Int.mod_modEq _ _

theorem uint32_sub_modEq (a b : UInt32) :
    ((a - b).toNat : Int) ≡ a.toNat - b.toNat [ZMOD 2 ^ 32] := by
  have hsum := (uint32_add_modEq (a - b) b).sub_right b.toNat
  rw [UInt32.sub_add_cancel, add_sub_cancel_right] at hsum
  exact hsum.symm

theorem uint32_ofNat_modEq (n : Nat) : ((UInt32.ofNat n).toNat : Int) ≡ n [ZMOD 2 ^ 32] := by
  rw [UInt32.toNat_ofNat']
  push_cast
  exact Int.mod_modEq _ _

namespace RtPending

variable {F : Type} {s : RtPending F} {maxBatchUids : UInt64}

/-- The counter, modulo 2^32. -/
def Balanced (s : RtPending F) : Prop :=
  (s.impl.rtPending.toNat : Int) ≡
    s.impl.rtQ.length + s.swappedOut.length - s.calls.card [ZMOD 2 ^ 32]

/-! ## The steps -/

theorem Balanced.push (h : s.Balanced) {call : Nat} (hcall : call ∉ s.calls)
    (x : UserSnapshot F) : (s.next maxBatchUids (.push call x)).Balanced := by
  have heq : (s.impl.rtQ.length : Int) + s.swappedOut.length - s.calls.card =
      (s.impl.rtQ ++ [x]).length + s.swappedOut.length - (insert call s.calls).card := by
    rw [List.length_append, Finset.card_insert_of_notMem hcall, List.length_singleton]
    push_cast
    ring
  calc (s.impl.rtPending.toNat : Int)
      ≡ s.impl.rtQ.length + s.swappedOut.length - s.calls.card [ZMOD 2 ^ 32] := h
    _ = (s.impl.rtQ ++ [x]).length + s.swappedOut.length - (insert call s.calls).card := heq

theorem Balanced.count (h : s.Balanced) {call : Nat} (hcall : call ∈ s.calls) :
    (s.next maxBatchUids (.count call)).Balanced := by
  have heq : (s.impl.rtQ.length : Int) + s.swappedOut.length - s.calls.card + 1 =
      s.impl.rtQ.length + s.swappedOut.length - (s.calls.erase call).card := by
    rw [← Finset.card_erase_add_one hcall]
    push_cast
    ring
  calc ((s.impl.rtPending + 1).toNat : Int)
      ≡ s.impl.rtPending.toNat + 1 [ZMOD 2 ^ 32] := uint32_add_modEq _ _
    _ ≡ s.impl.rtQ.length + s.swappedOut.length - s.calls.card + 1 [ZMOD 2 ^ 32] :=
        h.add_right 1
    _ = s.impl.rtQ.length + s.swappedOut.length - (s.calls.erase call).card := heq

/-- The swap moves the queue out; an empty one stays. -/
theorem Balanced.swap (h : s.Balanced) (hswapped : s.swapped = false) :
    (s.next maxBatchUids .swap).Balanced := by
  unfold Balanced swappedOut at h ⊢
  cases hq : s.impl.rtQ with
  | nil => simpa [next, Impl.flushSwap, hq, hswapped] using h
  | cons x q => simpa [next, Impl.flushSwap, hq, hswapped] using h

theorem Balanced.subtract (h : s.Balanced) (hswapped : s.swapped = true) :
    (s.next maxBatchUids .subtract).Balanced := by
  have hout : s.swappedOut = s.impl.rtLocal := if_pos hswapped
  have heq : (s.impl.rtQ.length : Int) + s.swappedOut.length - s.calls.card -
      s.impl.rtLocal.length = s.impl.rtQ.length + ([] : List (UserSnapshot F)).length -
        s.calls.card := by
    rw [hout, List.length_nil]
    push_cast
    ring
  calc ((s.impl.rtPending - UInt32.ofNat s.impl.rtLocal.length).toNat : Int)
      ≡ s.impl.rtPending.toNat - (UInt32.ofNat s.impl.rtLocal.length).toNat [ZMOD 2 ^ 32] :=
        uint32_sub_modEq _ _
    _ ≡ s.impl.rtQ.length + s.swappedOut.length - s.calls.card - s.impl.rtLocal.length
          [ZMOD 2 ^ 32] := h.sub (uint32_ofNat_modEq _)
    _ = _ := heq

theorem Balanced.next (h : s.Balanced) {a : RtPendingAction F} (ha : s.Enabled a) :
    (s.next maxBatchUids a).Balanced := by
  cases a with
  | push call x => exact h.push ha x
  | count call => exact h.count ha
  | swap => exact h.swap ha
  | subtract => exact h.subtract ha
  | mark uid => exact h
  | timer order taken => exact h

/-- The counter of a run, at every moment. -/
theorem balanced_run {l : List (RtPending F × RtPendingAction F)} {t : RtPending F}
    (r : Run (rtPendingSystem F maxBatchUids) l t) : t.Balanced := by
  refine r.invariant (I := Balanced) ?_ ?_
  · rintro s rfl
    exact Int.ModEq.refl _
  · rintro s a t h ⟨ha, rfl⟩
    exact h.next ha

/-! ## Between the calls -/

/-- With no call between its two steps, the counter is the length. -/
theorem Balanced.eq_length (h : s.Balanced) (hs : s.Quiet) :
    s.impl.rtPending.toNat = s.impl.rtQ.length := by
  have hout : s.swappedOut = [] := if_neg (by rw [hs.swapped]; exact Bool.false_ne_true)
  have hmod : (s.impl.rtPending.toNat : Int) ≡ s.impl.rtQ.length [ZMOD 2 ^ 32] := by
    simpa [Balanced, hout, hs.calls] using h
  have hlt := s.impl.rtPending.toNat_lt
  have hlen := hs.length
  have heq := hmod.eq
  rw [Int.emod_eq_of_lt (by omega) (by omega), Int.emod_eq_of_lt (by omega) (by omega)] at heq
  exact Int.ofNat.inj heq

/-- A tick reads the counter exactly when it has stolen no user. -/
theorem timer_stolen (order : Enumeration Uid) (taken : Bool)
    (hpc : s.tick.pc = .stealing kShards) :
    (s.next maxBatchUids (.timer order taken)).tick.pc = .checkPending ↔ s.tick.uids = [] := by
  by_cases h : s.tick.uids = [] <;> simp [next, timer, Tick.timer, hpc, h]

/-- It pushes a job then exactly when the counter is not zero. -/
theorem timer_checkPending (order : Enumeration Uid) (taken : Bool)
    (hpc : s.tick.pc = .checkPending) :
    (s.next maxBatchUids (.timer order taken)).tick.pc = .pushEmpty ↔ s.impl.rtPending > 0 := by
  by_cases h : s.impl.rtPending > 0 <;> simp [next, timer, Tick.timer, hpc, h]

/-- **The counter and the queue agree** modulo 2^32 in every state, and
they are equal between the calls. A tick reads the counter exactly when it
has stolen no user; between the calls it then pushes a job exactly when
something is queued. -/
theorem pending_follows_queue {l : List (RtPending F × RtPendingAction F)} {t : RtPending F}
    (r : Run (rtPendingSystem F maxBatchUids) l t) :
    (t.impl.rtPending.toNat : Int) ≡
      t.impl.rtQ.length + t.swappedOut.length - t.calls.card [ZMOD 2 ^ 32] ∧
    (t.Quiet → t.impl.rtPending.toNat = t.impl.rtQ.length) ∧
    ∀ (order : Enumeration Uid) (taken : Bool),
      (t.tick.pc = .stealing kShards →
        ((t.next maxBatchUids (.timer order taken)).tick.pc = .checkPending ↔
          t.tick.uids = [])) ∧
      (t.tick.pc = .checkPending → t.Quiet →
        ((t.next maxBatchUids (.timer order taken)).tick.pc = .pushEmpty ↔
          t.impl.rtQ ≠ [])) := by
  have hbalanced := balanced_run r
  refine ⟨hbalanced, hbalanced.eq_length, fun order taken =>
    ⟨timer_stolen order taken, fun hpc hquiet => ?_⟩⟩
  rw [timer_checkPending order taken hpc, gt_iff_lt, UInt32.lt_iff_toNat_lt,
    hbalanced.eq_length hquiet, List.ne_nil_iff_length_pos]
  rfl

/-- A push is swapped out and subtracted before it is counted: the counter
wraps. The next snapshot is still noticed. -/
theorem pending_follows_queue_wrapped :
    ∃ (l : List (RtPending Int × RtPendingAction Int)) (t : RtPending Int),
      Run (rtPendingSystem Int 16) l t ∧ (∃ p ∈ l, p.1.impl.rtPending.toNat = 2 ^ 32 - 1) ∧
      t.impl.rtPending.toNat = 1 ∧ t.tick.pc = .checkPending ∧
      (t.next 16 (.timer Enumeration.increasing true)).tick.pc = .pushEmpty := by
  have r : Run (rtPendingSystem Int 16) [] {} := .start rfl
  obtain ⟨_, r⟩ := r.iterate (.timer Enumeration.increasing true) 66 (fun _ _ => trivial)
  have r := r.next (.push 0 ⟨7, 30, 30, 500, 10, 1⟩) ⟨by decide +kernel, rfl⟩
  have r := (r.next .swap ⟨by decide +kernel, rfl⟩).next .subtract ⟨by decide +kernel, rfl⟩
  have r := r.next (.count 0) ⟨by decide +kernel, rfl⟩
  have r := r.next (.push 0 ⟨7, 31, 30, 500, 10, 2⟩) ⟨by decide +kernel, rfl⟩
  have r := r.next (.count 0) ⟨by decide +kernel, rfl⟩
  refine ⟨_, _, r, ?_, ?_, ?_, ?_⟩
  · exact ⟨_, List.mem_cons_of_mem _ (List.mem_cons_of_mem _ List.mem_cons_self),
      by decide +kernel⟩
  · exact (pending_follows_queue r).2.1 ⟨by decide +kernel, by decide +kernel, by decide +kernel⟩
  · decide +kernel
  · exact (((pending_follows_queue r).2.2 _ _).2 (by decide +kernel)
      ⟨by decide +kernel, by decide +kernel, by decide +kernel⟩).mpr (by decide +kernel)

end RtPending

end MmorpgServer.Storage
