/-
MmorpgServer.Net.SendQueueTheorems — no frame stays in the send queue
unnoticed.

`Ordered` accounts for the frames: what was pushed is what was written,
then what the loop thread has taken, then the queue. `Noticed` says who
will look at a queue that is not empty: a pending callback, a pusher that
has still to signal, or a callback that has not swapped yet. A push and
its signal, and the clearing of the flag and the swap, come in this order;
so whichever way they overlap, one of the three is there.
-/
import MmorpgServer.Net.FramingTheorems
import MmorpgServer.Net.SendQueue

namespace MmorpgServer.Net

open MmorpgServer.Lib

namespace SendQueue

/-! ## Order -/

/-- The frames the loop thread has taken out and not written. -/
def taken (s : SendQueue) : List Bytes :=
  match s.loop with
  | .writing rest => rest
  | _ => []

/-- Every frame pushed is written, taken or queued, in this order. -/
def Ordered (s : SendQueue) : Prop := s.pushed = s.written ++ s.taken ++ s.sendQ

/-- A frame is pushed by a caller that stands in front of the queue. -/
theorem push_cases (i : Nat) (s : SendQueue) :
    s.push i = s ∨ ∃ frame ∈ s.callers, s.push i =
      { s with
        callers := s.callers.eraseIdx i
        sendQ := s.sendQ ++ [frame]
        signalling := s.signalling + 1
        pushed := s.pushed ++ [frame] } := by
  unfold push
  cases hi : s.callers[i]? with
  | none => exact .inl rfl
  | some frame => exact .inr ⟨frame, List.mem_of_getElem? hi, rfl⟩

/-- The tests of `send_payload` either turn the call away or let it in. -/
theorem call_cases (f : Frame) (payload : Option Bytes) (s : SendQueue) :
    s.call f payload = s ∨ ∃ bytes, bytes ≠ [] ∧ s.closing = false ∧
      s.call f payload = { s with callers := s.callers ++ [f.write bytes] } := by
  unfold call
  cases hc : s.closing with
  | true => simp
  | false =>
    match payload with
    | none => simp
    | some [] => simp
    | some (b :: bytes) => exact .inr ⟨b :: bytes, by simp⟩

theorem Ordered.next {s : SendQueue} (h : s.Ordered) (f : Frame) (a : SendAction) :
    (s.next f a).Ordered := by
  unfold Ordered at h
  cases a with
  | call payload =>
    rcases s.call_cases f payload with he | ⟨bytes, -, -, he⟩ <;>
      rw [SendQueue.next, he] <;> exact h
  | push i =>
    rcases s.push_cases i with he | ⟨frame, -, he⟩ <;> rw [SendQueue.next, he]
    · exact h
    · change s.pushed ++ [frame] = s.written ++ s.taken ++ (s.sendQ ++ [frame])
      rw [h, List.append_assoc _ s.sendQ]
  | signal => exact h
  | close => exact h
  | onSendAsync =>
    unfold taken at h
    unfold SendQueue.next onSendAsync
    cases hloop : s.loop with
    | idle => simpa [Ordered, taken, hloop] using h
    | entered =>
      simp only
      split <;> simpa [Ordered, taken, hloop] using h
    | flushing => simpa [Ordered, taken, hloop] using h
    | writing rest => cases rest <;> simpa [Ordered, taken, hloop] using h

/-! ## Notice -/

/-- Somebody is going to look at the queue: a callback is pending, a
pusher has still to ask for one, or one has not swapped yet. -/
def Noticed (s : SendQueue) : Prop :=
  s.pending = true ∨ 0 < s.signalling ∨ s.loop = .entered ∨ s.loop = .flushing

/-- While the session is open, a queue that is not empty is noticed. -/
def Attended (s : SendQueue) : Prop := s.closing = false → s.sendQ ≠ [] → s.Noticed

theorem Attended.next {s : SendQueue} (h : s.Attended) (f : Frame) (a : SendAction) :
    (s.next f a).Attended := by
  intro hopen hsome
  cases a with
  | call payload =>
    rcases s.call_cases f payload with he | ⟨bytes, -, -, he⟩ <;>
      simp only [SendQueue.next, he] at * <;> exact h hopen hsome
  | push i =>
    rcases s.push_cases i with he | ⟨frame, -, he⟩ <;> simp only [SendQueue.next, he] at *
    · exact h hopen hsome
    · exact .inr (.inl (Nat.succ_pos _))
  | signal => exact .inl rfl
  | close => simp [SendQueue.next, close] at hopen
  | onSendAsync =>
    unfold SendQueue.next onSendAsync at *
    cases hloop : s.loop with
    | idle => exact .inr (.inr (.inl rfl))
    | entered =>
      simp only [hloop] at *
      cases hc : s.closing with
      | true => simp [hc] at hopen
      | false => exact .inr (.inr (.inr (by simp)))
    | flushing => simp [hloop] at hsome
    | writing rest =>
      have hnoticed : s.pending = true ∨ 0 < s.signalling := by
        have hall : s.Noticed := by
          cases rest <;> simp only [hloop] at * <;> exact h hopen hsome
        simpa [Noticed, hloop] using hall
      cases rest <;> simp only [hloop, Noticed] at * <;> rcases hnoticed with hp | hs
      · exact .inl hp
      · exact .inr (.inl hs)
      · exact .inl hp
      · exact .inr (.inl hs)

/-! ## Runs -/

theorem send_inv {f : Frame} {l : List (SendQueue × SendAction)} {s : SendQueue}
    (r : Run (sendSystem f) l s) : s.Ordered ∧ s.Attended := by
  refine r.invariant (I := fun s => s.Ordered ∧ s.Attended) ?_ ?_
  · rintro s rfl
    exact ⟨rfl, by simp [Attended]⟩
  · rintro s a _ ⟨ho, ha⟩ ⟨-, rfl⟩
    exact ⟨ho.next f a, ha.next f a⟩

/-- **No frame is stranded.** In every interleaving the frames written are
the first of those pushed, in order and each once; while the session is
open, a queue that is not empty is about to be looked at; and when nobody
is under way any more, everything pushed is written. -/
theorem no_frame_stranded {f : Frame} {l : List (SendQueue × SendAction)} {s : SendQueue}
    (r : Run (sendSystem f) l s) :
    s.written <+: s.pushed ∧
      (s.closing = false → s.sendQ ≠ [] →
        s.pending = true ∨ 0 < s.signalling ∨ s.loop = .entered ∨ s.loop = .flushing) ∧
      (s.closing = false → s.pending = false → s.signalling = 0 → s.loop = .idle →
        s.written = s.pushed) := by
  obtain ⟨hordered, hattended⟩ := send_inv r
  refine ⟨?_, hattended, fun hopen hpending hsignalling hidle => ?_⟩
  · rw [hordered, List.append_assoc]
    exact List.prefix_append _ _
  · have hempty : s.sendQ = [] := by
      by_contra hsome
      rcases hattended hopen hsome with hp | hs | he | hf
      · simp [hpending] at hp
      · omega
      · simp [hidle] at he
      · simp [hidle] at hf
    rw [hordered]
    simp [taken, hidle, hempty]

/-- Two calls signal before the callback starts, a third pushes between
the start of the callback and its swap: one callback writes all three. -/
theorem no_frame_stranded_three :
    ∃ (l : List (SendQueue × SendAction)) (s : SendQueue), Run (sendSystem leFrame) l s ∧
      s.written = [leFrame.write [1], leFrame.write [2], leFrame.write [3]] ∧
      s.written <+: s.pushed ∧ (s.sendQ ≠ [] → s.Noticed) := by
  have r : Run (sendSystem leFrame) [] {} := .start rfl
  have r := (r.next (.call (some [1])) ⟨trivial, rfl⟩).next (.call (some [2])) ⟨trivial, rfl⟩
  have r := (r.next (.push 0) ⟨by decide, rfl⟩).next (.push 0) ⟨by decide, rfl⟩
  have r := (r.next .signal ⟨by decide, rfl⟩).next .signal ⟨by decide, rfl⟩
  have r := (r.next .onSendAsync ⟨by decide, rfl⟩).next (.call (some [3])) ⟨trivial, rfl⟩
  have r := (r.next (.push 0) ⟨by decide, rfl⟩).next .onSendAsync ⟨by decide, rfl⟩
  have r := (r.next .onSendAsync ⟨by decide, rfl⟩).next .onSendAsync ⟨by decide, rfl⟩
  have r := (r.next .onSendAsync ⟨by decide, rfl⟩).next .onSendAsync ⟨by decide, rfl⟩
  obtain ⟨hframes, hnoticed, -⟩ := no_frame_stranded r
  exact ⟨_, _, r, rfl, hframes, hnoticed rfl⟩

end SendQueue

end MmorpgServer.Net
