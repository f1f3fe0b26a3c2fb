/-
MmorpgServer.Net.WireTheorems — payloads arrive as they were sent.

`no_frame_stranded` follows a frame to the socket and
`framing_chunk_independent` takes frames out of a stream. Put together
they say what a client and the server may rely on: between two sessions no
payload is lost, torn, doubled or overtaken by another, whatever the
threads and the network do.

* `Sound` — the invariant: the bytes written are the bytes drained and the
  bytes in flight, and every frame is that of a payload.
* `payloads_arrive_in_order` — over every run.
-/
import MmorpgServer.Net.Wire
import MmorpgServer.Net.FramingTheorems
import MmorpgServer.Net.SendQueueTheorems
import Mathlib.Data.List.Perm.Basic

namespace MmorpgServer.Net

open MmorpgServer.Lib
open scoped List

variable {f : Frame}

/-! ## The sender -/

/-- The payload a step hands to `send_payload`; a null pointer and a
length of 0 do not count. -/
def SendAction.sent : SendAction → Option Bytes
  | .call (some (b :: bytes)) => some (b :: bytes)
  | _ => none

/-- Every frame pushed or about to be is that of a payload sent, each once;
while the session is open, all payloads sent are among them. -/
structure SendQueue.Framed (f : Frame) (calls : List Bytes) (s : SendQueue) : Prop where
  short : ∀ p ∈ calls, p.length < 2 ^ 32
  frames : ∃ payloads waiting, s.pushed = payloads.map f.write ∧
    s.callers = waiting.map f.write ∧ payloads ++ waiting <+~ calls ∧
    (s.closing = false → payloads ++ waiting ~ calls)

/-- What the tests of `send_payload` do with a call, told by its payload. -/
theorem SendQueue.call_sent (f : Frame) (payload : Option Bytes) (s : SendQueue) :
    (SendAction.call payload).sent = none ∧ s.call f payload = s ∨
      ∃ bytes, (SendAction.call payload).sent = some bytes ∧ payload = some bytes ∧
        s.call f payload =
          if s.closing then s else { s with callers := s.callers ++ [f.write bytes] } := by
  unfold call
  match payload with
  | none => simp [SendAction.sent]
  | some [] => simp [SendAction.sent]
  | some (b :: bytes) => exact .inr ⟨b :: bytes, rfl, rfl, rfl⟩

/-- The callers keep their payloads apart: the one that pushes moves from
those waiting to those pushed. -/
theorem SendQueue.Framed.push {s : SendQueue} {calls : List Bytes} (h : s.Framed f calls)
    (i : Nat) : (s.push i).Framed f calls := by
  obtain ⟨payloads, waiting, hpushed, hcallers, hsub, hopen⟩ := h.frames
  unfold SendQueue.push
  split
  · exact h
  · rename_i frame hframe
    rw [hcallers, List.getElem?_map, Option.map_eq_some_iff] at hframe
    obtain ⟨payload, hpayload, rfl⟩ := hframe
    obtain ⟨hi, rfl⟩ := List.getElem?_eq_some_iff.mp hpayload
    have hmoved : payloads ++ [waiting[i]] ++ waiting.eraseIdx i ~ payloads ++ waiting := by
      rw [List.append_assoc]
      exact (List.getElem_cons_eraseIdx_perm hi).append_left payloads
    refine ⟨h.short, payloads ++ [waiting[i]], waiting.eraseIdx i, ?_, ?_, ?_, ?_⟩
    · rw [List.map_append, ← hpushed]
      rfl
    · rw [← List.eraseIdx_map, ← hcallers]
    · exact hmoved.subperm.trans hsub
    · intro hclosing
      exact hmoved.trans (hopen hclosing)

theorem SendQueue.Framed.next {s : SendQueue} {calls : List Bytes} (h : s.Framed f calls)
    {a : SendAction} (ha : ∀ payload, a = .call (some payload) → payload.length < 2 ^ 32) :
    (s.next f a).Framed f (a.sent.toList ++ calls) := by
  have hkeep {s' : SendQueue} (hpushed : s'.pushed = s.pushed) (hcallers : s'.callers = s.callers)
      (hclosing : s'.closing = false → s.closing = false) : s'.Framed f calls := by
    obtain ⟨payloads, waiting, h1, h2, h3, h4⟩ := h.frames
    exact ⟨h.short, payloads, waiting, hpushed.trans h1, hcallers.trans h2, h3,
      fun hc => h4 (hclosing hc)⟩
  cases a with
  | call payload =>
    rcases s.call_sent f payload with ⟨hnone, hcall⟩ | ⟨bytes, hsome, rfl, hcall⟩
    · rw [SendQueue.next, hcall, hnone]
      exact h
    · rw [SendQueue.next, hcall, hsome]
      obtain ⟨payloads, waiting, hpushed, hcallers, hsub, hopen⟩ := h.frames
      have hshort : ∀ p ∈ bytes :: calls, p.length < 2 ^ 32 :=
        List.forall_mem_cons.mpr ⟨ha bytes rfl, h.short⟩
      cases hclosing : s.closing with
      | true => exact ⟨hshort, payloads, waiting, hpushed, hcallers, hsub.cons_right bytes,
          fun hc => by simp [hclosing] at hc⟩
      | false =>
        have hall : payloads ++ (waiting ++ [bytes]) ~ bytes :: calls := by
          rw [← List.append_assoc]
          exact List.perm_append_singleton bytes _ |>.trans ((hopen hclosing).cons bytes)
        refine ⟨hshort, payloads, waiting ++ [bytes], hpushed, ?_, hall.subperm, fun _ => hall⟩
        simp [hcallers]
  | push i => exact h.push i
  | signal => exact hkeep rfl rfl fun hc => hc
  | close => exact hkeep rfl rfl fun hc => by simp [SendQueue.next, SendQueue.close] at hc
  | onSendAsync =>
    show s.onSendAsync.Framed f calls
    unfold SendQueue.onSendAsync
    split
    · exact hkeep rfl rfl fun hc => hc
    · split <;> exact hkeep rfl rfl fun hc => hc
    · exact hkeep rfl rfl fun hc => hc
    · exact hkeep rfl rfl fun hc => hc
    · exact hkeep rfl rfl fun hc => hc

/-- What has been written stays written. -/
theorem SendQueue.written_prefix (f : Frame) (s : SendQueue) (a : SendAction) :
    s.written <+: (s.next f a).written := by
  cases a with
  | call payload =>
    have hsame : (s.next f (.call payload)).written = s.written := by
      rcases s.call_cases f payload with he | ⟨bytes, -, -, he⟩ <;> rw [SendQueue.next, he]
    exact hsame.symm ▸ List.prefix_refl _
  | push i =>
    have hsame : (s.next f (.push i)).written = s.written := by
      rcases s.push_cases i with he | ⟨frame, -, he⟩ <;> rw [SendQueue.next, he]
    exact hsame.symm ▸ List.prefix_refl _
  | signal => exact List.prefix_refl _
  | close => exact List.prefix_refl _
  | onSendAsync =>
    show s.written <+: s.onSendAsync.written
    unfold SendQueue.onSendAsync
    split
    · exact List.prefix_refl _
    · split <;> exact List.prefix_refl _
    · exact List.prefix_refl _
    · exact List.prefix_refl _
    · exact List.prefix_append _ _

/-! ## The connection -/

/-- The payload a step of the connection sends. -/
def WireAction.sent : WireAction → Option Bytes
  | .send a => a.sent
  | .read _ => none

/-- The bytes written have been drained or are in flight. -/
structure Wire.Sound (f : Frame) (calls : List Bytes) (w : Wire) : Prop where
  ordered : w.sender.Ordered
  attended : w.sender.Attended
  framed : w.sender.Framed f calls
  bytes : ∃ drained, w.sender.written.flatten = drained ++ w.inFlight ∧
    (frameDecoder f).drain drained = (w.received, w.recvBuf)

theorem Wire.Sound.send {w : Wire} {calls : List Bytes} (h : w.Sound f calls) {a : SendAction}
    (ha : ∀ payload, a = .call (some payload) → payload.length < 2 ^ 32) :
    (w.send f a).Sound f (a.sent.toList ++ calls) := by
  refine ⟨h.ordered.next f a, h.attended.next f a, h.framed.next ha, ?_⟩
  obtain ⟨drained, hbytes, hdrain⟩ := h.bytes
  obtain ⟨frames, hframes⟩ := w.sender.written_prefix f a
  refine ⟨drained, ?_, hdrain⟩
  show (w.sender.next f a).written.flatten = drained ++ (w.inFlight ++
    ((w.sender.next f a).written.drop w.sender.written.length).flatten)
  rw [← hframes, List.drop_left, List.flatten_append, hbytes, List.append_assoc]

/-- Nothing that could be taken off is left in the receive buffer, so a
read drains the buffer and what it reads. -/
theorem Wire.Sound.read_eq {w : Wire} {calls : List Bytes} (h : w.Sound f calls) (n : Nat) :
    w.step f (.read n) =
      some { w with
        inFlight := w.inFlight.drop n
        recvBuf := ((frameDecoder f).drain (w.recvBuf ++ w.inFlight.take n)).2
        received :=
          w.received ++ ((frameDecoder f).drain (w.recvBuf ++ w.inFlight.take n)).1 } := by
  obtain ⟨drained, -, hdrain⟩ := h.bytes
  have hrest := Decoder.step_rest (d := frameDecoder f) drained
  rw [hdrain] at hrest
  rw [Wire.step, onRead_eq f hrest, Option.map_some]

theorem Wire.Sound.read {w w' : Wire} {calls : List Bytes} (h : w.Sound f calls) {n : Nat}
    (hstep : w.step f (.read n) = some w') : w'.Sound f calls := by
  obtain ⟨drained, hbytes, hdrain⟩ := h.bytes
  rw [h.read_eq, Option.some.injEq] at hstep
  subst hstep
  refine ⟨h.ordered, h.attended, h.framed, drained ++ w.inFlight.take n, ?_, ?_⟩
  · rw [List.append_assoc, List.take_append_drop]
    exact hbytes
  · rw [Decoder.drain_append, hdrain]

theorem run_sound {l : List (Wire × WireAction)} {w : Wire} (r : Run (wireSystem f) l w) :
    w.Sound f (l.filterMap fun p => p.2.sent) := by
  induction r with
  | start h =>
    obtain rfl := h
    refine ⟨rfl, by simp [SendQueue.Attended], ⟨by simp, [], [], by simp⟩, [], rfl, ?_⟩
    exact Decoder.drain_of_none (takeFrame_nil f)
  | @step l w w' a r h ih =>
    obtain ⟨henabled, hstep⟩ := h
    cases a with
    | send a =>
      obtain rfl := Option.some.inj hstep
      have hsent := ih.send henabled.2
      cases hs : a.sent <;> simpa [WireAction.sent, hs] using hsent
    | read n => exact ih.read hstep

/-- Frames of payloads, drained: a prefix of the payloads comes out of a
prefix of the bytes. -/
theorem drain_prefix (hf : f.Lawful) {payloads : List Bytes}
    (hlen : ∀ p ∈ payloads, p.length < 2 ^ 32) {drained rest : Bytes}
    (h : payloads.flatMap f.write = drained ++ rest) :
    ((frameDecoder f).drain drained).1 <+: payloads ∧
      (rest = [] → (frameDecoder f).drain drained = (payloads, [])) := by
  have hall := Decoder.drain_encode (d := frameDecoder f) (takeFrame_nil f)
    fun p hp t => takeFrame_write hf (hlen p hp) t
  rw [h] at hall
  constructor
  · have happend := congrArg Prod.fst (Decoder.drain_append (d := frameDecoder f) drained rest)
    rw [hall] at happend
    exact ⟨_, happend.symm⟩
  · rintro rfl
    rwa [List.append_nil] at hall

/-- **Payloads arrive in order.** Whatever threads send and however the
bytes are cut on their way: no subtraction of the reader underflows, and
there is one order of payloads sent, the order of the pushes, in which each
of them stands once and of which the payloads handed on are a prefix. When
the session is open, nobody is under way and nothing is in flight, every
payload sent has been handed on. -/
theorem payloads_arrive_in_order (f : Frame) (hf : f.Lawful) {l : List (Wire × WireAction)}
    {w : Wire} (r : Run (wireSystem f) l w) :
    (∀ a, (w.step f a).isSome) ∧
      ∃ payloads, w.sender.pushed = payloads.map f.write ∧ w.received <+: payloads ∧
        payloads <+~ l.filterMap (fun p => p.2.sent) ∧
        (w.sender.closing = false → w.sender.callers = [] → w.sender.pending = false →
          w.sender.signalling = 0 → w.sender.loop = .idle → w.inFlight = [] →
          w.received ~ l.filterMap (fun p => p.2.sent) ∧ w.recvBuf = []) := by
  have hsound := run_sound r
  constructor
  · intro a
    cases a with
    | send a => rfl
    | read n =>
      rw [hsound.read_eq]
      rfl
  · obtain ⟨hordered, hattended, ⟨hshort, payloads, waiting, hpushed, hcallers, hsub, hopen⟩,
      drained, hbytes, hdrain⟩ := hsound
    have hsub' := (List.sublist_append_left payloads waiting).subperm.trans hsub
    have hall : payloads.flatMap f.write =
        drained ++ (w.inFlight ++ (w.sender.taken ++ w.sender.sendQ).flatten) := by
      rw [List.flatMap_def, ← hpushed, hordered, List.append_assoc, List.flatten_append, hbytes,
        List.append_assoc]
    obtain ⟨hstart, hdone⟩ := drain_prefix hf (fun p hp => hshort p (hsub'.subset hp)) hall
    rw [hdrain] at hstart hdone
    refine ⟨payloads, hpushed, hstart, hsub', ?_⟩
    intro hclosing hnone hpending hsignalling hidle hflight
    have hempty : w.sender.sendQ = [] := by
      by_contra hsome
      rcases hattended hclosing hsome with hp | hs | he | he
      · simp [hpending] at hp
      · omega
      · simp [hidle] at he
      · simp [hidle] at he
    have hreceived := hdone (by simp [hflight, hempty, SendQueue.taken, hidle])
    rw [hnone] at hcallers
    obtain rfl := List.map_eq_nil_iff.mp hcallers.symm
    have hperm := hopen hclosing
    rw [List.append_nil] at hperm
    obtain ⟨hreceived, hbuf⟩ := Prod.mk.inj hreceived
    rw [hreceived, hbuf]
    exact ⟨hperm, rfl⟩

/-- Two calls, the second pushes first; the bytes arrive in two reads, the
first of which ends inside a header. -/
theorem payloads_arrive_in_order_two :
    ∃ (l : List (Wire × WireAction)) (w : Wire), Run (wireSystem leFrame) l w ∧
      w.sender.pushed = [leFrame.write [3], leFrame.write [1, 2]] ∧
      w.received ~ [[3], [1, 2]] ∧ w.recvBuf = [] := by
  have r : Run (wireSystem leFrame) [] {} := .start rfl
  have r := r.next (.send (.call (some [1, 2]))) ⟨⟨trivial, by simp⟩, rfl⟩
  have r := r.next (.send (.call (some [3]))) ⟨⟨trivial, by simp⟩, rfl⟩
  have r := r.next (.send (.push 1)) ⟨⟨by decide, by simp⟩, rfl⟩
  have r := r.next (.send (.push 0)) ⟨⟨by decide, by simp⟩, rfl⟩
  have r := r.next (.send .signal) ⟨⟨by decide, by simp⟩, rfl⟩
  have r := r.next (.send .signal) ⟨⟨by decide, by simp⟩, rfl⟩
  have r := r.next (.send .onSendAsync) ⟨⟨by decide, by simp⟩, rfl⟩
  have r := r.next (.send .onSendAsync) ⟨⟨by decide, by simp⟩, rfl⟩
  have r := r.next (.send .onSendAsync) ⟨⟨by decide, by simp⟩, rfl⟩
  have r := r.next (.send .onSendAsync) ⟨⟨by decide, by simp⟩, rfl⟩
  have r := r.next (.send .onSendAsync) ⟨⟨by decide, by simp⟩, rfl⟩
  have r := r.next (.send .onSendAsync) ⟨⟨by decide, by simp⟩, rfl⟩
  obtain ⟨w₁, h₁⟩ := Option.isSome_iff_exists.mp
    ((payloads_arrive_in_order leFrame leFrame_lawful r).1 (.read 7))
  have r₁ := r.next (.read 7) ⟨trivial, h₁⟩
  obtain ⟨_, -, rfl⟩ := Option.map_eq_some_iff.mp h₁
  obtain ⟨w₂, h₂⟩ := Option.isSome_iff_exists.mp
    ((payloads_arrive_in_order leFrame leFrame_lawful r₁).1 (.read 9))
  have r₂ := r₁.next (.read 9) ⟨trivial, h₂⟩
  obtain ⟨_, -, rfl⟩ := Option.map_eq_some_iff.mp h₂
  obtain ⟨-, _, -, -, -, hdone⟩ := payloads_arrive_in_order leFrame leFrame_lawful r₂
  obtain ⟨hreceived, hbuf⟩ := hdone rfl rfl rfl rfl rfl rfl
  exact ⟨_, _, r₂, rfl, hreceived, hbuf⟩

end MmorpgServer.Net
