/-
MmorpgServer.Net.FramingTheorems — frames come out of a session as they
were sent, however the stream is cut.

`frameDecoder` is the abstract view of the wire: take one frame off the
front of the bytes. `extractFrom_eq` is the refinement: the loop with its
offset into the buffer never underflows and computes what draining the
buffer does. What remains is the stream-decoder library.
-/
import MmorpgServer.Net.Framing
import MmorpgServer.Lib.StreamDecoder
import Mathlib.Algebra.Group.Nat.Defs
import Mathlib.Data.List.Flatten

namespace MmorpgServer.Net

open MmorpgServer.Lib

variable {f : Frame}

/-! ## One frame off the front -/

/-- The first frame of a byte string, if it is complete. -/
def takeFrame (f : Frame) (s : Bytes) : Option (Bytes × Bytes) :=
  if s.length < f.kHeader then none
  else
    let len := (f.readLen (s.take f.kHeader)).toNat
    if s.length - f.kHeader < len then none
    else some ((s.drop f.kHeader).take len, s.drop (f.kHeader + len))

theorem takeFrame_eq_some {s x r : Bytes} (h : takeFrame f s = some (x, r)) :
    f.kHeader + (f.readLen (s.take f.kHeader)).toNat ≤ s.length ∧
    x = (s.drop f.kHeader).take (f.readLen (s.take f.kHeader)).toNat ∧
    r = s.drop (f.kHeader + (f.readLen (s.take f.kHeader)).toNat) := by
  unfold takeFrame at h
  split at h
  · cases h
  · simp only at h
    split at h
    · cases h
    · simp only [Option.some.injEq, Prod.mk.injEq] at h
      exact ⟨by omega, h.1.symm, h.2.symm⟩

/-- Frames are decoded one by one; a frame that is complete stays so. -/
def frameDecoder (f : Frame) : Decoder UInt8 Bytes where
  step := takeFrame f
  shrinks s x r h := by
    obtain ⟨hle, -, rfl⟩ := takeFrame_eq_some h
    have hpos := f.kHeader_pos
    rw [List.length_drop]
    omega
  stable s x r h t := by
    obtain ⟨hle, rfl, rfl⟩ := takeFrame_eq_some h
    have htake : (s ++ t).take f.kHeader = s.take f.kHeader :=
      List.take_append_of_le_length (by omega)
    unfold takeFrame
    rw [if_neg (by rw [List.length_append]; omega), htake]
    simp only
    rw [if_neg (by rw [List.length_append]; omega), List.drop_append_of_le_length (by omega),
      List.drop_append_of_le_length hle, List.take_append_of_le_length]
    rw [List.length_drop]
    omega

/-- A written frame is taken off whole. -/
theorem takeFrame_write (hf : f.Lawful) {payload : Bytes} (hlen : payload.length < 2 ^ 32)
    (t : Bytes) : takeFrame f (f.write payload ++ t) = some (payload, t) := by
  have hheader := hf.header_length (UInt32.ofNat payload.length)
  have htoNat : (UInt32.ofNat payload.length).toNat = payload.length := by
    rw [UInt32.toNat_ofNat']
    exact Nat.mod_eq_of_lt hlen
  have htake : (f.write payload ++ t).take f.kHeader =
      f.header (UInt32.ofNat payload.length) := by
    rw [Frame.write, List.append_assoc, ← hheader, List.take_left]
  have hdrop : (f.write payload ++ t).drop f.kHeader = payload ++ t := by
    rw [Frame.write, List.append_assoc, ← hheader, List.drop_left]
  have hsize : (f.write payload ++ t).length = f.kHeader + payload.length + t.length := by
    rw [Frame.write, List.length_append, List.length_append, hheader]
  unfold takeFrame
  rw [htake, hf.readLen_header, htoNat, hsize, if_neg (by omega)]
  simp only
  rw [if_neg (by omega), ← List.drop_drop, hdrop, List.take_left, List.drop_left]

/-! ## The loop -/

theorem checkedSub_of_le {a b : Nat} (h : b ≤ a) : checkedSub a b = some (a - b) := if_pos h

/-- One pass of the loop, from an offset inside the buffer. -/
theorem extractFrom_of_le (f : Frame) {recvBuf : Bytes} {offset : Nat}
    (h : offset ≤ recvBuf.length) :
    extractFrom f recvBuf offset =
      if recvBuf.length - offset < f.kHeader then some ([], offset)
      else
        let len := (f.readLen ((recvBuf.drop offset).take f.kHeader)).toNat
        if recvBuf.length - offset - f.kHeader < len then some ([], offset)
        else
          (extractFrom f recvBuf (offset + f.kHeader + len)).map fun r =>
            ((recvBuf.drop (offset + f.kHeader)).take len :: r.1, r.2) := by
  rw [extractFrom]
  split
  · rename_i heq
    rw [checkedSub_of_le h] at heq
    cases heq
  · rename_i avail heq
    rw [checkedSub_of_le h] at heq
    obtain rfl := Option.some.inj heq
    by_cases hheader : recvBuf.length - offset < f.kHeader
    · rw [if_pos hheader, if_pos hheader]
    · have hle : f.kHeader ≤ recvBuf.length - offset := by omega
      rw [if_neg hheader, if_neg hheader, checkedSub_of_le hle]

/-- **The loop refines the decoder.** From an offset inside the buffer no
subtraction underflows; the payloads are those of the frames from the
offset on, and the loop stops where they end. -/
theorem extractFrom_eq (f : Frame) {recvBuf : Bytes} {offset : Nat}
    (h : offset ≤ recvBuf.length) :
    ∃ stop, offset ≤ stop ∧ stop ≤ recvBuf.length ∧
      extractFrom f recvBuf offset =
        some (((frameDecoder f).drain (recvBuf.drop offset)).1, stop) ∧
      recvBuf.drop stop = ((frameDecoder f).drain (recvBuf.drop offset)).2 := by
  induction hn : recvBuf.length - offset using Nat.strongRecOn generalizing offset with
  | ind n ih =>
    have hpos := f.kHeader_pos
    have hlen : (recvBuf.drop offset).length = recvBuf.length - offset := List.length_drop
    have hstop : takeFrame f (recvBuf.drop offset) = none →
        (frameDecoder f).drain (recvBuf.drop offset) = ([], recvBuf.drop offset) :=
      fun hs => Decoder.drain_of_none hs
    rw [extractFrom_of_le f h]
    by_cases hheader : recvBuf.length - offset < f.kHeader
    · -- the header is not complete
      have hnone : takeFrame f (recvBuf.drop offset) = none := by
        unfold takeFrame
        rw [if_pos (by omega)]
      refine ⟨offset, Nat.le_refl _, h, ?_, ?_⟩ <;> rw [hstop hnone]
      simp [hheader]
    · rw [if_neg hheader]
      generalize hL : (f.readLen ((recvBuf.drop offset).take f.kHeader)).toNat = len
      by_cases hbody : recvBuf.length - offset - f.kHeader < len
      · -- the payload is not complete
        have hnone : takeFrame f (recvBuf.drop offset) = none := by
          unfold takeFrame
          rw [if_neg (by omega)]
          simp only [hL]
          rw [if_pos (by omega)]
        refine ⟨offset, Nat.le_refl _, h, ?_, ?_⟩ <;> rw [hstop hnone]
        simp [hbody]
      · have hsome : takeFrame f (recvBuf.drop offset) =
            some ((recvBuf.drop (offset + f.kHeader)).take len,
              recvBuf.drop (offset + f.kHeader + len)) := by
          unfold takeFrame
          rw [if_neg (by omega)]
          simp only [hL]
          rw [if_neg (by omega), List.drop_drop, List.drop_drop, Nat.add_assoc]
        obtain ⟨stop, hge, hstop', hext, hrest⟩ := ih (recvBuf.length - (offset + f.kHeader + len))
          (by omega) (by omega) rfl
        have hdrain : (frameDecoder f).drain (recvBuf.drop offset) = _ :=
          Decoder.drain_of_some hsome
        rw [hdrain]
        refine ⟨stop, by omega, hstop', ?_, hrest⟩
        simp [hbody, hext]

/-- A read drains the buffer with the new bytes behind it. -/
theorem onRead_eq (f : Frame) {recvBuf : Bytes} (hbuf : takeFrame f recvBuf = none)
    (bytes : Bytes) : onRead f recvBuf bytes = some ((frameDecoder f).drain (recvBuf ++ bytes)) := by
  unfold onRead
  by_cases hb : bytes = []
  · subst hb
    rw [if_pos rfl, List.append_nil, Decoder.drain_of_none hbuf]
  · rw [if_neg hb]
    obtain ⟨stop, -, -, hext, hrest⟩ := extractFrom_eq f (Nat.zero_le (recvBuf ++ bytes).length)
    rw [List.drop_zero] at hext hrest
    simp only [hext, Option.map_some]
    by_cases hs : stop > 0
    · rw [if_pos hs, hrest]
    · obtain rfl : stop = 0 := by omega
      rw [List.drop_zero] at hrest
      rw [if_neg hs]
      exact congrArg some (Prod.ext rfl hrest)

theorem onReads_eq (f : Frame) {recvBuf : Bytes} (hbuf : takeFrame f recvBuf = none)
    (reads : List Bytes) :
    onReads f recvBuf reads = some ((frameDecoder f).feedAll recvBuf reads) := by
  induction reads generalizing recvBuf with
  | nil => rfl
  | cons bytes reads ih =>
    have hrest : takeFrame f ((frameDecoder f).drain (recvBuf ++ bytes)).2 = none :=
      Decoder.step_rest (d := frameDecoder f) (recvBuf ++ bytes)
    rw [onReads, onRead_eq f hbuf]
    simp only [ih hrest, Option.map_some]
    rfl

theorem takeFrame_nil (f : Frame) : takeFrame f [] = none := by
  have hpos := f.kHeader_pos
  unfold takeFrame
  rw [if_pos (by simpa using hpos)]

/-- A frame with the length in four bytes, least significant first. -/
def leFrame : Frame where
  kHeader := 4
  kHeader_pos := by decide
  header len := [len.toNat, len.toNat / 256, len.toNat / 65536, len.toNat / 16777216].map
    UInt8.ofNat
  readLen
    | [a, b, c, d] => UInt32.ofNat
        (a.toNat + 256 * b.toNat + 65536 * c.toNat + 16777216 * d.toNat)
    | _ => 0

theorem leFrame_lawful : leFrame.Lawful := by
  refine ⟨fun len => rfl, fun len => ?_⟩
  have hlt := len.toNat_lt
  apply UInt32.toNat_inj.mp
  simp only [leFrame, List.map_cons, List.map_nil, UInt8.toNat_ofNat', UInt32.toNat_ofNat']
  omega

/-- **Framing is independent of chunking.** Whatever bytes arrive in
whatever reads, no subtraction of the loop underflows, and the payloads
handed on and the bytes kept are a function of the concatenation; and if
the bytes are frames written by the other side, however cut, the payloads
are theirs, in order and once each, and nothing is kept. -/
theorem framing_chunk_independent (f : Frame) (hf : f.Lawful) :
    (∀ reads reads' : List Bytes, reads.flatten = reads'.flatten →
      onReads f [] reads ≠ none ∧ onReads f [] reads = onReads f [] reads') ∧
    (∀ (payloads reads : List Bytes), (∀ p ∈ payloads, p.length < 2 ^ 32) →
      reads.flatten = payloads.flatMap f.write → onReads f [] reads = some (payloads, [])) := by
  have hdrain : ∀ reads, onReads f [] reads = some ((frameDecoder f).drain reads.flatten) := by
    intro reads
    rw [onReads_eq f (takeFrame_nil f), Decoder.feedAll_eq_drain (takeFrame_nil f)]
    rfl
  constructor
  · intro reads reads' h
    rw [hdrain, hdrain, h]
    exact ⟨by simp, rfl⟩
  · intro payloads reads hlen h
    rw [hdrain, h]
    exact congrArg some (Decoder.drain_encode (takeFrame_nil f)
      fun p hp t => takeFrame_write hf (hlen p hp) t)

/-- Two frames, the second one empty, cut inside a header and inside a
payload. -/
theorem framing_chunk_independent_two :
    onReads leFrame [] [[3], [0, 0, 0, 1, 2], [3, 0, 0], [0, 0]] = some ([[1, 2, 3], []], []) :=
  (framing_chunk_independent leFrame leFrame_lawful).2 [[1, 2, 3], []] _ (by decide) (by decide)

end MmorpgServer.Net
