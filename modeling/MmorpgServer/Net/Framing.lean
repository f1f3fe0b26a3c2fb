/-
MmorpgServer.Net.Framing — the length-prefixed frames of a session,
`Session::on_read` and `Session::send_payload` of `net/session.cpp`.

`proto::Frame` (`worker/codec.h`) is not part of the sources. `Frame` is
what the session uses of it: the size of a header, how one is written and
how the length is read back from the bytes of one. `Frame.Lawful` says
that the two fit together.

`extractFrom` is the loop of `on_read` over the receive buffer, with its
offset. Sizes are unsigned in the source; `checkedSub` makes an underflow
visible as a failure, where the code would wrap around.
-/
import Mathlib.Data.List.Basic

namespace MmorpgServer.Net

abbrev Bytes := List UInt8

/-- `proto::Frame`: `kHeader`, the header `write` puts before a payload,
and `read_len` of the bytes of a header. -/
structure Frame where
  kHeader : Nat
  kHeader_pos : 0 < kHeader
  header : UInt32 → Bytes
  readLen : Bytes → UInt32

/-- A header has its size, and its length is read back. -/
structure Frame.Lawful (f : Frame) : Prop where
  header_length : ∀ len, (f.header len).length = f.kHeader
  readLen_header : ∀ len, f.readLen (f.header len) = len

/-- `proto::Frame::write`, which `send_payload` puts on the wire. -/
def Frame.write (f : Frame) (payload : Bytes) : Bytes :=
  f.header (UInt32.ofNat payload.length) ++ payload

/-- `a - b` on sizes; `none` when it underflows. -/
def checkedSub (a b : Nat) : Option Nat := if b ≤ a then some (a - b) else none

/-- The loop of `on_read` from `offset` on: the payloads of the complete
frames in the buffer, and the offset the loop stops at. -/
def extractFrom (f : Frame) (recvBuf : Bytes) (offset : Nat) : Option (List Bytes × Nat) :=
  match _h : checkedSub recvBuf.length offset with
  | none => none
  | some avail =>
    if avail < f.kHeader then some ([], offset)
    else
      let len := (f.readLen ((recvBuf.drop offset).take f.kHeader)).toNat
      match checkedSub avail f.kHeader with
      | none => none
      | some body =>
        if body < len then some ([], offset)
        else
          let payload := (recvBuf.drop (offset + f.kHeader)).take len
          (extractFrom f recvBuf (offset + f.kHeader + len)).map fun r => (payload :: r.1, r.2)
termination_by recvBuf.length - offset
decreasing_by
  have hpos := f.kHeader_pos
  unfold checkedSub at _h
  split at _h
  · obtain rfl := Option.some.inj _h
    omega
  · cases _h

/-- `on_read` for `nread ≥ 0` bytes: the payloads handed on, and what
stays in `recv_buf_`. -/
def onRead (f : Frame) (recvBuf bytes : Bytes) : Option (List Bytes × Bytes) :=
  if bytes = [] then some ([], recvBuf)
  else
    let recvBuf := recvBuf ++ bytes
    (extractFrom f recvBuf 0).map fun r =>
      (r.1, if r.2 > 0 then recvBuf.drop r.2 else recvBuf)

/-- The calls of `on_read` for the successive reads of a session. -/
def onReads (f : Frame) : Bytes → List Bytes → Option (List Bytes × Bytes)
  | recvBuf, [] => some ([], recvBuf)
  | recvBuf, bytes :: reads =>
    match onRead f recvBuf bytes with
    | none => none
    | some (payloads, recvBuf) =>
      (onReads f recvBuf reads).map fun r => (payloads ++ r.1, r.2)

end MmorpgServer.Net
