/-
MmorpgServer.Net.Wire — two sessions and the connection between them.

One end calls `send_payload` from any threads and writes on its loop
thread (`Net.SendQueue`), the other reads with `on_read`
(`Net.Framing`). Between them is what TCP promises: the bytes written
arrive in order, in pieces of any size. The two ends and the network move
in any order.
-/
import MmorpgServer.Net.SendQueue
import Mathlib.Algebra.Group.Nat.Defs

namespace MmorpgServer.Net

open MmorpgServer.Lib

/-- The sending half of one session, the bytes on their way, and the
receiving half of the other: its `recv_buf_` and the payloads it has handed
on. -/
structure Wire where
  sender : SendQueue := {}
  inFlight : Bytes := []
  recvBuf : Bytes := []
  received : List Bytes := []

inductive WireAction where
  | send (a : SendAction)
  /-- `on_read` of the next `n` bytes -/
  | read (n : Nat)

namespace Wire

/-- The frames a step of the sender writes are on their way. -/
def send (f : Frame) (w : Wire) (a : SendAction) : Wire :=
  let sender := w.sender.next f a
  { w with
    sender
    inFlight := w.inFlight ++ (sender.written.drop w.sender.written.length).flatten }

/-- What one step does; `on_read` fails if a subtraction in it underflows. -/
def step (f : Frame) (w : Wire) : WireAction → Option Wire
  | .send a => some (w.send f a)
  | .read n =>
    (onRead f w.recvBuf (w.inFlight.take n)).map fun r =>
      { w with
        inFlight := w.inFlight.drop n
        recvBuf := r.2
        received := w.received ++ r.1 }

/-- The sender's threads move when they may, with payloads whose length is
a `uint32_t`. -/
def Enabled (w : Wire) : WireAction → Prop
  | .send a => w.sender.Enabled a ∧ ∀ payload, a = .call (some payload) → payload.length < 2 ^ 32
  | .read _ => True

end Wire

/-- A connection from its beginning on. -/
def wireSystem (f : Frame) : System Wire WireAction where
  init w := w = {}
  step w a w' := w.Enabled a ∧ w.step f a = some w'

end MmorpgServer.Net
