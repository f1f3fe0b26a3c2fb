/-
MmorpgServer.Net.SendQueue — the send queue of a session, `send_payload`,
`on_send_async` and `flush_send_queue` of `net/session.cpp`.

* Any thread calls `send_payload`: the tests, the push under `send_mtx_`
  and `uv_async_send` are three steps (`call`, `push`, `signal`).
* `uv_async_send` sets a flag; the loop thread clears it and then calls
  `on_send_async`. Signals sent before the callback starts are answered by
  that one callback.
* `on_send_async` looks at `closing_`, then swaps the queue for an empty
  one under `send_mtx_`, then writes the frames one by one. `uv_write`
  accepts every buffer and keeps their order.
* `on_read` closes the session between two callbacks.
-/
import MmorpgServer.Lib.TransitionSystem
import MmorpgServer.Net.Framing

namespace MmorpgServer.Net

open MmorpgServer.Lib

/-- Where the loop thread is. -/
inductive SendLoop where
  /-- not in `on_send_async` -/
  | idle
  /-- `on_send_async` is called, `closing_` not read yet -/
  | entered
  /-- before the swap -/
  | flushing
  /-- the frames of `local` still to be written -/
  | writing (rest : List Bytes)
  deriving DecidableEq, Repr

/-- The sending half of `Session`. The fields from `pushed` on are not
part of the program: they record the frames pushed and written. -/
structure SendQueue where
  sendQ : List Bytes := []
  closing : Bool := false
  /-- the flag of `send_async_` -/
  pending : Bool := false
  loop : SendLoop := .idle
  /-- the frames of the calls that are before their push -/
  callers : List Bytes := []
  /-- the number of calls between their push and `uv_async_send` -/
  signalling : Nat := 0
  pushed : List Bytes := []
  written : List Bytes := []

namespace SendQueue

/-- `send_payload` up to the push; `none` is a null pointer. -/
def call (f : Frame) (payload : Option Bytes) (s : SendQueue) : SendQueue :=
  if s.closing then s
  else
    match payload with
    | none | some [] => s
    | some payload => { s with callers := s.callers ++ [f.write payload] }

/-- `send_q_.push_back` of the `i`-th caller. -/
def push (i : Nat) (s : SendQueue) : SendQueue :=
  match s.callers[i]? with
  | none => s
  | some frame =>
    { s with
      callers := s.callers.eraseIdx i
      sendQ := s.sendQ ++ [frame]
      signalling := s.signalling + 1
      pushed := s.pushed ++ [frame] }

/-- `uv_async_send`. -/
def signal (s : SendQueue) : SendQueue :=
  { s with pending := true, signalling := s.signalling - 1 }

/-- The next step of the loop thread in `on_send_async`. -/
def onSendAsync (s : SendQueue) : SendQueue :=
  match s.loop with
  | .idle => { s with pending := false, loop := .entered }
  | .entered => if s.closing then { s with loop := .idle } else { s with loop := .flushing }
  | .flushing => { s with sendQ := [], loop := .writing s.sendQ }
  | .writing [] => { s with loop := .idle }
  | .writing (frame :: rest) =>
    { s with written := s.written ++ [frame], loop := .writing rest }

/-- `closing_ = true` in `on_read`. -/
def close (s : SendQueue) : SendQueue := { s with closing := true }

end SendQueue

inductive SendAction where
  | call (payload : Option Bytes)
  | push (i : Nat)
  | signal
  | onSendAsync
  | close
  deriving DecidableEq, Repr

/-- When a thread may move: a callback starts on a pending signal,
`on_read` runs between two callbacks. -/
def SendQueue.Enabled (s : SendQueue) : SendAction → Prop
  | .call _ => True
  | .push i => i < s.callers.length
  | .signal => 0 < s.signalling
  | .onSendAsync => s.loop = .idle → s.pending = true
  | .close => s.loop = .idle

instance (s : SendQueue) : (a : SendAction) → Decidable (s.Enabled a)
  | .call _ => .isTrue trivial
  | .push i => inferInstanceAs (Decidable (i < s.callers.length))
  | .signal => inferInstanceAs (Decidable (0 < s.signalling))
  | .onSendAsync => inferInstanceAs (Decidable (s.loop = .idle → s.pending = true))
  | .close => inferInstanceAs (Decidable (s.loop = .idle))

/-- The move of a thread. -/
def SendQueue.next (f : Frame) (s : SendQueue) : SendAction → SendQueue
  | .call payload => s.call f payload
  | .push i => s.push i
  | .signal => s.signal
  | .onSendAsync => s.onSendAsync
  | .close => s.close

/-- A session's sending half, from its construction on. -/
def sendSystem (f : Frame) : System SendQueue SendAction :=
  .ofFn {} SendQueue.Enabled (SendQueue.next f)

end MmorpgServer.Net
