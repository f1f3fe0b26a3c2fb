/-
MmorpgServer.Lib.Pipeline — a connection whose commands are sent in a
batch and answered in order.

The client appends commands to an output buffer (`append`) and asks for
replies one at a time (`getReply`); asking sends what is in the buffer.
`serve` is the server with the network around it: from the number of the
command and the server's state, the next state and the reply, or none if
it never arrives. `room` says which appends find memory for the command.

* `appendAll`, `collect` — a loop of appends, a loop of replies; both stop
  at the first failure.
* `serveAll` — the server, command after command.
* `collect_served` — the two loops on a connection with nothing under way:
  the server has carried out the commands in order, and the second loop
  succeeds exactly when every reply arrives.
* `collect_replies` — the `i`-th reply is then the one to the `i`-th
  command.
-/
import Mathlib.Data.List.Basic

namespace MmorpgServer.Lib

universe u v w x y

/-- A connection, and the server at its other end. -/
structure Pipeline (σ : Type u) (κ : Type v) (ρ : Type w) where
  server : σ
  /-- the number of commands sent -/
  sent : Nat := 0
  /-- commands appended and not sent -/
  obuf : List κ := []
  /-- the replies to the commands sent that are not read yet -/
  replies : List (Option ρ) := []
  deriving DecidableEq

namespace Pipeline

variable {σ : Type u} {κ : Type v} {ρ : Type w} {α : Type x} {β : Type y}

/-- Append a command, if there is room for it. -/
def append (room : Nat → Bool) (p : Pipeline σ κ ρ) (k : κ) : Pipeline σ κ ρ × Bool :=
  if room (p.sent + p.obuf.length) then ({ p with obuf := p.obuf ++ [k] }, true) else (p, false)

/-- Append the commands of a list, up to the first that fails. -/
def appendAll (room : Nat → Bool) : Pipeline σ κ ρ → List κ → Pipeline σ κ ρ × Bool
  | p, [] => (p, true)
  | p, k :: ks =>
    let r := p.append room k
    if r.2 then appendAll room r.1 ks else (r.1, false)

/-- The commands from the `n`-th on, carried out in order. -/
def serveAll (serve : Nat → σ → κ → σ × Option ρ) : Nat → σ → List κ → σ × List (Option ρ)
  | _, s, [] => (s, [])
  | n, s, k :: ks =>
    let r := serve n s k
    let rest := serveAll serve (n + 1) r.1 ks
    (rest.1, r.2 :: rest.2)

/-- Send the output buffer. -/
def flush (serve : Nat → σ → κ → σ × Option ρ) (p : Pipeline σ κ ρ) : Pipeline σ κ ρ where
  server := (serveAll serve p.sent p.server p.obuf).1
  sent := p.sent + p.obuf.length
  obuf := []
  replies := p.replies ++ (serveAll serve p.sent p.server p.obuf).2

/-- The next reply; the buffer is sent if none is waiting. -/
def getReply (serve : Nat → σ → κ → σ × Option ρ) (p : Pipeline σ κ ρ) :
    Pipeline σ κ ρ × Option ρ :=
  let p := if p.replies.isEmpty then p.flush serve else p
  match p.replies with
  | [] => (p, none)
  | r :: replies => ({ p with replies }, r)

/-- Read one reply for each element of a list, up to the first that does
not arrive; `f` is what becomes of a reply. -/
def collect (serve : Nat → σ → κ → σ × Option ρ) (f : β → α → ρ → β) :
    Pipeline σ κ ρ → β → List α → Pipeline σ κ ρ × β × Bool
  | p, b, [] => (p, b, true)
  | p, b, a :: as =>
    match p.getReply serve with
    | (p, none) => (p, b, false)
    | (p, some r) => collect serve f p (f b a r) as

/-- Nothing is under way. -/
structure Drained (p : Pipeline σ κ ρ) : Prop where
  obuf : p.obuf = []
  replies : p.replies = []

/-! ## Appending -/

theorem appendAll_cons (room : Nat → Bool) (p : Pipeline σ κ ρ) (k : κ) (ks : List κ) :
    p.appendAll room (k :: ks) =
      if room (p.sent + p.obuf.length) then
        appendAll room { p with obuf := p.obuf ++ [k] } ks
      else (p, false) := by
  simp only [appendAll, append]
  by_cases h : room (p.sent + p.obuf.length) = true
  · simp only [h, if_true]
  · simp only [h, if_false, Bool.false_eq_true]

/-- All commands are appended exactly when there is room for each. -/
theorem appendAll_snd (room : Nat → Bool) (p : Pipeline σ κ ρ) (ks : List κ) :
    (p.appendAll room ks).2 = true ↔
      ∀ i < ks.length, room (p.sent + p.obuf.length + i) = true := by
  induction ks generalizing p with
  | nil => simp [appendAll]
  | cons k ks ih =>
    rw [appendAll_cons, List.length_cons, Nat.forall_lt_succ_left, Nat.add_zero]
    split
    · rename_i hroom
      rw [ih]
      simp only [List.length_append, List.length_cons, List.length_nil, hroom, true_and]
      refine forall₂_congr fun i _ => ?_
      rw [show p.sent + (p.obuf.length + (0 + 1)) + i = p.sent + p.obuf.length + (i + 1) by omega]
    · rename_i hroom
      simp [hroom]

/-- They are then in the buffer, behind what was there. -/
theorem appendAll_fst {room : Nat → Bool} {p : Pipeline σ κ ρ} {ks : List κ}
    (h : (p.appendAll room ks).2 = true) :
    (p.appendAll room ks).1 = { p with obuf := p.obuf ++ ks } := by
  induction ks generalizing p with
  | nil => simp [appendAll]
  | cons k ks ih =>
    rw [appendAll_cons] at h ⊢
    split at h
    · rename_i hroom
      rw [if_pos hroom, ih h]
      simp
    · cases h

/-- Appending sends nothing. -/
theorem appendAll_server (room : Nat → Bool) (p : Pipeline σ κ ρ) (ks : List κ) :
    (p.appendAll room ks).1.server = p.server := by
  induction ks generalizing p with
  | nil => rfl
  | cons k ks ih =>
    rw [appendAll_cons]
    split
    · exact ih _
    · rfl

/-! ## Reading the replies -/

variable {serve : Nat → σ → κ → σ × Option ρ} {f : β → α → ρ → β}

theorem length_serveAll (serve : Nat → σ → κ → σ × Option ρ) (n : Nat) (s : σ) (ks : List κ) :
    (serveAll serve n s ks).2.length = ks.length := by
  induction ks generalizing n s with
  | nil => rfl
  | cons k ks ih => simp [serveAll, ih]

/-- Asking for a reply sends the buffer first. -/
theorem getReply_flush {p : Pipeline σ κ ρ} (h : p.replies = []) :
    p.getReply serve = (p.flush serve).getReply serve := by
  have hflush : (if (p.flush serve).replies.isEmpty then (p.flush serve).flush serve
      else p.flush serve) = p.flush serve := by
    split
    · simp [flush, serveAll]
    · rfl
  unfold getReply
  rw [hflush, if_pos (by rw [h]; rfl)]

/-- The replies that wait, one for each element, are read in order. -/
theorem collect_waiting {s : σ} {n : Nat} {rs : List (Option ρ)} {b : β} {as : List α}
    (h : rs.length = as.length) :
    (collect serve f ⟨s, n, [], rs⟩ b as).1.server = s ∧
    (collect serve f ⟨s, n, [], rs⟩ b as).2.2 = rs.all Option.isSome ∧
    ((collect serve f ⟨s, n, [], rs⟩ b as).2.2 = true →
      (collect serve f ⟨s, n, [], rs⟩ b as).1.Drained) := by
  induction rs generalizing b as with
  | nil =>
    obtain rfl := List.length_eq_zero_iff.mp h.symm
    exact ⟨rfl, rfl, fun _ => ⟨rfl, rfl⟩⟩
  | cons r rs ih =>
    cases as with
    | nil => cases h
    | cons a as =>
      cases r with
      | none => exact ⟨rfl, rfl, fun hfalse => absurd hfalse Bool.false_ne_true⟩
      | some r => exact ih (Nat.succ.inj h)

theorem collect_waiting_some {s : σ} {n : Nat} {vs : List ρ} {b : β} {as : List α}
    (h : vs.length = as.length) :
    collect serve f ⟨s, n, [], vs.map some⟩ b as =
      (⟨s, n, [], []⟩, (as.zip vs).foldl (fun b x => f b x.1 x.2) b, true) := by
  induction vs generalizing b as with
  | nil =>
    obtain rfl := List.length_eq_zero_iff.mp h.symm
    rfl
  | cons v vs ih =>
    cases as with
    | nil => cases h
    | cons a as => exact ih (Nat.succ.inj h)

theorem collect_flush {p : Pipeline σ κ ρ} (h : p.replies = []) (b : β) {as : List α}
    (hne : as ≠ []) : collect serve f p b as = collect serve f (p.flush serve) b as := by
  obtain ⟨a, as, rfl⟩ := List.exists_cons_of_ne_nil hne
  unfold collect
  rw [getReply_flush h]

/-- The connection whose buffer holds `ks`, after it is sent. -/
theorem Drained.flush {p : Pipeline σ κ ρ} (h : p.Drained) (ks : List κ) :
    { p with obuf := ks }.flush serve =
      ⟨(serveAll serve p.sent p.server ks).1, p.sent + ks.length, [],
        (serveAll serve p.sent p.server ks).2⟩ := by
  simp [Pipeline.flush, h.replies]

variable (serve f)

/-- **A batch is carried out in order**, and its replies are all read
exactly when they all arrive; then nothing is under way. -/
theorem collect_served {p : Pipeline σ κ ρ} (h : p.Drained) {ks : List κ} {as : List α}
    (hlen : ks.length = as.length) (hne : as ≠ []) (b : β) :
    (collect serve f { p with obuf := ks } b as).1.server =
      (serveAll serve p.sent p.server ks).1 ∧
    (collect serve f { p with obuf := ks } b as).2.2 =
      (serveAll serve p.sent p.server ks).2.all Option.isSome ∧
    ((collect serve f { p with obuf := ks } b as).2.2 = true →
      (collect serve f { p with obuf := ks } b as).1.Drained) := by
  rw [collect_flush (p := { p with obuf := ks }) h.replies b hne, h.flush ks]
  exact collect_waiting ((length_serveAll _ _ _ _).trans hlen)

/-- **Replies are matched by position.** -/
theorem collect_replies {p : Pipeline σ κ ρ} (h : p.Drained) {ks : List κ} {as : List α}
    {vs : List ρ} (hlen : ks.length = as.length) (hne : as ≠ [])
    (hvs : (serveAll serve p.sent p.server ks).2 = vs.map some) (b : β) :
    collect serve f { p with obuf := ks } b as =
      (⟨(serveAll serve p.sent p.server ks).1, p.sent + ks.length, [], []⟩,
        (as.zip vs).foldl (fun b x => f b x.1 x.2) b, true) := by
  rw [collect_flush (p := { p with obuf := ks }) h.replies b hne, h.flush ks, hvs]
  refine collect_waiting_some ?_
  rw [← hlen, ← length_serveAll serve p.sent p.server ks, hvs, List.length_map]

end Pipeline

end MmorpgServer.Lib
