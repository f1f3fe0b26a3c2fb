/-
MmorpgServer.Lib.StreamDecoder — decoding a stream that arrives in pieces.

A `Decoder` takes one item off the front of a string of symbols, or finds
that the item is not complete yet. It always consumes something
(`shrinks`), and what it decided is not undone by symbols that arrive
later (`stable`). That is all it takes for the pieces not to matter:

* `drain` takes items off until none is complete;
* `feedAll` drains piece by piece, keeping the rest in a buffer;
* `feedAll_eq_drain` — the two agree on the concatenation of the pieces;
* `drain_encode` — encoded items are drained as they were.
-/
import Mathlib.Data.List.Basic

namespace MmorpgServer.Lib

universe u v

/-- One step of an incremental decoder. -/
structure Decoder (α : Type u) (β : Type v) where
  step : List α → Option (β × List α)
  shrinks : ∀ s x r, step s = some (x, r) → r.length < s.length
  stable : ∀ s x r, step s = some (x, r) → ∀ t, step (s ++ t) = some (x, r ++ t)

namespace Decoder

variable {α : Type u} {β : Type v} (d : Decoder α β)

/-- The items at the front of a string, and what is left. -/
def drain (s : List α) : List β × List α :=
  match _h : d.step s with
  | none => ([], s)
  | some (x, r) => (x :: (drain r).1, (drain r).2)
termination_by s.length
decreasing_by
  all_goals exact d.shrinks s x r ‹_›

variable {d}

theorem drain_of_none {s : List α} (h : d.step s = none) : d.drain s = ([], s) := by
  rw [drain]
  split
  · rfl
  · rename_i heq
    rw [h] at heq
    cases heq

theorem drain_of_some {s r : List α} {x : β} (h : d.step s = some (x, r)) :
    d.drain s = (x :: (d.drain r).1, (d.drain r).2) := by
  rw [drain]
  split
  · rename_i heq
    rw [h] at heq
    cases heq
  · rename_i heq
    rw [h] at heq
    cases heq
    rfl

/-- Induction along the items of a string. -/
theorem drain_induction {M : List α → Prop} (hnone : ∀ s, d.step s = none → M s)
    (hsome : ∀ s x r, d.step s = some (x, r) → M r → M s) (s : List α) : M s := by
  induction hn : s.length using Nat.strongRecOn generalizing s with
  | ind n ih =>
    subst hn
    cases hs : d.step s with
    | none => exact hnone s hs
    | some p => exact hsome s p.1 p.2 hs (ih p.2.length (d.shrinks s p.1 p.2 hs) p.2 rfl)

/-- What is left holds no complete item. -/
theorem step_rest (s : List α) : d.step (d.drain s).2 = none := by
  induction s using drain_induction (d := d) with
  | hnone s hs => rw [drain_of_none hs]; exact hs
  | hsome s x r hs ih => rw [drain_of_some hs]; exact ih

/-- Items that were complete stay the same when more arrives. -/
theorem drain_append (s t : List α) :
    d.drain (s ++ t) = ((d.drain s).1 ++ (d.drain ((d.drain s).2 ++ t)).1,
      (d.drain ((d.drain s).2 ++ t)).2) := by
  induction s using drain_induction (d := d) with
  | hnone s hs => rw [drain_of_none hs]; rfl
  | hsome s x r hs ih =>
    rw [drain_of_some hs, drain_of_some (d.stable s x r hs t), ih]
    rfl

/-- Drain piece by piece, the rest of one piece in front of the next. -/
def feedAll (d : Decoder α β) : List α → List (List α) → List β × List α
  | buf, [] => ([], buf)
  | buf, piece :: pieces =>
    let r := d.drain (buf ++ piece)
    let r' := feedAll d r.2 pieces
    (r.1 ++ r'.1, r'.2)

/-- **The pieces do not matter.** -/
theorem feedAll_eq_drain {buf : List α} (hbuf : d.step buf = none) (pieces : List (List α)) :
    feedAll d buf pieces = d.drain (buf ++ pieces.flatten) := by
  induction pieces generalizing buf with
  | nil =>
    rw [List.flatten_nil, List.append_nil, drain_of_none hbuf]
    rfl
  | cons piece pieces ih =>
    rw [List.flatten_cons, ← List.append_assoc, drain_append (buf ++ piece), feedAll,
      ih (step_rest (buf ++ piece))]

/-- **Round trip**, for an encoder the decoder inverts at the front. -/
theorem drain_encode {enc : β → List α} (hempty : d.step [] = none) {xs : List β}
    (henc : ∀ x ∈ xs, ∀ t, d.step (enc x ++ t) = some (x, t)) :
    d.drain (xs.flatMap enc) = (xs, []) := by
  induction xs with
  | nil => exact drain_of_none hempty
  | cons x xs ih =>
    rw [List.flatMap_cons, drain_of_some (henc x List.mem_cons_self _),
      ih fun y hy => henc y (List.mem_cons_of_mem _ hy)]

end Decoder

end MmorpgServer.Lib
