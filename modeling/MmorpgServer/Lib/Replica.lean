/-
MmorpgServer.Lib.Replica — event-sourced copies of a keyed store.

A source keeps a value, or none, under each key; a replica never sees
the source, only a stream of insert / overwrite / delete updates. The
module says when such a stream is a faithful account of one change of
the source:

* `Update.Legal` — the protocol: an insert meets no value, an overwrite
  and a delete meet one;
* `Diff a b us` — the updates `us` are legal from `a` and end in `b`;
* `channel k` — the part of an interleaved stream that concerns key `k`.

`deliverAll_apply` and `legal_of_channels` reduce both the content of a
replica and the legality of every single update to the channels, so a
stream may be interleaved over keys in any order.
-/
import Mathlib.Logic.Function.Basic
import Mathlib.Data.List.Basic

namespace MmorpgServer.Lib

universe u v

/-- One message about one key. -/
inductive Update (V : Type v) where
  | insert (v : V)
  | overwrite (v : V)
  | delete
  deriving DecidableEq, Repr

namespace Update

variable {V : Type v}

/-- What a replica does with a message. -/
def apply : Update V → Option V → Option V
  | insert v, _ => some v
  | overwrite v, o => o.map fun _ => v
  | delete, _ => none

/-- When a message may be sent. -/
def Legal : Update V → Option V → Prop
  | insert _, o => o = none
  | overwrite _, o => o ≠ none
  | delete, o => o ≠ none

/-- Applying a list of messages in order. -/
def applyAll (us : List (Update V)) (o : Option V) : Option V :=
  us.foldl (fun o u => u.apply o) o

/-- Every message of the list is legal where it is applied. -/
def LegalAll : List (Update V) → Option V → Prop
  | [], _ => True
  | u :: us, o => u.Legal o ∧ LegalAll us (u.apply o)

@[simp] theorem applyAll_nil (o : Option V) : applyAll [] o = o := rfl

@[simp] theorem applyAll_cons (u : Update V) (us : List (Update V)) (o : Option V) :
    applyAll (u :: us) o = applyAll us (u.apply o) := rfl

theorem applyAll_append (us us' : List (Update V)) (o : Option V) :
    applyAll (us ++ us') o = applyAll us' (applyAll us o) := by
  simp [applyAll, List.foldl_append]

theorem legalAll_append (us us' : List (Update V)) (o : Option V) :
    LegalAll (us ++ us') o ↔ LegalAll us o ∧ LegalAll us' (applyAll us o) := by
  induction us generalizing o with
  | nil => simp [LegalAll]
  | cons u us ih => simp [LegalAll, ih, and_assoc]

/-- Which values there are, whatever they are, is decided by which values
there were. -/
theorem applyAll_isSome_congr (us : List (Update V)) {o o' : Option V}
    (h : o.isSome = o'.isSome) : (applyAll us o).isSome = (applyAll us o').isSome := by
  induction us generalizing o o' with
  | nil => exact h
  | cons u us ih =>
    refine ih ?_
    cases u with
    | insert v => rfl
    | overwrite v => simpa [apply] using h
    | delete => rfl

/-- Inserts leave a value if there was one or there is an insert. -/
theorem applyAll_insert_isSome {us : List (Update V)} (h : ∀ u ∈ us, ∃ v, u = insert v)
    (o : Option V) : (applyAll us o).isSome = true ↔ o.isSome = true ∨ us ≠ [] := by
  induction us generalizing o with
  | nil => simp
  | cons u us ih =>
    rw [List.forall_mem_cons] at h
    obtain ⟨⟨v, rfl⟩, hus⟩ := h
    rw [applyAll_cons, ih hus]
    simp [apply]

/-- What a message says of the presence of a value, whatever it is. -/
def mark : Update V → Bool
  | insert _ => true
  | overwrite _ => true
  | delete => false

/-- The presence a replica keeping no values infers. -/
def markAll (us : List (Update V)) (b : Bool) : Bool := us.foldl (fun _ u => u.mark) b

/-- A message taken without asking whether there is a value. -/
def set : Update V → Option V
  | insert v => some v
  | overwrite v => some v
  | delete => none

/-- The value a replica holds that takes every message so: the last one's. -/
def setAll (us : List (Update V)) (o : Option V) : Option V := us.foldl (fun _ u => u.set) o

@[simp] theorem setAll_nil (o : Option V) : setAll [] o = o := rfl

@[simp] theorem setAll_concat (us : List (Update V)) (u : Update V) (o : Option V) :
    setAll (us ++ [u]) o = u.set := by
  simp [setAll]

/-- As long as the messages are legal, not asking makes no difference. -/
theorem setAll_of_legal {us : List (Update V)} {o : Option V} (h : LegalAll us o) :
    setAll us o = applyAll us o := by
  induction us generalizing o with
  | nil => rfl
  | cons u us ih =>
    obtain ⟨hu, hus⟩ := h
    have hstep : u.set = u.apply o := by
      cases u with
      | insert v => rfl
      | overwrite v =>
        cases o with
        | none => exact absurd rfl hu
        | some v' => rfl
      | delete => rfl
    show setAll us u.set = _
    rw [hstep, ih hus, applyAll_cons]

theorem mark_eq_isSome (u : Update V) : u.mark = u.set.isSome := by
  cases u <;> rfl

/-- A replica that keeps no values is the shadow of one that does not ask. -/
theorem markAll_eq_isSome (us : List (Update V)) (o : Option V) :
    markAll us o.isSome = (setAll us o).isSome := by
  induction us generalizing o with
  | nil => rfl
  | cons u us ih =>
    show markAll us u.mark = (setAll us u.set).isSome
    rw [mark_eq_isSome, ih]

/-- As long as the messages are legal, presence is inferred correctly. -/
theorem markAll_isSome {us : List (Update V)} {o : Option V} (h : LegalAll us o) :
    markAll us o.isSome = (applyAll us o).isSome := by
  rw [markAll_eq_isSome, setAll_of_legal h]

end Update

open Update

variable {κ : Type u} {V : Type v}

/-- The messages account, legally, for a change from `a` to `b`. -/
structure Diff (a b : Option V) (us : List (Update V)) : Prop where
  legal : LegalAll us a
  result : applyAll us a = b

theorem Diff.refl (a : Option V) : Diff a a [] := ⟨trivial, rfl⟩

theorem Diff.trans {a b c : Option V} {us us' : List (Update V)}
    (h : Diff a b us) (h' : Diff b c us') : Diff a c (us ++ us') := by
  refine ⟨(legalAll_append _ _ _).mpr ⟨h.legal, h.result ▸ h'.legal⟩, ?_⟩
  rw [applyAll_append, h.result, h'.result]

theorem Diff.insert (v : V) : Diff none (some v) [.insert v] := ⟨⟨rfl, trivial⟩, rfl⟩

theorem Diff.delete (v : V) : Diff (some v) none [.delete] :=
  ⟨⟨Option.some_ne_none v, trivial⟩, rfl⟩

theorem Diff.overwrite (v v' : V) : Diff (some v) (some v') [.overwrite v'] :=
  ⟨⟨Option.some_ne_none v, trivial⟩, rfl⟩

section

variable [DecidableEq κ]

/-- A replica takes one message. -/
def deliver (m : κ → Option V) (d : κ × Update V) : κ → Option V :=
  Function.update m d.1 (d.2.apply (m d.1))

/-- A replica takes a stream of messages. -/
def deliverAll (m : κ → Option V) (L : List (κ × Update V)) : κ → Option V :=
  L.foldl deliver m

/-- The messages about one key, in order. -/
def channel (k : κ) (L : List (κ × Update V)) : List (Update V) :=
  L.filterMap fun d => if d.1 = k then some d.2 else none

@[simp] theorem channel_nil (k : κ) : channel k ([] : List (κ × Update V)) = [] := rfl

theorem channel_cons (k : κ) (d : κ × Update V) (L : List (κ × Update V)) :
    channel k (d :: L) = (if d.1 = k then [d.2] else []) ++ channel k L := by
  by_cases h : d.1 = k <;> simp [channel, h]

theorem channel_append (k : κ) (L L' : List (κ × Update V)) :
    channel k (L ++ L') = channel k L ++ channel k L' := by
  simp [channel, List.filterMap_append]

/-- A replica's value under a key is its channel, applied. -/
theorem deliverAll_apply (m : κ → Option V) (L : List (κ × Update V)) (k : κ) :
    deliverAll m L k = applyAll (channel k L) (m k) := by
  induction L generalizing m with
  | nil => rfl
  | cons d L ih =>
    show deliverAll (deliver m d) L k = _
    rw [ih, channel_cons, applyAll_append]
    by_cases h : d.1 = k
    · subst h
      simp [deliver]
    · simp [deliver, h, Function.update_of_ne (Ne.symm h)]

/-- If every channel of a stream is legal, so is each of its messages at
the moment the replica takes it. -/
theorem legal_of_channels {m : κ → Option V} {L : List (κ × Update V)}
    (h : ∀ k, LegalAll (channel k L) (m k)) {L₁ L₂ : List (κ × Update V)}
    {d : κ × Update V} (hL : L = L₁ ++ d :: L₂) : d.2.Legal (deliverAll m L₁ d.1) := by
  have hd := h d.1
  rw [hL, channel_append, channel_cons, legalAll_append] at hd
  rw [deliverAll_apply]
  simp only [if_true] at hd
  exact hd.2.1

end

end MmorpgServer.Lib
