/-
MmorpgServer.Lib.Tables — finite tables, and which value a history of
operations leaves at a key.

* `eraseWhere` — the loop over a hash table that erases entries on its
  way; `lookup_eraseWhere` says what is left, in whatever order the table
  is iterated.
* `Register` — what the operations on a table do at one key: an operation
  writes a value, clears some of the values, or neither.
  `Register.after_eq_some_iff` — the value after a history is the one
  written last, if nothing has cleared it since.
* `Run.register` — a view of the states of a system that every step
  changes as a register does is the value of that register, for the
  history of the run.
-/
import Mathlib.Data.Finmap
import MmorpgServer.Lib.Enumeration
import MmorpgServer.Lib.TransitionSystem

namespace MmorpgServer.Lib

universe u v

/-! ## Erasing on the way -/

section

variable {α : Type u} {β : Type v} [DecidableEq α]

/-- A pass of the loop: the entry at a key is erased if it meets the test. -/
def eraseEntry (drop : β → Bool) (table : Finmap fun _ : α => β) (k : α) : Finmap fun _ : α => β :=
  match table.lookup k with
  | some v => if drop v then table.erase k else table
  | none => table

/-- A table is iterated, and the entries that meet a test are erased. -/
def eraseWhere (order : Enumeration α) (drop : β → Bool) (table : Finmap fun _ : α => β) :
    Finmap fun _ : α => β :=
  (order.list table.keys).foldl (eraseEntry drop) table

theorem lookup_eraseEntry (drop : β → Bool) (table : Finmap fun _ : α => β) (k : α) :
    (eraseEntry drop table k).lookup k = (table.lookup k).filter fun v => !drop v := by
  unfold eraseEntry
  split
  · rename_i v hlookup
    by_cases hdrop : drop v = true
    · rw [if_pos hdrop, Finmap.lookup_erase, hlookup]
      simp [Option.filter_some, hdrop]
    · rw [if_neg hdrop, hlookup]
      simp [Option.filter_some, hdrop]
  · rename_i hlookup
    rw [hlookup]
    rfl

theorem lookup_eraseEntry_ne (drop : β → Bool) (table : Finmap fun _ : α => β) {k k' : α}
    (h : k' ≠ k) : (eraseEntry drop table k).lookup k' = table.lookup k' := by
  unfold eraseEntry
  split
  · split
    · exact Finmap.lookup_erase_ne h
    · rfl
  · rfl

/-- The loop tests every key it comes to, once. -/
theorem lookup_foldl_eraseEntry (drop : β → Bool) {keys : List α} (hkeys : keys.Nodup)
    (table : Finmap fun _ : α => β) (k : α) :
    (keys.foldl (eraseEntry drop) table).lookup k =
      if k ∈ keys then (table.lookup k).filter (fun v => !drop v) else table.lookup k := by
  induction keys generalizing table with
  | nil => rfl
  | cons k' keys ih =>
    obtain ⟨hfresh, hkeys⟩ := List.nodup_cons.mp hkeys
    rw [List.foldl_cons, ih hkeys]
    by_cases hk : k = k'
    · subst hk
      rw [if_neg hfresh, if_pos List.mem_cons_self, lookup_eraseEntry]
    · rw [lookup_eraseEntry_ne drop table hk]
      simp [hk]

/-- What is left is what does not meet the test. -/
theorem lookup_eraseWhere (order : Enumeration α) (drop : β → Bool)
    (table : Finmap fun _ : α => β) (k : α) :
    (eraseWhere order drop table).lookup k = (table.lookup k).filter fun v => !drop v := by
  unfold eraseWhere
  rw [lookup_foldl_eraseEntry drop (order.nodup _)]
  split
  · rfl
  · rename_i hk
    rw [order.mem_iff, Finmap.mem_keys, ← Finmap.lookup_eq_none] at hk
    rw [hk]
    rfl

end

/-! ## The value at one key -/

/-- What operations do to one value: write it, clear it if it is one of
certain values, or neither. -/
structure Register (Op : Type u) (V : Type v) where
  writes : Op → Option V
  clears : Op → V → Bool

namespace Register

variable {Op : Type u} {V : Type v}

/-- The value after one operation. -/
def apply (r : Register Op V) (value : Option V) (op : Op) : Option V :=
  match r.writes op with
  | some v => some v
  | none => value.filter fun v => !r.clears op v

theorem apply_write (r : Register Op V) {op : Op} {v : V} (h : r.writes op = some v)
    (value : Option V) : r.apply value op = some v := by
  unfold apply
  rw [h]

theorem apply_filter (r : Register Op V) {op : Op} (h : r.writes op = none) (value : Option V) :
    r.apply value op = value.filter fun v => !r.clears op v := by
  unfold apply
  rw [h]

/-- An operation that neither writes nor clears. -/
theorem apply_keep (r : Register Op V) {op : Op} (h : r.writes op = none)
    (hkeep : ∀ v, r.clears op v = false) (value : Option V) : r.apply value op = value := by
  rw [apply_filter r h]
  cases value <;> simp [Option.filter_some, hkeep]

/-- An operation that clears whatever there is. -/
theorem apply_clear (r : Register Op V) {op : Op} (h : r.writes op = none)
    (hclear : ∀ v, r.clears op v = true) (value : Option V) : r.apply value op = none := by
  rw [apply_filter r h]
  cases value <;> simp [Option.filter_some, hclear]

/-- The value after a history of operations, newest first. -/
def after (r : Register Op V) : List Op → Option V
  | [] => none
  | op :: history => r.apply (r.after history) op

theorem after_cons (r : Register Op V) (op : Op) (history : List Op) :
    r.after (op :: history) = r.apply (r.after history) op := rfl

/-- A value that has been written and not been written over or cleared
since. -/
def Last (r : Register Op V) (history : List Op) (v : V) : Prop :=
  ∃ since op before, history = since ++ op :: before ∧ r.writes op = some v ∧
    ∀ op' ∈ since, r.writes op' = none ∧ r.clears op' v = false

theorem last_cons (r : Register Op V) (op : Op) (history : List Op) (v : V) :
    r.Last (op :: history) v ↔
      r.writes op = some v ∨ r.writes op = none ∧ r.clears op v = false ∧ r.Last history v := by
  constructor
  · rintro ⟨since, op', before, heq, hwrites, hsince⟩
    cases since with
    | nil =>
      obtain ⟨rfl, rfl⟩ := List.cons.inj heq
      exact .inl hwrites
    | cons op'' since =>
      obtain ⟨rfl, rfl⟩ := List.cons.inj heq
      obtain ⟨hhere, hsince⟩ := List.forall_mem_cons.mp hsince
      exact .inr ⟨hhere.1, hhere.2, since, op', before, rfl, hwrites, hsince⟩
  · rintro (hwrites | ⟨hwrites, hclears, since, op', before, rfl, hlast, hsince⟩)
    · exact ⟨[], op, history, rfl, hwrites, by simp⟩
    · exact ⟨op :: since, op', before, rfl, hlast,
        List.forall_mem_cons.mpr ⟨⟨hwrites, hclears⟩, hsince⟩⟩

/-- **The last write decides**, unless it has been cleared. -/
theorem after_eq_some_iff (r : Register Op V) (history : List Op) (v : V) :
    r.after history = some v ↔ r.Last history v := by
  induction history with
  | nil =>
    refine iff_of_false (Option.some_ne_none v).symm ?_
    rintro ⟨since, op, before, heq, -⟩
    simp at heq
  | cons op history ih =>
    rw [last_cons, ← ih, after_cons]
    unfold apply
    cases hwrites : r.writes op with
    | some w => simp
    | none => simp [Option.filter_eq_some_iff, and_comm]

end Register

/-- **Register rule**: a view of the states that every step changes as a
register does. -/
theorem Run.register {σ Op : Type u} {V : Type v} {S : System σ Op} (r : Register Op V)
    (view : σ → Option V) (h0 : ∀ s, S.init s → view s = none)
    (hstep : ∀ s op t, S.step s op t → view t = r.apply (view s) op)
    {l : List (σ × Op)} {t : σ} (run : Run S l t) : view t = r.after (l.map Prod.snd) := by
  induction run with
  | start h => exact h0 _ h
  | step _ h ih => rw [hstep _ _ _ h, ih, List.map_cons, Register.after_cons]

end MmorpgServer.Lib
