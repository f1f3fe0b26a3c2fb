/-
MmorpgServer.Storage.TickTheorems — one tick conserves the marked users.

Two invariants carry the result. `Marks` says where a mark is: in the hub,
or in the list if its shard has been visited. `Batches` says how far the
loop is: what lies before its position is pushed or marked again, and the
positions stay below 2^64, since the batch size is either the whole first
step or at most the position reached.
-/
import Mathlib.Data.List.Nodup
import MmorpgServer.Storage.Threads
import MmorpgServer.Storage.Tick

namespace MmorpgServer.Storage

open MmorpgServer.Lib

/-! ## `size_t` -/

theorem uint64_min_toNat (a b : UInt64) : (min a b).toNat = min a.toNat b.toNat := by
  change (if a ≤ b then a else b).toNat = _
  rw [Nat.min_def]
  simp only [UInt64.le_iff_toNat_le]
  split <;> rfl

theorem uint64_max_one_toNat (a : UInt64) : (max 1 a).toNat = max 1 a.toNat := by
  change (if 1 ≤ a then a else 1).toNat = _
  by_cases h : (1 : UInt64) ≤ a
  · have hle : 1 ≤ a.toNat := UInt64.le_iff_toNat_le.mp h
    rw [if_pos h]
    omega
  · have hlt : ¬ 1 ≤ a.toNat := fun hle => h (UInt64.le_iff_toNat_le.mpr hle)
    rw [if_neg h]
    change 1 = _
    omega

/-- A sum that does not wrap. -/
theorem uint64_add_toNat {a b : UInt64} (h : a.toNat + b.toNat < 2 ^ 64) :
    (a + b).toNat = a.toNat + b.toNat := by
  rw [UInt64.toNat_add]
  omega

namespace Tick

theorem size_toNat {t : Tick} (h : t.uids.length < 2 ^ 63) : t.size.toNat = t.uids.length := by
  unfold size
  rw [UInt64.toNat_ofNat']
  omega

/-! ## Where the marks are -/

/-- A user is in the shard of its own number; a mark made before the visit
is in the list after it; the hub holds the marks whose shard is still to be
visited, those made since, and those made again. -/
structure Marks (t : Tick) : Prop where
  placed : ∀ k, ∀ uid ∈ t.dirty k, DirtyHub.shardOf uid = k
  stolen : ∀ uid, uid ∈ t.uids ↔ uid ∈ t.early ∧ t.Visited uid
  nodup : t.uids.Nodup
  late : ∀ uid ∈ t.late, t.Visited uid
  remarked : ∀ uid ∈ t.remarked, t.Visited uid
  hub : ∀ uid, t.dirty.Has uid ↔
    uid ∈ t.early ∧ ¬ t.Visited uid ∨ uid ∈ t.late ∨ uid ∈ t.remarked

theorem marks_init : ({} : Tick).Marks := by
  refine ⟨?_, ?_, List.nodup_nil, ?_, ?_, ?_⟩ <;> simp [DirtyHub.empty, DirtyHub.Has]

/-- Only `mark_dirty` puts a user into a shard. -/
theorem placed_markDirty {hub : DirtyHub} (h : ∀ k, ∀ uid ∈ hub k, DirtyHub.shardOf uid = k)
    (u : Uid) : ∀ k, ∀ uid ∈ hub.markDirty u k, DirtyHub.shardOf uid = k := by
  intro k uid huid
  unfold DirtyHub.markDirty at huid
  by_cases hk : k = DirtyHub.shardOf u
  · subst hk
    rw [Function.update_self, Finset.mem_insert] at huid
    rcases huid with rfl | huid
    · rfl
    · exact h _ uid huid
  · rw [Function.update_of_ne hk] at huid
    exact h k uid huid

theorem Marks.mark {t : Tick} (h : t.Marks) (u : Uid) : (t.mark u).Marks := by
  have hvisited (uid : Uid) : (t.mark u).Visited uid ↔ t.Visited uid := Iff.rfl
  by_cases hu : t.Visited u
  · have hearly : (t.mark u).early = t.early := by simp [Tick.mark, hu]
    have hlate : (t.mark u).late = t.late ++ [u] := by simp [Tick.mark, hu]
    refine ⟨placed_markDirty h.placed u, ?_, h.nodup, ?_, h.remarked, ?_⟩
    · intro uid
      rw [hvisited, hearly]
      exact h.stolen uid
    · intro uid huid
      rw [hlate, List.mem_append, List.mem_singleton] at huid
      rcases huid with huid | rfl
      · exact h.late uid huid
      · exact hu
    · intro uid
      have hhub := h.hub uid
      change (t.dirty.markDirty u).Has uid ↔ _
      rw [DirtyHub.has_markDirty, hvisited, hearly, hlate, hhub, List.mem_append,
        List.mem_singleton]
      change _ ↔ _ ∨ _ ∨ uid ∈ t.remarked
      tauto
  · have hearly : (t.mark u).early = t.early ++ [u] := by simp [Tick.mark, hu]
    have hlate : (t.mark u).late = t.late := by simp [Tick.mark, hu]
    refine ⟨placed_markDirty h.placed u, ?_, h.nodup, ?_, h.remarked, ?_⟩
    · intro uid
      have hstolen := h.stolen uid
      change uid ∈ t.uids ↔ _
      rw [hvisited, hearly, hstolen, List.mem_append, List.mem_singleton]
      constructor
      · exact fun hx => ⟨.inl hx.1, hx.2⟩
      · rintro ⟨huid | rfl, hv⟩
        · exact ⟨huid, hv⟩
        · exact absurd hv hu
    · intro uid huid
      rw [hlate] at huid
      exact h.late uid huid
    · intro uid
      have hhub := h.hub uid
      change (t.dirty.markDirty u).Has uid ↔ _
      rw [DirtyHub.has_markDirty, hvisited, hearly, hlate, hhub, List.mem_append,
        List.mem_singleton]
      change _ ↔ _ ∨ _ ∨ uid ∈ t.remarked
      constructor
      · rintro (rfl | ⟨huid, hv⟩ | hrest)
        · exact .inl ⟨.inr rfl, hu⟩
        · exact .inl ⟨.inl huid, hv⟩
        · exact .inr hrest
      · rintro (⟨huid | rfl, hv⟩ | hrest)
        · exact .inr (.inl ⟨huid, hv⟩)
        · exact .inl rfl
        · exact .inr (.inr hrest)

/-- A step that visits no shard and marks nobody. -/
theorem Marks.keep {t t' : Tick} (h : t.Marks) (hdirty : t'.dirty = t.dirty)
    (huids : t'.uids = t.uids) (hearly : t'.early = t.early) (hlate : t'.late = t.late)
    (hremarked : t'.remarked = t.remarked) (hvisited : ∀ uid, t'.Visited uid ↔ t.Visited uid) :
    t'.Marks := by
  obtain ⟨h₁, h₂, h₃, h₄, h₅, h₆⟩ := h
  constructor
  · rwa [hdirty]
  · intro uid
    rw [huids, hearly, hvisited]
    exact h₂ uid
  · rwa [huids]
  · intro uid huid
    rw [hlate] at huid
    exact (hvisited uid).mpr (h₄ uid huid)
  · intro uid huid
    rw [hremarked] at huid
    exact (hvisited uid).mpr (h₅ uid huid)
  · intro uid
    rw [hdirty, hearly, hlate, hremarked, hvisited]
    exact h₆ uid

/-- **One shard is stolen**: its marks move from the hub to the list. -/
theorem Marks.steal {t t' : Tick} (h : t.Marks) (order : Enumeration Uid) {k : Nat}
    (hk : k < kShards) (hpc : t.pc = .stealing k) (hpc' : t'.pc = .stealing (k + 1))
    (hdirty : t'.dirty = t.dirty.clearShard ⟨k, hk⟩)
    (huids : t'.uids = t.uids ++ order.list (t.dirty ⟨k, hk⟩)) (hearly : t'.early = t.early)
    (hlate : t'.late = t.late) (hremarked : t'.remarked = t.remarked) : t'.Marks := by
  have hvisited (uid : Uid) : t.Visited uid ↔ (DirtyHub.shardOf uid).val < k := by
    simp [Visited, hpc]
  have hvisited' (uid : Uid) :
      t'.Visited uid ↔ t.Visited uid ∨ DirtyHub.shardOf uid = ⟨k, hk⟩ := by
    have hnext : t'.Visited uid ↔ (DirtyHub.shardOf uid).val < k + 1 := by simp [Visited, hpc']
    rw [hnext, hvisited, Fin.ext_iff]
    simp only
    omega
  -- a user of this shard is dirty exactly if it was marked
  have hshard (uid : Uid) : uid ∈ t.dirty ⟨k, hk⟩ ↔
      uid ∈ t.early ∧ DirtyHub.shardOf uid = ⟨k, hk⟩ := by
    constructor
    · intro huid
      have hplace := h.placed _ uid huid
      have hnot : ¬ t.Visited uid := by rw [hvisited, hplace]; exact lt_irrefl k
      rcases (h.hub uid).mp ⟨_, huid⟩ with hearly | hlate | hre
      · exact ⟨hearly.1, hplace⟩
      · exact absurd (h.late uid hlate) hnot
      · exact absurd (h.remarked uid hre) hnot
    · rintro ⟨huid, hplace⟩
      have hnot : ¬ t.Visited uid := by rw [hvisited, hplace]; exact lt_irrefl k
      obtain ⟨k', hk'⟩ := (h.hub uid).mpr (.inl ⟨huid, hnot⟩)
      rwa [← hplace, h.placed k' uid hk']
  have hcleared (uid : Uid) : t'.dirty.Has uid ↔
      t.dirty.Has uid ∧ DirtyHub.shardOf uid ≠ ⟨k, hk⟩ := by
    rw [hdirty]
    constructor
    · rintro ⟨k', hk'⟩
      by_cases hkk : k' = ⟨k, hk⟩
      · rw [DirtyHub.clearShard, hkk, Function.update_self] at hk'
        simp at hk'
      · rw [DirtyHub.clearShard, Function.update_of_ne hkk] at hk'
        exact ⟨⟨k', hk'⟩, by rwa [h.placed k' uid hk']⟩
    · rintro ⟨hhas, hother⟩
      rcases DirtyHub.has_clearShard t.dirty ⟨k, hk⟩ uid hhas with hstill | hin
      · exact hstill
      · exact absurd (h.placed _ uid hin) hother
  constructor
  · intro k' uid huid
    rw [hdirty, DirtyHub.clearShard] at huid
    by_cases hkk : k' = ⟨k, hk⟩
    · rw [hkk, Function.update_self] at huid
      simp at huid
    · rw [Function.update_of_ne hkk] at huid
      exact h.placed k' uid huid
  · intro uid
    rw [huids, hearly, hvisited', List.mem_append, order.mem_iff, hshard, h.stolen]
    tauto
  · rw [huids]
    refine List.nodup_append.mpr ⟨h.nodup, order.nodup _, ?_⟩
    rintro uid huid _ huid' rfl
    have hplace := ((hshard uid).mp ((order.mem_iff _ _).mp huid')).2
    have hv := ((h.stolen uid).mp huid).2
    rw [hvisited, hplace] at hv
    exact lt_irrefl k hv
  · intro uid huid
    rw [hlate] at huid
    exact (hvisited' uid).mpr (.inl (h.late uid huid))
  · intro uid huid
    rw [hremarked] at huid
    exact (hvisited' uid).mpr (.inl (h.remarked uid huid))
  · intro uid
    rw [hcleared, hearly, hlate, hremarked, h.hub, hvisited']
    constructor
    · rintro ⟨⟨huid, hnot⟩ | hrest, hother⟩
      · exact .inl ⟨huid, by tauto⟩
      · exact .inr hrest
    · rintro (⟨huid, hnot⟩ | hrest)
      · exact ⟨.inl ⟨huid, by tauto⟩, by tauto⟩
      · refine ⟨.inr hrest, fun hplace => ?_⟩
        have hv : t.Visited uid := by
          rcases hrest with hl | hr
          · exact h.late uid hl
          · exact h.remarked uid hr
        rw [hvisited, hplace] at hv
        exact lt_irrefl k hv

/-! ## How far the loop is -/

/-- The users before this position are pushed or marked again. -/
def Cut (t : Tick) (n : Nat) : Prop := (t.pushed.flatten ++ t.remarked).Perm (t.uids.take n)

/-- The batch that begins at `i`, and where it ends. -/
structure Batch (maxBatch : UInt64) (t : Tick) (i stop : UInt64) : Prop where
  first : i = 0 ∨ maxBatch.toNat ≤ i.toNat
  inside : i.toNat < t.uids.length
  stop : stop.toNat = min t.uids.length (i.toNat + maxBatch.toNat)

/-- What the loop has done when it is at a place, and in how many steps
it got there. -/
def Batches (maxBatch : UInt64) (t : Tick) : Prop :=
  match t.pc with
  | .idle => t.pushed = [] ∧ t.remarked = [] ∧ t.steps = 0
  | .stealing k => t.pushed = [] ∧ t.remarked = [] ∧ k ≤ kShards ∧ t.steps = k + 1
  | .checkPending => t.Cut 0 ∧ t.uids = [] ∧ t.steps = kShards + 2
  | .pushEmpty => t.Cut 0 ∧ t.uids = [] ∧ t.steps = kShards + 3
  | .test i =>
    (i = 0 ∨ maxBatch.toNat ≤ i.toNat) ∧ t.Cut i.toNat ∧
      t.steps ≤ kShards + 2 + 4 * min i.toNat t.uids.length
  | .push i stop =>
    Batch maxBatch t i stop ∧ t.Cut i.toNat ∧ t.steps ≤ kShards + 3 + 4 * i.toNat
  | .remark i stop k =>
    Batch maxBatch t i stop ∧ i.toNat ≤ k.toNat ∧ k.toNat ≤ stop.toNat ∧ t.Cut k.toNat ∧
      t.steps ≤ kShards + 4 + 4 * i.toNat + (k.toNat - i.toNat)
  | .done => t.Cut t.uids.length ∧ t.steps ≤ kShards + 4 + 4 * t.uids.length

/-- The end of the batch is the beginning of the next one, unless it is
the end of the list. -/
theorem Batch.next {maxBatch : UInt64} {t : Tick} {i stop : UInt64} (h : Batch maxBatch t i stop)
    (hsmall : t.uids.length < 2 ^ 63) (hpos : 0 < maxBatch.toNat) :
    (i + maxBatch).toNat = i.toNat + maxBatch.toNat ∧ i.toNat < stop.toNat ∧
      stop.toNat = min (i + maxBatch).toNat t.uids.length := by
  have hnowrap : i.toNat + maxBatch.toNat < 2 ^ 64 := by
    have hm := maxBatch.toNat_lt
    have hin := h.inside
    rcases h.first with rfl | hle
    · simpa using hm
    · omega
  have hadd := uint64_add_toNat hnowrap
  have hin := h.inside
  have hstop := h.stop
  omega

/-- The slice of the batch. -/
theorem take_job {t : Tick} {i stop : UInt64} (h : i.toNat ≤ stop.toNat) :
    t.uids.take i.toNat ++ t.job i stop = t.uids.take stop.toNat := by
  unfold job
  rw [← List.take_add]
  congr 1
  omega

/-- The job is the slice that `Storage.Threads` takes. -/
theorem job_eq_slice {maxBatch : UInt64} {t : Tick} {i stop : UInt64}
    (h : Batch maxBatch t i stop) (marks : Uid → List Nat) :
    t.job i stop = (State.slice { uids := t.uids, marks } i.toNat maxBatch.toNat).uids := by
  have hstop := h.stop
  unfold job State.slice
  rw [hstop]
  rcases Nat.le_total t.uids.length (i.toNat + maxBatch.toNat) with hle | hle
  · rw [Nat.min_eq_left hle, List.take_of_length_le (by simp),
      List.take_of_length_le (by simp; omega)]
  · rw [Nat.min_eq_right hle, Nat.add_sub_cancel_left]

theorem job_ne_nil {maxBatch : UInt64} {t : Tick} {i stop : UInt64} (h : Batch maxBatch t i stop)
    (hlt : i.toNat < stop.toNat) :
    t.job i stop ≠ [] ∧ (t.job i stop).length ≤ maxBatch.toNat := by
  have hin := h.inside
  have hstop := h.stop
  have hlength : (t.job i stop).length = stop.toNat - i.toNat := by
    unfold job
    rw [List.length_take, List.length_drop]
    omega
  refine ⟨fun hnil => ?_, by omega⟩
  rw [hnil, List.length_nil] at hlength
  omega

theorem Cut.congr {t : Tick} {n n' : Nat} (h : t.Cut n)
    (hn : t.uids.take n = t.uids.take n') : t.Cut n' := by
  unfold Cut at h ⊢
  rwa [← hn]

/-- Behind the end of the list every position is the end. -/
theorem Cut.min {t : Tick} {n : Nat} (h : t.Cut (min n t.uids.length)) : t.Cut n := by
  refine h.congr ?_
  rcases Nat.le_total n t.uids.length with hle | hle
  · rw [Nat.min_eq_left hle]
  · rw [Nat.min_eq_right hle, List.take_length, List.take_of_length_le hle]

/-! ### The steps of the loop -/

theorem Batches.test {maxBatch : UInt64} {order : Enumeration Uid} {pending taken : Bool} {t : Tick}
    {i : UInt64} (h : t.Batches maxBatch) (hsmall : t.uids.length < 2 ^ 63)
    (hpc : t.pc = .test i) : (t.timer maxBatch order pending taken).Batches maxBatch := by
  simp only [Batches, hpc] at h
  obtain ⟨hfirst, hcut, hsteps⟩ := h
  have hsize := size_toNat hsmall
  unfold timer
  simp only [hpc]
  split
  · rename_i hlt
    have hin : i.toNat < t.uids.length := by
      rw [← hsize]
      exact UInt64.lt_iff_toNat_lt.mp hlt
    have hnowrap : i.toNat + maxBatch.toNat < 2 ^ 64 := by
      have hm := maxBatch.toNat_lt
      rcases hfirst with rfl | hle
      · simpa using hm
      · omega
    have hstop : (min t.size (i + maxBatch)).toNat =
        min t.uids.length (i.toNat + maxBatch.toNat) := by
      rw [uint64_min_toNat, hsize, uint64_add_toNat hnowrap]
    refine ⟨⟨hfirst, hin, hstop⟩, hcut, ?_⟩
    simp only
    omega
  · rename_i hlt
    have hout : t.uids.length ≤ i.toNat := by
      rw [← hsize]
      exact Nat.not_lt.mp fun hx => hlt (UInt64.lt_iff_toNat_lt.mpr hx)
    refine ⟨hcut.congr ?_, ?_⟩
    · rw [List.take_length, List.take_of_length_le hout]
    · simp only
      omega

theorem Batches.push {maxBatch : UInt64} {order : Enumeration Uid} {pending taken : Bool} {t : Tick}
    {i stop : UInt64} (h : t.Batches maxBatch) (hsmall : t.uids.length < 2 ^ 63)
    (hpos : 0 < maxBatch.toNat) (hpc : t.pc = .push i stop) :
    (t.timer maxBatch order pending taken).Batches maxBatch := by
  simp only [Batches, hpc] at h
  obtain ⟨hbatch, hcut, hsteps⟩ := h
  obtain ⟨hadd, hlt, hstop⟩ := hbatch.next hsmall hpos
  unfold timer
  simp only [hpc]
  split
  · refine ⟨.inr (by omega), Cut.min ?_, ?_⟩
    · rw [← hstop]
      unfold Cut at hcut ⊢
      simp only [List.flatten_append, List.flatten_singleton]
      have hmove : (t.pushed.flatten ++ t.job i stop ++ t.remarked).Perm
          (t.pushed.flatten ++ t.remarked ++ t.job i stop) := by
        rw [List.append_assoc, List.append_assoc]
        exact List.perm_append_comm.append_left _
      rw [← take_job hlt.le]
      exact hmove.trans (hcut.append_right _)
    · simp only
      omega
  · refine ⟨⟨hbatch.first, hbatch.inside, hbatch.stop⟩, le_refl _, hlt.le, hcut, ?_⟩
    simp only
    omega

theorem Batches.remark {maxBatch : UInt64} {order : Enumeration Uid} {pending taken : Bool}
    {t : Tick} {i stop k : UInt64} (h : t.Batches maxBatch) (hsmall : t.uids.length < 2 ^ 63)
    (hpos : 0 < maxBatch.toNat) (hpc : t.pc = .remark i stop k) :
    (t.timer maxBatch order pending taken).Batches maxBatch := by
  simp only [Batches, hpc] at h
  obtain ⟨hbatch, hle, hend, hcut, hsteps⟩ := h
  obtain ⟨hadd, hlt, hstop⟩ := hbatch.next hsmall hpos
  unfold timer
  simp only [hpc]
  split
  · rename_i hk
    have hk' : k.toNat < stop.toNat := UInt64.lt_iff_toNat_lt.mp hk
    have hin : k.toNat < t.uids.length := by omega
    have hnext : (k + 1).toNat = k.toNat + 1 := by
      refine uint64_add_toNat ?_
      have hone : (1 : UInt64).toNat = 1 := rfl
      omega
    rw [List.getElem?_eq_getElem hin]
    refine ⟨⟨hbatch.first, hbatch.inside, hbatch.stop⟩, by omega, by omega, ?_, ?_⟩
    · unfold Cut at hcut ⊢
      rw [hnext, ← List.take_append_getElem hin, ← List.append_assoc]
      exact hcut.append_right _
    · simp only
      omega
  · rename_i hk
    have hk' : stop.toNat ≤ k.toNat :=
      Nat.not_lt.mp fun hx => hk (UInt64.lt_iff_toNat_lt.mpr hx)
    have hdone : k.toNat = stop.toNat := by omega
    refine ⟨.inr (by omega), Cut.min ?_, ?_⟩
    · rw [← hstop, ← hdone]
      exact hcut
    · simp only
      omega

/-! ## The tick -/

/-- `uids` only grows. -/
theorem uids_le (maxBatch : UInt64) (order : Enumeration Uid) (pending taken : Bool) (t : Tick) :
    t.uids.length ≤ (t.timer maxBatch order pending taken).uids.length := by
  unfold timer
  cases t.pc with
  | stealing k =>
    simp only
    split
    · simp
    · split <;> simp
  | idle | pushEmpty | done => simp
  | checkPending | test i | push i stop =>
    simp only
    split <;> simp
  | remark i stop k =>
    simp only
    split
    · split <;> simp
    · simp

/-- A refused user is marked again: it was in the list, and is in the hub
now. -/
theorem Marks.remark {t t' : Tick} (h : t.Marks) {uid : Uid} (hmem : uid ∈ t.uids)
    (hdirty : t'.dirty = t.dirty.markDirty uid) (huids : t'.uids = t.uids)
    (hearly : t'.early = t.early) (hlate : t'.late = t.late)
    (hremarked : t'.remarked = t.remarked ++ [uid])
    (hvisited : ∀ uid, t'.Visited uid ↔ t.Visited uid) : t'.Marks := by
  obtain ⟨h₁, h₂, h₃, h₄, h₅, h₆⟩ := h
  constructor
  · rw [hdirty]
    exact placed_markDirty h₁ uid
  · intro u
    rw [huids, hearly, hvisited]
    exact h₂ u
  · rwa [huids]
  · intro u hu
    rw [hlate] at hu
    exact (hvisited u).mpr (h₄ u hu)
  · intro u hu
    rw [hremarked, List.mem_append, List.mem_singleton] at hu
    rw [hvisited]
    rcases hu with hu | rfl
    · exact h₅ u hu
    · exact ((h₂ u).mp hmem).2
  · intro u
    rw [hdirty, DirtyHub.has_markDirty, h₆, hearly, hlate, hremarked, hvisited, List.mem_append,
      List.mem_singleton]
    tauto

/-- Every step of `on_timer` keeps the account of the marks. -/
theorem timer_marks {maxBatch : UInt64} {order : Enumeration Uid} {pending taken : Bool} {t : Tick}
    (h : t.Marks) : (t.timer maxBatch order pending taken).Marks := by
  unfold timer
  cases hpc : t.pc with
  | idle => exact h.keep rfl rfl rfl rfl rfl (by simp [Visited, hpc])
  | stealing k =>
    simp only
    split
    · rename_i hk
      exact h.steal order hk hpc rfl rfl rfl rfl rfl rfl
    · -- every shard has been visited
      have hall (uid : Uid) : t.Visited uid := by
        have hlt := (DirtyHub.shardOf uid).isLt
        simp only [Visited, hpc]
        omega
      split
      · exact h.keep rfl rfl rfl rfl rfl fun uid => ⟨fun _ => hall uid, fun _ => trivial⟩
      · exact h.keep rfl rfl rfl rfl rfl fun uid => ⟨fun _ => hall uid, fun _ => trivial⟩
  | checkPending =>
    simp only
    split <;> exact h.keep rfl rfl rfl rfl rfl (by simp [Visited, hpc])
  | pushEmpty => exact h.keep rfl rfl rfl rfl rfl (by simp [Visited, hpc])
  | test i =>
    simp only
    split <;> exact h.keep rfl rfl rfl rfl rfl (by simp [Visited, hpc])
  | push i stop =>
    simp only
    split <;> exact h.keep rfl rfl rfl rfl rfl (by simp [Visited, hpc])
  | remark i stop k =>
    simp only
    split
    · split
      · rename_i uid hk
        exact h.remark (List.mem_of_getElem? hk) rfl rfl rfl rfl rfl (by simp [Visited, hpc])
      · exact h.keep rfl rfl rfl rfl rfl (by simp [Visited, hpc])
    · exact h.keep rfl rfl rfl rfl rfl (by simp [Visited, hpc])
  | done => exact h.keep rfl rfl rfl rfl rfl (by simp [Visited, hpc])

/-- Every step of `on_timer` keeps the account of the batches. -/
theorem timer_batches {maxBatch : UInt64} {order : Enumeration Uid} {pending taken : Bool}
    {t : Tick} (h : t.Batches maxBatch) (hsmall : t.uids.length < 2 ^ 63)
    (hpos : 0 < maxBatch.toNat) (hdone : t.pc ≠ .done) :
    (t.timer maxBatch order pending taken).Batches maxBatch := by
  cases hpc : t.pc with
  | test i => exact h.test hsmall hpc
  | push i stop => exact h.push hsmall hpos hpc
  | remark i stop k => exact h.remark hsmall hpos hpc
  | done => exact absurd hpc hdone
  | idle =>
    simp only [Batches, hpc] at h
    obtain ⟨hpushed, hremarked, hsteps⟩ := h
    unfold timer
    simp [hpc, Batches, hpushed, hremarked, hsteps]
  | stealing k =>
    simp only [Batches, hpc] at h
    obtain ⟨hpushed, hremarked, hk, hsteps⟩ := h
    unfold timer
    simp only [hpc]
    split
    · rename_i hlt
      exact ⟨hpushed, hremarked, hlt, by simp only; omega⟩
    · have hlast : k = kShards := by omega
      have hnone : t.Cut 0 := by simp [Cut, hpushed, hremarked]
      split
      · rename_i hempty
        exact ⟨hnone, by simpa using hempty, by simp only; omega⟩
      · exact ⟨.inl rfl, hnone, by simp only; omega⟩
  | checkPending =>
    simp only [Batches, hpc] at h
    obtain ⟨hcut, hempty, hsteps⟩ := h
    unfold timer
    simp only [hpc]
    split
    · exact ⟨hcut, hempty, by simp only; omega⟩
    · exact ⟨hcut.congr (by simp [hempty]), by simp only; omega⟩
  | pushEmpty =>
    simp only [Batches, hpc] at h
    obtain ⟨hcut, hempty, hsteps⟩ := h
    unfold timer
    simp only [hpc]
    exact ⟨hcut.congr (by simp [hempty]), by simp only; omega⟩

/-- `mark_dirty` does not move the loop. -/
theorem mark_batches {maxBatch : UInt64} {t : Tick} (h : t.Batches maxBatch) (uid : Uid) :
    (t.mark uid).Batches maxBatch := by
  unfold Batches at *
  cases hpc : t.pc with
  | push i stop =>
    simp only [hpc, mark] at h ⊢
    exact ⟨⟨h.1.first, h.1.inside, h.1.stop⟩, h.2⟩
  | remark i stop k =>
    simp only [hpc, mark] at h ⊢
    exact ⟨⟨h.1.first, h.1.inside, h.1.stop⟩, h.2⟩
  | idle | stealing | checkPending | pushEmpty | test | done =>
    simp only [hpc, mark] at h ⊢
    exact h

/-- The jobs pushed so far: the loop's have users, and not too many; the
one without users is pushed when there is no other. -/
structure Jobs (maxBatch : UInt64) (t : Tick) : Prop where
  loop : ∀ job ∈ t.pushed, job ≠ [] ∧ job.length ≤ maxBatch.toNat
  flush : t.flushed = true → t.pc = .done ∧ t.uids = []

theorem timer_jobs {maxBatch : UInt64} {order : Enumeration Uid} {pending taken : Bool} {t : Tick}
    (h : t.Jobs maxBatch) (hbatches : t.Batches maxBatch) (hsmall : t.uids.length < 2 ^ 63)
    (hpos : 0 < maxBatch.toNat) (hdone : t.pc ≠ .done) :
    (t.timer maxBatch order pending taken).Jobs maxBatch := by
  have hflush {p : Prop} (hf : t.flushed = true) : p := absurd (h.flush hf).1 hdone
  unfold timer
  cases hpc : t.pc with
  | push i stop =>
    simp only [Batches, hpc] at hbatches
    simp only
    split
    · refine ⟨fun job hjob => ?_, hflush⟩
      rcases List.mem_append.mp hjob with hjob | hjob
      · exact h.loop job hjob
      · rw [List.mem_singleton.mp hjob]
        exact job_ne_nil (t := t) hbatches.1 (hbatches.1.next hsmall hpos).2.1
    · exact ⟨h.loop, hflush⟩
  | pushEmpty =>
    simp only [Batches, hpc] at hbatches
    exact ⟨h.loop, fun _ => ⟨rfl, hbatches.2.1⟩⟩
  | stealing k =>
    simp only
    split
    · exact ⟨h.loop, hflush⟩
    · split <;> exact ⟨h.loop, hflush⟩
  | remark i stop k =>
    simp only
    split
    · split <;> exact ⟨h.loop, hflush⟩
    · exact ⟨h.loop, hflush⟩
  | checkPending | test i =>
    simp only
    split <;> exact ⟨h.loop, hflush⟩
  | idle | done => exact ⟨h.loop, hflush⟩

/-- No sum of the loop wraps, and no user is read behind the end of the
list. -/
def InBounds (maxBatch : UInt64) (t : Tick) : Prop :=
  match t.pc with
  | .test i => i.toNat < t.uids.length → i.toNat + maxBatch.toNat < 2 ^ 64
  | .push i stop =>
    i.toNat < stop.toNat ∧ stop.toNat ≤ t.uids.length ∧ i.toNat + maxBatch.toNat < 2 ^ 64
  | .remark i stop k =>
    (k < stop → k.toNat < t.uids.length) ∧ i.toNat + maxBatch.toNat < 2 ^ 64
  | _ => True

theorem Batches.inBounds {maxBatch : UInt64} {t : Tick} (h : t.Batches maxBatch)
    (hsmall : t.uids.length < 2 ^ 63) (hpos : 0 < maxBatch.toNat) : t.InBounds maxBatch := by
  have hm := maxBatch.toNat_lt
  unfold InBounds
  cases hpc : t.pc with
  | test i =>
    simp only [Batches, hpc] at h
    intro hin
    rcases h.1 with rfl | hle
    · simpa using hm
    · omega
  | push i stop =>
    simp only [Batches, hpc] at h
    obtain ⟨hadd, hlt, hstop⟩ := h.1.next hsmall hpos
    have hnext := (i + maxBatch).toNat_lt
    exact ⟨hlt, by omega, by omega⟩
  | remark i stop k =>
    simp only [Batches, hpc] at h
    obtain ⟨hadd, hlt, hstop⟩ := h.1.next hsmall hpos
    have hnext := (i + maxBatch).toNat_lt
    refine ⟨fun hk => ?_, by omega⟩
    have hk' := UInt64.lt_iff_toNat_lt.mp hk
    omega
  | idle | stealing | checkPending | pushEmpty | done => trivial

/-- In every phase the users pushed or marked again are users of the list,
and the steps are few. -/
theorem Batches.bounds {maxBatch : UInt64} {t : Tick} (h : t.Batches maxBatch) :
    (∃ n, t.Cut n) ∧ t.steps ≤ kShards + 4 + 4 * t.uids.length := by
  unfold Batches at h
  cases hpc : t.pc with
  | idle =>
    simp only [hpc] at h
    exact ⟨⟨0, by simp [Cut, h.1, h.2.1]⟩, by omega⟩
  | stealing k =>
    simp only [hpc] at h
    exact ⟨⟨0, by simp [Cut, h.1, h.2.1]⟩, by omega⟩
  | checkPending | pushEmpty =>
    simp only [hpc] at h
    exact ⟨⟨0, h.1⟩, by omega⟩
  | test i =>
    simp only [hpc] at h
    exact ⟨⟨_, h.2.1⟩, by omega⟩
  | push i stop =>
    simp only [hpc] at h
    have hin := h.1.inside
    exact ⟨⟨_, h.2.1⟩, by omega⟩
  | remark i stop k =>
    simp only [hpc] at h
    obtain ⟨hbatch, hle, hend, hcut, hsteps⟩ := h
    have hin := hbatch.inside
    have hstop := hbatch.stop
    exact ⟨⟨_, hcut⟩, by omega⟩
  | done =>
    simp only [hpc] at h
    exact ⟨⟨_, h.1⟩, h.2⟩

/-! ## Runs -/

/-- Whether the step is one of `on_timer`. -/
def ofTimer : TickAction → Bool
  | .mark _ => false
  | .timer _ _ _ => true

theorem steps_run {maxBatchUids : UInt64} {l : List (Tick × TickAction)} {t : Tick}
    (r : Run (tickSystem maxBatchUids) l t) : l.countP (fun p => ofTimer p.2) = t.steps := by
  induction r with
  | start h =>
    obtain rfl := h
    rfl
  | @step l s t a r h ih =>
    obtain ⟨-, rfl⟩ := h
    rw [List.countP_cons, ih]
    cases a with
    | mark uid => rfl
    | timer order pending taken =>
      have hsteps : (s.timer (max 1 maxBatchUids) order pending taken).steps = s.steps + 1 := by
        unfold timer
        cases s.pc with
        | stealing k =>
          simp only
          split
          · rfl
          · split <;> rfl
        | remark i stop k =>
          simp only
          split
          · split <;> rfl
          · rfl
        | checkPending | test i | push i stop =>
          simp only
          split <;> rfl
        | idle | pushEmpty | done => rfl
      exact hsteps.symm

theorem tick_inv {maxBatchUids : UInt64} {l : List (Tick × TickAction)} {t : Tick}
    (r : Run (tickSystem maxBatchUids) l t) :
    t.Marks ∧ (t.uids.length < 2 ^ 63 →
      t.Batches (max 1 maxBatchUids) ∧ t.Jobs (max 1 maxBatchUids)) := by
  have hpos : 0 < (max 1 maxBatchUids).toNat := by
    rw [uint64_max_one_toNat]
    omega
  refine r.invariant (I := fun t => t.Marks ∧ (t.uids.length < 2 ^ 63 →
    t.Batches (max 1 maxBatchUids) ∧ t.Jobs (max 1 maxBatchUids))) ?_ ?_
  · rintro t rfl
    exact ⟨marks_init, fun _ => ⟨⟨rfl, rfl, rfl⟩, by simp, by simp⟩⟩
  · rintro t a _ ⟨hmarks, hloop⟩ ⟨hguard, rfl⟩
    cases a with
    | mark uid =>
      refine ⟨hmarks.mark uid, fun hsmall => ?_⟩
      obtain ⟨hbatches, hjobs⟩ := hloop hsmall
      exact ⟨mark_batches hbatches uid, hjobs.loop, hjobs.flush⟩
    | timer order pending taken =>
      refine ⟨timer_marks hmarks, fun hsmall => ?_⟩
      have hbefore := lt_of_le_of_lt (uids_le _ order pending taken t) hsmall
      obtain ⟨hbatches, hjobs⟩ := hloop hbefore
      exact ⟨timer_batches hbatches hbefore hpos hguard,
        timer_jobs hjobs hbatches hbefore hpos hguard⟩

/-- **A tick conserves the marked users.** With fewer than `2 ^ 63` stolen
users and any batch size: no index overflows and `on_timer` ends within a
number of steps; the jobs of the loop are not empty, not too long, and
share no user with one another or with those marked again. When the tick
ends, the stolen users are those marked before their shard was visited;
each of them is in one of these jobs or marked again; and what is dirty
then are those marked again and those marked after the visit. -/
theorem tick_conserves {maxBatchUids : UInt64} {l : List (Tick × TickAction)} {t : Tick}
    (r : Run (tickSystem maxBatchUids) l t) (hfew : t.uids.length < 2 ^ 63) :
    t.InBounds (max 1 maxBatchUids) ∧
      l.countP (fun p => ofTimer p.2) ≤ kShards + 4 + 4 * t.uids.length ∧
      (∀ job ∈ t.pushed, job ≠ [] ∧ job.length ≤ max 1 maxBatchUids.toNat) ∧
      (t.flushed = true → t.uids = []) ∧
      (t.pushed.flatten ++ t.remarked).Nodup ∧
      (t.pc = .done →
        (∀ uid, uid ∈ t.uids ↔ uid ∈ t.early) ∧
          (t.pushed.flatten ++ t.remarked).Perm t.uids ∧
          ∀ uid, t.dirty.Has uid ↔ uid ∈ t.late ∨ uid ∈ t.remarked) := by
  have hpos : 0 < (max 1 maxBatchUids).toNat := by
    rw [uint64_max_one_toNat]
    omega
  obtain ⟨hmarks, hloop⟩ := tick_inv r
  obtain ⟨hbatches, hjobs⟩ := hloop hfew
  obtain ⟨⟨n, hcut⟩, hsteps⟩ := hbatches.bounds
  refine ⟨hbatches.inBounds hfew hpos, ?_, ?_, fun hf => (hjobs.flush hf).2, ?_, ?_⟩
  · rw [steps_run r]
    exact hsteps
  · intro job hjob
    rw [← uint64_max_one_toNat]
    exact hjobs.loop job hjob
  · exact hcut.nodup_iff.mpr (hmarks.nodup.sublist (List.take_sublist _ _))
  · intro hdone
    simp only [Batches, hdone] at hbatches
    have hvisited (uid : Uid) : t.Visited uid := by simp [Visited, hdone]
    refine ⟨fun uid => ?_, ?_, fun uid => ?_⟩
    · rw [hmarks.stolen]
      simp [hvisited uid]
    · have hall := hbatches.1
      rwa [Cut, List.take_length] at hall
    · rw [hmarks.hub]
      simp [hvisited uid]

/-- Three users, batches of two, the second of which is refused; user 64 is
marked while its shard has been visited already. -/
theorem tick_conserves_three :
    ∃ (l : List (Tick × TickAction)) (t : Tick), Run (tickSystem 2) l t ∧ t.pc = .done ∧
      t.pushed = [[1, 65]] ∧ t.remarked = [2] ∧ t.late = [64] ∧
      ∀ uid, t.dirty.Has uid ↔ uid ∈ t.late ∨ uid ∈ t.remarked := by
  have r : Run (tickSystem 2) [] {} := .start rfl
  have r := r.next (.mark 1) ⟨trivial, rfl⟩
  have r := (r.next (.mark 65) ⟨trivial, rfl⟩).next (.mark 2) ⟨trivial, rfl⟩
  obtain ⟨_, r⟩ := r.iterate (.timer Enumeration.increasing false true) 5 (by decide +kernel)
  have r := r.next (.mark 64) ⟨trivial, rfl⟩
  obtain ⟨_, r⟩ := r.iterate (.timer Enumeration.increasing false true) 63 (by decide +kernel)
  obtain ⟨l, r⟩ := r.iterate (.timer Enumeration.increasing false false) 5 (by decide +kernel)
  refine ⟨l, _, r, ?_, ?_, ?_, ?_, ?_⟩
  · decide +kernel
  · decide +kernel
  · decide +kernel
  · decide +kernel
  · exact ((tick_conserves r (by decide +kernel)).2.2.2.2.2 (by decide +kernel)).2.2

end Tick

end MmorpgServer.Storage
