/-
MmorpgServer.Field.AoiGeometry — how far a watcher is from what it
watches.

The tables of the index speak of sectors. With exact coordinates this
module turns what they say into distances. Every entity within the view
radius of a player is watched by it (`near_is_watched`): the sectors of
the two differ by no more than the radius, clamped or not. The other way
round the clamp shows: all that lies beyond the map edge shares the edge
sectors, so distances are bounded only with negative coordinates counted
as zero (`watched_is_near`).
-/
import MmorpgServer.Field.AoiReplica
import MmorpgServer.Lib.Cells
import Mathlib.Data.Rat.Floor

namespace MmorpgServer.Field

open MmorpgServer.Lib

/-- `AoiVec2`, with exact coordinates. -/
structure AoiVec2 where
  x : ℚ
  y : ℚ
  deriving DecidableEq, Repr

/-- The index constructed with a sector size and a view radius. -/
def exactConfig (sectorSize : ℚ) (viewRadiusSectors : Int) (order : Nat → AoiOrder) :
    AoiConfig AoiVec2 where
  cell pos :=
    let sectorSize_ := if 0 < sectorSize then sectorSize else 1
    (cell sectorSize_ pos.x, cell sectorSize_ pos.y)
  viewRadiusSectors := viewRadiusSectors
  order := order

/-- `world_to_sector` clamps the coordinates. -/
theorem worldToSector_exact {S : ℚ} (hS : 0 < S) (R : Int) (order : Nat → AoiOrder)
    (pos : AoiVec2) :
    (exactConfig S R order).worldToSector pos = ⟨cell S (max pos.x 0), cell S (max pos.y 0)⟩ := by
  simp only [AoiConfig.worldToSector, exactConfig, if_pos hS, clamp_cell hS]

theorem viewRadius_exact {R : Int} (hR : 1 ≤ R) (S : ℚ) (order : Nat → AoiOrder) :
    (exactConfig S R order).viewRadius = R := by
  have hpos : 0 < (exactConfig S R order).viewRadiusSectors := by
    show 0 < R
    omega
  rw [AoiConfig.viewRadius, if_pos hpos]
  rfl

namespace AoiWorld

variable {P : Type}

/-- Who watches the sector an entity stands in. -/
theorem mem_watchersAt_sector {cfg : AoiConfig P} {w : AoiWorld P} (hw : Inv cfg w)
    {v s : EntityId} {es : Entity P} (hs : w.entities s = some es) :
    v ∈ w.watchersAt es.sector ↔ ∃ ev, w.entities v = some ev ∧ ev.isPlayer = true ∧
      |es.sector.x - ev.sector.x| ≤ cfg.viewRadius ∧
      |es.sector.y - ev.sector.y| ≤ cfg.viewRadius := by
  have hnn := cfg.worldToSector_nonneg es.pos
  rw [← hw.sectorOk s es hs] at hnn
  rw [hw.watchersOk]
  refine exists_congr fun ev => and_congr_right fun hv => and_congr_right fun hp => ?_
  rw [hw.subscribedOk v ev hv, if_pos hp, AoiConfig.mem_viewWindow]
  exact ⟨fun h => h.2.2, fun h => ⟨hnn.1, hnn.2, h⟩⟩

/-- A broadcast about `s` reaches every watcher of the sector but `s`. -/
theorem mem_broadcast (ord : AoiOrder) {w : AoiWorld P} (hcb : w.sendCb = true)
    {c : AoiSectorCoord} {v s : EntityId} (hv : v ∈ w.watchersAt c) (hvs : v ≠ s)
    (event : AoiEvent P) : ⟨v, event⟩ ∈ broadcastToSectorWatchers ord w c event s := by
  rw [broadcast_eq ord hcb, List.mem_filterMap]
  exact ⟨v, ((ord.watchers c).mem_iff _ v).mpr hv, if_neg fun h => hvs h.2⟩

end AoiWorld

/-- **Nothing near is missed.** In every state reached with fresh adds, a
player within the view radius of an entity on both axes, wherever the two
are, watches the sector the entity stands in; so every broadcast about the
entity reaches it. -/
theorem near_is_watched (S : ℚ) (hS : 0 < S) (R : Int) (hR : 1 ≤ R) (order : Nat → AoiOrder)
    (sendCb : Bool) (l : List (AoiWorld AoiVec2 × AoiOp AoiVec2)) (w : AoiWorld AoiVec2)
    (r : Run (aoiSystem (exactConfig S R order) sendCb) l w) (v s : EntityId)
    (ev es : Entity AoiVec2) (hv : w.entities v = some ev) (hp : ev.isPlayer = true)
    (hs : w.entities s = some es) (hx : |ev.pos.x - es.pos.x| ≤ R * S)
    (hy : |ev.pos.y - es.pos.y| ≤ R * S) :
    v ∈ w.watchersAt es.sector ∧
      (w.sendCb = true → v ≠ s → ∀ (ord : AoiOrder) (event : AoiEvent AoiVec2),
        ⟨v, event⟩ ∈ AoiWorld.broadcastToSectorWatchers ord w es.sector event s) := by
  have hw := aoiSystem_inv r
  have near : ∀ a b : ℚ, |a - b| ≤ R * S → |cell S (max b 0) - cell S (max a 0)| ≤ R := by
    intro a b hab
    refine abs_cell_sub_le hS ((abs_max_sub_max_le_abs b a 0).trans ?_)
    rwa [abs_sub_comm]
  have hwatch : v ∈ w.watchersAt es.sector := by
    refine (AoiWorld.mem_watchersAt_sector hw hs).mpr ⟨ev, hv, hp, ?_⟩
    rw [hw.sectorOk v ev hv, hw.sectorOk s es hs, worldToSector_exact hS, worldToSector_exact hS,
      viewRadius_exact hR]
    exact ⟨near _ _ hx, near _ _ hy⟩
  exact ⟨hwatch, fun hcb hvs ord event => AoiWorld.mem_broadcast ord hcb hwatch hvs event⟩

/-- Sectors of 15, two around one's own in view, sorted containers. -/
def fieldGrid : AoiConfig AoiVec2 := exactConfig 15 2 gridConfig.order

/-- Player 7 and monster 9 near the map corner, and the monster fled in a
straight line past the map edge. -/
def fleeCalls : List (AoiOp AoiVec2) :=
  [.addEntity 7 true ⟨5, 5⟩, .addEntity 9 false ⟨-3, 34⟩, .moveEntity 9 ⟨-1000, 5⟩]

/-- The world after the first `n` of `fleeCalls`. -/
def fleeWorld (n : Nat) : AoiWorld AoiVec2 :=
  (fleeCalls.take n).foldl (fun w op => (w.call fieldGrid op).1) { sendCb := true }

theorem fleeWorld_run : (∃ l, Run (aoiSystem fieldGrid true) l (fleeWorld 2)) ∧
    ∃ l, Run (aoiSystem fieldGrid true) l (fleeWorld 3) := by
  have r₀ : Run (aoiSystem fieldGrid true) [] _ := .start rfl
  have r₁ := r₀.next (.addEntity 7 true ⟨5, 5⟩) ⟨rfl, rfl⟩
  have r₂ := r₁.next (.addEntity 9 false ⟨-3, 34⟩)
    ⟨show AoiWorld.entities _ 9 = none by decide +kernel, rfl⟩
  exact ⟨⟨_, r₂⟩, ⟨_, r₂.next (.moveEntity 9 ⟨-1000, 5⟩) ⟨trivial, rfl⟩⟩⟩

/-- Player 7 stays where it was added. -/
theorem fleeWorld_player {n : Nat} (h : n = 2 ∨ n = 3) :
    ∃ e, (fleeWorld n).entities 7 = some e ∧ e.isPlayer = true ∧ e.pos = ⟨5, 5⟩ := by
  have hat : ((fleeWorld n).entities 7).any (fun e => e.isPlayer && decide (e.pos = ⟨5, 5⟩)) =
      true := by
    obtain rfl | rfl := h <;> decide +kernel
  simpa [Option.any_eq_true] using hat

/-- Player 7 is told of monster 9 on the far side of the map edge. -/
theorem near_is_watched_edge : ∃ es, (fleeWorld 2).entities 9 = some es ∧ es.pos = ⟨-3, 34⟩ ∧
    7 ∈ (fleeWorld 2).watchersAt es.sector := by
  have hat : ((fleeWorld 2).entities 9).any (fun e => decide (e.pos = ⟨-3, 34⟩)) = true := by
    decide +kernel
  obtain ⟨es, hs, hpos⟩ : ∃ es, (fleeWorld 2).entities 9 = some es ∧ es.pos = ⟨-3, 34⟩ := by
    simpa [Option.any_eq_true] using hat
  obtain ⟨ev, hv, hp, hat⟩ := fleeWorld_player (n := 2) (.inl rfl)
  obtain ⟨l, r⟩ := fleeWorld_run.1
  have h := near_is_watched 15 (by norm_num) 2 (by norm_num) gridConfig.order true l _ r 7 9
    ev es hv hp hs (by rw [hat, hpos]; norm_num) (by rw [hat, hpos]; norm_num)
  exact ⟨es, hs, hpos, h.1⟩

/-- **Nothing far is broadcast**, as the clamp of `world_to_sector` has it:
in every state reached with fresh adds, who watches the sector an entity
stands in is a player less than one sector more than the view radius away
on both axes, negative coordinates counted as zero; where they are not
negative that is the distance. -/
theorem watched_is_near (S : ℚ) (hS : 0 < S) (R : Int) (hR : 1 ≤ R) (order : Nat → AoiOrder)
    (sendCb : Bool) (l : List (AoiWorld AoiVec2 × AoiOp AoiVec2)) (w : AoiWorld AoiVec2)
    (r : Run (aoiSystem (exactConfig S R order) sendCb) l w) (v s : EntityId)
    (es : Entity AoiVec2) (hs : w.entities s = some es) (hv : v ∈ w.watchersAt es.sector) :
    ∃ ev, w.entities v = some ev ∧ ev.isPlayer = true ∧
      |max ev.pos.x 0 - max es.pos.x 0| < (R + 1) * S ∧
      |max ev.pos.y 0 - max es.pos.y 0| < (R + 1) * S ∧
      (0 ≤ ev.pos.x → 0 ≤ es.pos.x → |ev.pos.x - es.pos.x| < (R + 1) * S) ∧
      (0 ≤ ev.pos.y → 0 ≤ es.pos.y → |ev.pos.y - es.pos.y| < (R + 1) * S) := by
  have hw := aoiSystem_inv r
  obtain ⟨ev, hent, hp, hx, hy⟩ := (AoiWorld.mem_watchersAt_sector hw hs).mp hv
  rw [hw.sectorOk v ev hent, hw.sectorOk s es hs, worldToSector_exact hS, worldToSector_exact hS,
    viewRadius_exact hR, abs_sub_comm] at hx hy
  have hfarx := abs_sub_lt hS hx
  have hfary := abs_sub_lt hS hy
  refine ⟨ev, hent, hp, hfarx, hfary, fun h h' => ?_, fun h h' => ?_⟩
  · rwa [max_eq_left h, max_eq_left h'] at hfarx
  · rwa [max_eq_left h, max_eq_left h'] at hfary

/-- Monster 9 of `fleeWorld 3` stands where player 7 looks. -/
theorem fleeWorld_monster : ∃ es, (fleeWorld 3).entities 9 = some es ∧ es.pos = ⟨-1000, 5⟩ ∧
    7 ∈ (fleeWorld 3).watchersAt es.sector := by
  have hat : ((fleeWorld 3).entities 9).any (fun e => decide (e.pos = ⟨-1000, 5⟩ ∧
      7 ∈ (fleeWorld 3).watchersAt e.sector)) = true := by
    decide +kernel
  simpa [Option.any_eq_true] using hat

/-- With the monster's coordinate counted as zero the two are near. -/
theorem watched_is_near_edge : ∃ ev, (fleeWorld 3).entities 7 = some ev ∧
    |max ev.pos.x 0 - max (-1000) 0| < (2 + 1) * 15 := by
  obtain ⟨es, hs, hpos, hwatch⟩ := fleeWorld_monster
  obtain ⟨l, r⟩ := fleeWorld_run.2
  obtain ⟨ev, hent, -, hx, -⟩ := watched_is_near 15 (by norm_num) 2 (by norm_num)
    gridConfig.order true l _ r 7 9 es hs hwatch
  rw [hpos] at hx
  exact ⟨ev, hent, by exact_mod_cast hx⟩

/-- Monster 9 has fled a thousand away, and player 7 still watches the
sector it stands in. -/
theorem far_is_watched : (∃ l, Run (aoiSystem fieldGrid true) l (fleeWorld 3)) ∧
    ∃ ev es, (fleeWorld 3).entities 7 = some ev ∧ ev.isPlayer = true ∧
      (fleeWorld 3).entities 9 = some es ∧ 7 ∈ (fleeWorld 3).watchersAt es.sector ∧
      ¬ |ev.pos.x - es.pos.x| < (2 + 1) * 15 := by
  obtain ⟨ev, hv, hp, hat⟩ := fleeWorld_player (n := 3) (.inr rfl)
  obtain ⟨es, hs, hpos, hwatch⟩ := fleeWorld_monster
  refine ⟨fleeWorld_run.2, ev, es, hv, hp, hs, hwatch, ?_⟩
  rw [hat, hpos]
  norm_num

end MmorpgServer.Field
