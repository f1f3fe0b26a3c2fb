/-
MmorpgServer.Worker.MonsterLifeTheorems — monsters of a field worker stay
consistent for life.

`lifeSystem` is a field worker whose monsters are attacked and ticked in
any order, while everything the monsters read of their surroundings —
players, their positions and stats, sessions — and their respawn delays
change at will. The life cycle of `Field.MonsterTheorems`, at the field
worker's environment, holds in every state reached.
-/
import MmorpgServer.Worker.FieldWorkerTheorems

namespace MmorpgServer.Worker

open MmorpgServer.Lib MmorpgServer.Field MmorpgServer.Storage Scalar

variable {K : Type} [Scalar K]

namespace FieldWorker

/-! ## Construction -/

/-- The index has nothing but the monsters, and they are consistent. -/
structure Populated (cfg : FieldConfig K) (fw : FieldWorker K) : Prop extends fw.Spawned cfg where
  consistent : fw.monsterWorld.AllConsistent (aoiPlace fw.aoiSystem.aoi)

theorem spawn_populated (cfg : FieldConfig K) {fw : FieldWorker K} (h : fw.Populated cfg)
    {sp : MonsterSpawn K} (hnew : sp.id ∉ fw.monsterIds) (hhp : 0 < sp.hp) (hle : sp.hp ≤ sp.maxHp) :
    (fw.spawn cfg sp).Populated cfg := by
  refine ⟨spawn_spawned cfg h.toSpawned hnew, ?_, ?_⟩
  · show (fw.spawn cfg sp).monsterIds.Nodup
    rw [spawn_monsterIds, List.nodup_append]
    exact ⟨h.consistent.nodup, List.nodup_singleton _, fun a ha b hb => by
      rintro rfl
      exact hnew (List.mem_singleton.mp hb ▸ ha)⟩
  · intro m hm
    rw [spawn_place]
    rcases List.mem_append.mp (show m ∈ fw.monsterWorld.monsters ++ _ from hm) with hm | hm
    · have hne : m.id ≠ sp.id := fun e => hnew (e ▸ List.mem_map_of_mem hm)
      rw [Function.update_of_ne hne]
      exact h.consistent.life m hm
    · obtain rfl := List.mem_singleton.mp hm
      exact .alive hhp hle (Function.update_self _ _ _) (by simp) rfl

/-- A constructed field worker is consistent. -/
theorem construct_populated (cfg : FieldConfig K) (player : EntityId → Player K)
    (redisRtWriter : Bool) {spawns : List (MonsterSpawn K)}
    (hnd : (spawns.map MonsterSpawn.id).Nodup)
    (hhp : ∀ sp ∈ spawns, 0 < sp.hp ∧ sp.hp ≤ sp.maxHp) :
    (construct cfg player redisRtWriter spawns).Populated cfg := by
  have h := foldl_spawn cfg (I := Populated cfg)
    (fun fw sp hsp hnew h => spawn_populated cfg h hnew (hhp sp hsp).1 (hhp sp hsp).2)
    ⟨start_spawned cfg player redisRtWriter (lit 0) (lit 0) (lit 0), ⟨List.nodup_nil, by simp⟩⟩ hnd
  exact ⟨construct_spawned cfg player redisRtWriter hnd, h.consistent⟩

end FieldWorker

/-! ## Runs -/

/-- What happens to the monsters and around them. -/
inductive LifeAction (K : Type) where
  | attack (pid mid : EntityId)
  | update (policy : List K → Fin 5 → K) (dt : K)
  | setRespawnDelay (mid : EntityId) (delay : K)
  | setPlayers (players : Finset EntityId) (player : EntityId → Player K)
      (registered sessions : EntityId → Bool)

namespace FieldWorker

/-- `player_attack_monster` at the worker's environment. -/
def attackMonster (cfg : FieldConfig K) (fw : FieldWorker K) (mid : EntityId) : FieldWorker K :=
  let r := MonsterWorld.playerAttackMonster (env cfg) mid fw.monsterWorld.monsters fw
  { r.2.1 with monsterWorld := ⟨r.1⟩ }

def lifeStep (cfg : FieldConfig K) (fw : FieldWorker K) : LifeAction K → FieldWorker K
  | .attack _ mid => fw.attackMonster cfg mid
  | .update policy dt => fw.tickMonsters cfg policy dt
  | .setRespawnDelay mid delay =>
    { fw with monsterWorld := ⟨fw.monsterWorld.monsters.map fun m =>
        if m.id = mid then { m with spawnInfo := { m.spawnInfo with respawnDelay := delay } }
        else m⟩ }
  | .setPlayers players player registered sessions =>
    { fw with players, player, registered, sessions, playersChanges := fw.playersChanges + 1 }

end FieldWorker

/-- Monsters made by `create_monster`, with different ids and some hp, and
added where they were spawned; then anything. -/
def lifeSystem (cfg : FieldConfig K) : System (FieldWorker K) (LifeAction K) where
  init fw := ∃ player redisRtWriter spawns, (spawns.map FieldWorker.MonsterSpawn.id).Nodup ∧
    (∀ sp ∈ spawns, 0 < sp.hp ∧ sp.hp ≤ sp.maxHp) ∧
    fw = FieldWorker.construct cfg player redisRtWriter spawns
  step fw a fw' := fw' = fw.lifeStep cfg a

/-- The monsters that the field spawns itself are such monsters, as long as
`MakeDatabaseID` does not repeat itself. -/
theorem FieldWorker.spawnMonstersEvenGrid_init (cfg : FieldConfig K)
    (player : EntityId → Player K) (redisRtWriter : Bool) {makeDatabaseID : Nat → EntityId}
    (hid : Function.Injective makeDatabaseID) :
    (lifeSystem cfg).init
      (construct cfg player redisRtWriter (spawnMonstersEvenGrid makeDatabaseID)) := by
  refine ⟨player, redisRtWriter, _, ?_, ?_, rfl⟩
  · have hids : (spawnMonstersEvenGrid (K := K) makeDatabaseID).map MonsterSpawn.id =
        (List.range 300).map makeDatabaseID := by
      simp only [spawnMonstersEvenGrid, List.map_map]
      rfl
    rw [hids]
    exact List.nodup_range.map hid
  · intro sp hsp
    obtain ⟨i, -, rfl⟩ := List.mem_map.mp hsp
    simp

/-- The index and the monsters are consistent. -/
structure FieldWorker.LifeInv (cfg : FieldConfig K) (fw : FieldWorker K) : Prop where
  inv : fw.aoiSystem.aoi.Inv cfg.aoi
  consistent : fw.monsterWorld.AllConsistent (FieldWorker.aoiPlace fw.aoiSystem.aoi)

omit [Scalar K] in
/-- A new respawn delay is no matter of life and death. -/
theorem lifeCycle_setRespawnDelay {place : Option (CTransform K)} {m : Monster K}
    (h : LifeCycle place m) (delay : K) :
    LifeCycle place { m with spawnInfo := { m.spawnInfo with respawnDelay := delay } } := by
  cases h with
  | alive hp le place state pending => exact .alive hp le place state pending
  | dead hp max place state pending => exact .dead hp max place state pending

theorem FieldWorker.lifeStep_lifeInv (cfg : FieldConfig K) {fw : FieldWorker K}
    (h : fw.LifeInv cfg) (a : LifeAction K) : (fw.lifeStep cfg a).LifeInv cfg := by
  have henv := env_places cfg
  cases a with
  | attack pid mid =>
    obtain ⟨hlife, -⟩ := MonsterWorld.playerAttackMonster_allConsistent henv mid h.inv h.consistent
    exact ⟨henv.toKeeps.playerAttackMonster mid _ (fun _ _ => trivial) h.inv, hlife⟩
  | update policy dt =>
    obtain ⟨hinv, hlife⟩ := MonsterWorld.update_allConsistent henv policy dt h.inv h.consistent
    exact ⟨hinv, hlife⟩
  | setRespawnDelay mid delay =>
    refine ⟨h.inv, ?_, ?_⟩
    · show ((fw.monsterWorld.monsters.map _).map Monster.id).Nodup
      rw [List.map_map]
      convert h.consistent.nodup using 2
      funext m
      simp only [Function.comp]
      split <;> rfl
    · intro m' hm'
      obtain ⟨m, hm, rfl⟩ := List.mem_map.mp hm'
      have hlife := h.consistent.life m hm
      split
      · exact lifeCycle_setRespawnDelay hlife delay
      · exact hlife
  | setPlayers players player registered sessions => exact ⟨h.inv, h.consistent⟩

theorem lifeSystem_lifeInv {cfg : FieldConfig K} {l : List (FieldWorker K × LifeAction K)}
    {fw : FieldWorker K} (r : Run (lifeSystem cfg) l fw) : fw.LifeInv cfg := by
  refine r.invariant ?_ ?_
  · rintro fw ⟨player, writer, spawns, hnd, hhp, rfl⟩
    have h := FieldWorker.construct_populated cfg player writer hnd hhp
    exact ⟨h.inv, h.consistent⟩
  · rintro fw a fw' h rfl
    exact FieldWorker.lifeStep_lifeInv cfg h a

/-- **The life cycle of a monster.** However attacks and ticks follow one
another, whatever the respawn delays, the players and the policy: every
monster has between none and all of its hp; it has some exactly while the
index has it, while its AI is not dead and while it waits for no respawn;
and the index has it where it stands. -/
theorem monster_life_cycle (cfg : FieldConfig K) (l : List (FieldWorker K × LifeAction K))
    (fw : FieldWorker K) (r : Run (lifeSystem cfg) l fw) :
    ∀ m ∈ fw.monsterWorld.monsters,
      (0 ≤ m.stats.hp ∧ m.stats.hp ≤ m.stats.maxHp) ∧
      (0 < m.stats.hp ↔ fw.aoiSystem.aoi.entities m.id ≠ none) ∧
      (0 < m.stats.hp ↔ m.ai.state ≠ .dead) ∧
      (0 < m.stats.hp ↔ m.spawnInfo.pendingRespawn = false) ∧
      (∀ e, fw.aoiSystem.aoi.entities m.id = some e →
        e.pos = ⟨m.transform.x, m.transform.y⟩) := by
  intro m hm
  have hlife := (lifeSystem_lifeInv r).consistent.life m hm
  cases hlife with
  | alive hp le place state pending =>
    obtain ⟨e, he, hpos⟩ := Option.map_eq_some_iff.mp place
    refine ⟨⟨by omega, le⟩, ?_, ?_, ?_, ?_⟩
    · simp [hp, he]
    · simp [hp, state]
    · simp [hp, pending]
    · intro e' he'
      obtain rfl := Option.some.inj (he.symm.trans he')
      rw [← hpos]
  | dead hp max place state pending =>
    have hnone : fw.aoiSystem.aoi.entities m.id = none := Option.map_eq_none_iff.mp place
    refine ⟨by omega, ?_, ?_, ?_, ?_⟩
    · simp [hp, hnone]
    · simp [hp, state]
    · simp [hp, pending]
    · intro e he
      rw [hnone] at he
      cases he

/-! ## A death and a respawn -/

/-- Sorted containers. -/
def sortedConfig : FieldConfig ℚ where
  floor q := q.floor
  aoiOrder _ :=
    { entities := fun _ => .increasing
      watchers := fun _ => .increasing
      subscribed := .byKey AoiSectorCoord.key AoiSectorCoord.key_injective
      newSet := .byKey AoiSectorCoord.key AoiSectorCoord.key_injective }
  playerOrder _ := .increasing

/-- A player as the game worker puts it into a field. -/
def newPlayer (x y : ℚ) : Player ℚ where
  pos := ⟨x, y⟩
  moveState := { dir := ⟨0, 0⟩, moving := false, speed := 5, lastInputTime := 0 }
  stat := {}
  lastDirtyMarkTime := 0

/-- An archer on its last ten hp. -/
def weakArcher : FieldWorker.MonsterSpawn ℚ where
  id := 1000
  x := 30
  y := 30
  prefabName := "BowAndArrow1"
  monsterType := 1
  maxHp := 200
  hp := 10
  maxSp := 100
  sp := 100
  atk := 7
  «def» := 3

/-- The archer is hit; it is dead and out of the index. Half a second
later it respawns, and is back in the index. -/
theorem monster_life_cycle_hit :
    let fw := FieldWorker.construct sortedConfig (fun _ => newPlayer 0 0) true [weakArcher]
    let hit := fw.lifeStep sortedConfig (.attack 1 1000)
    let respawned := (hit.lifeStep sortedConfig (.setRespawnDelay 1000 (1 / 2))).lifeStep
      sortedConfig (.update (fun _ _ => 0) (1 / 2))
    (∃ m ∈ hit.monsterWorld.monsters, hit.aoiSystem.aoi.entities m.id = none) ∧
      ∃ m ∈ respawned.monsterWorld.monsters, respawned.aoiSystem.aoi.entities m.id ≠ none := by
  intro fw hit respawned
  have r₀ : Run (lifeSystem sortedConfig) [] fw :=
    .start ⟨_, _, [weakArcher], by decide, by decide, rfl⟩
  have r₁ : Run (lifeSystem sortedConfig) _ hit := r₀.next (.attack 1 1000) rfl
  have r₂ : Run (lifeSystem sortedConfig) _ respawned :=
    (r₁.next (.setRespawnDelay 1000 (1 / 2)) rfl).next (.update (fun _ _ => 0) (1 / 2)) rfl
  constructor
  · obtain ⟨m, hm, hhp⟩ : ∃ m ∈ hit.monsterWorld.monsters, m.stats.hp = 0 := by decide +kernel
    refine ⟨m, hm, ?_⟩
    have h := (monster_life_cycle sortedConfig _ hit r₁ m hm).2.1
    simpa [hhp] using h
  · obtain ⟨m, hm, hhp⟩ : ∃ m ∈ respawned.monsterWorld.monsters, m.stats.hp = 200 := by
      decide +kernel
    refine ⟨m, hm, ?_⟩
    have h := (monster_life_cycle sortedConfig _ respawned r₂ m hm).2.1
    simpa [hhp] using h

end MmorpgServer.Worker
