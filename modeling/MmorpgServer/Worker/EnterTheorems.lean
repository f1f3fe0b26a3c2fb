/-
MmorpgServer.Worker.EnterTheorems — what a `FieldCmd` says an entity is.

Two senders tell a client about an entity: the callback of the index,
which takes every id from 1000 on for a monster's, and `send_field_enter`,
which is told by its callers which table the entity is in. Both look up
the prefab by what they take it for.

* `step_tags` — the monsters of a field keep their ids and prefabs.
* `bothTell_player_iff`, `bothTell_monster_iff` — for one entity of one
  field worker.
* `enter_encoders_agree_iff` — in every state of every run.
-/
import MmorpgServer.Worker.MonsterLifeTheorems
import MmorpgServer.Worker.ClientViewTheorems

namespace MmorpgServer.Worker

open MmorpgServer.Lib MmorpgServer.Field Scalar

variable {K : Type}

/-! ## Two senders -/

/-- What a packet says an entity is: its type and its prefab. -/
def Packet.entity : Packet K → Option (EntityType × String)
  | .fieldCmd _ entityType _ _ prefabName => some (entityType, prefabName)
  | _ => none

namespace FieldWorker

/-- Every event about a subject, and every direct call about it, sends one
packet to a watcher, and the packet says what the subject is. -/
structure BothTell (fw : FieldWorker K) (w subject : EntityId) (isMonster : Bool)
    (entity : EntityType × String) : Prop where
  event : ∀ ev : AoiEvent (Vec2 K), ev.subjectId = subject →
    ∃ packet, fw.aoiSend ⟨w, ev⟩ = [.send w packet] ∧ packet.entity = some entity
  direct : ∀ pos, ∃ packet,
    fw.sendFieldEnter w subject isMonster pos = fw.emit [.send w packet] ∧
      packet.entity = some entity

/-- What both senders make of a subject they take for a monster or not. -/
theorem entity_fieldCmd (fw : FieldWorker K) (type : FieldCmdType) (subject : EntityId)
    (isMonster : Bool) (pos : Vec2 K) :
    (fw.fieldCmd type subject isMonster pos).entity =
      some (if isMonster then .monster else .player,
        if fw.getPrefabName subject isMonster = "" then "Default"
        else fw.getPrefabName subject isMonster) := rfl

/-- They tell the same if the id says what the caller knows. -/
theorem bothTell_iff {fw : FieldWorker K} {w : EntityId} (hw : fw.sessions w = true)
    (subject : EntityId) (isMonster : Bool) {prefabName : String}
    (hname : fw.getPrefabName subject isMonster = prefabName) (hne : prefabName ≠ "") :
    fw.BothTell w subject isMonster (if isMonster then .monster else .player, prefabName) ↔
      isMonsterId subject = isMonster := by
  have hentity : ∀ type pos, (fw.fieldCmd type subject isMonster pos).entity =
      some (if isMonster then .monster else .player, prefabName) := by
    intro type pos
    rw [entity_fieldCmd, hname, if_neg hne]
  constructor
  · rintro ⟨hevent, -⟩
    obtain ⟨packet, hsend, hpacket⟩ := hevent ⟨.enter, subject, (fw.player w).pos⟩ rfl
    unfold aoiSend at hsend
    rw [if_pos hw] at hsend
    obtain ⟨-, rfl⟩ := Effect.send.inj (List.cons.inj hsend).1
    rw [entity_fieldCmd, Option.some_inj, Prod.mk.injEq] at hpacket
    revert hpacket
    cases isMonsterId subject <;> cases isMonster <;> simp
  · intro hid
    refine ⟨?_, fun pos => ⟨fw.fieldCmd .enter subject isMonster pos, ?_, hentity _ _⟩⟩
    · rintro ev rfl
      refine ⟨_, if_pos hw, ?_⟩
      rw [hid]
      exact hentity _ _
    · unfold sendFieldEnter
      rw [sendTo_eq, if_pos hw]

/-- A player. -/
theorem bothTell_player_iff {fw : FieldWorker K} {w p : EntityId} (hw : fw.sessions w = true)
    (hp : p ∈ fw.players) : fw.BothTell w p false (.player, "Paladin") ↔ p < 1000 := by
  have hname : fw.getPrefabName p false = "Paladin" := by
    unfold getPrefabName
    rw [if_neg Bool.false_ne_true, if_pos hp]
  refine (bothTell_iff hw p false hname (by decide)).trans ?_
  rw [isMonsterId, decide_eq_false_iff_not, not_le]

/-- A monster is found by its id. -/
theorem find_monster {ms : List (Monster K)} (hids : (ms.map Monster.id).Nodup) {m : Monster K}
    (hm : m ∈ ms) : ms.find? (fun m' => m'.id = m.id) = some m := by
  cases hfind : ms.find? fun m' => m'.id = m.id with
  | none => exact absurd (by simp) (List.find?_eq_none.mp hfind m hm)
  | some m' =>
    have hid : m'.id = m.id := by simpa using List.find?_some hfind
    rw [List.inj_on_of_nodup_map hids (List.mem_of_find?_eq_some hfind) hm hid]

/-- A monster, if its id is its own. -/
theorem bothTell_monster_iff {fw : FieldWorker K} {w : EntityId} {m : Monster K}
    (hw : fw.sessions w = true) (hids : fw.monsterIds.Nodup) (hm : m ∈ fw.monsterWorld.monsters)
    (hne : m.prefabName ≠ "") :
    fw.BothTell w m.id true (.monster, m.prefabName) ↔ 1000 ≤ m.id := by
  have hname : fw.getPrefabName m.id true = m.prefabName := by
    unfold getPrefabName
    rw [if_pos rfl, find_monster hids hm]
  refine (bothTell_iff hw m.id true hname hne).trans ?_
  rw [isMonsterId, decide_eq_true_iff]

end FieldWorker

/-! ## Ids and prefabs -/

variable [Scalar K]

namespace FieldWorker

/-- The ids and prefabs of a field's monsters. -/
def tags (fw : FieldWorker K) : List (EntityId × String) :=
  fw.monsterWorld.monsters.map Monster.tag

/-- Whatever else is done to a field worker keeps them. -/
theorem stable_tags (cfg : FieldConfig K) (names : List (EntityId × String)) :
    Stable cfg fun fw => fw.tags = names := by
  refine ⟨fun _ _ _ h => h, fun _ _ _ _ h => h, fun fw pid st h => ?_,
    fun fw source pid h => ?_, fun _ _ _ h => h⟩
  · rw [broadcastPlayerState, broadcastAiState, broadcast_eq]
    exact h
  · unfold writePlayerRtEnqueue
    split <;> exact h

theorem handleSkill_tags (cfg : FieldConfig K) (fw : FieldWorker K) (session : Option EntityId)
    (targetId : EntityId) : (fw.handleSkill cfg session targetId).tags = fw.tags := by
  cases session with
  | none => rfl
  | some pid =>
    have hsent : (fw.broadcastPlayerState pid .attack).tags = fw.tags :=
      (stable_tags cfg fw.tags).broadcastPlayerState fw pid .attack rfl
    have hattack := (MonsterWorld.playerAttackMonster_tags (env cfg) targetId
      (fw.broadcastPlayerState pid .attack).monsterWorld.monsters
      (fw.broadcastPlayerState pid .attack)).trans hsent
    unfold handleSkill
    simp only
    split
    · rw [broadcastAiState, broadcast_eq]
      exact hattack
    · exact hattack

/-- **A step changes no id and no prefab.** -/
theorem step_tags (cfg : FieldConfig K) (fw : FieldWorker K) (a : FieldAction K) :
    (fw.step cfg a).tags = fw.tags := by
  have hstable := stable_tags cfg fw.tags
  cases a with
  | addPlayer pid p =>
    obtain ⟨es, hadd, -⟩ := addPlayer_sends cfg fw pid p
    rw [step, hadd]
    rfl
  | removePlayer pid => rfl
  | moveInput session entityId dir => exact hstable.onClientMoveInput session entityId dir rfl
  | skill session targetId => exact handleSkill_tags cfg fw session targetId
  | updateWorld policy dt =>
    refine hstable.updateWorld policy (fun fw' h => ?_) dt rfl
    exact (MonsterWorld.update_tags (env cfg) policy monsterStep fw'.monsterWorld fw').trans h
  | setSession pid online => rfl
  | setRegistered pid registered => rfl

/-- The monsters spawned are those that are there. -/
theorem foldl_spawn_tags (cfg : FieldConfig K) (spawns : List (MonsterSpawn K))
    (fw : FieldWorker K) :
    (spawns.foldl (spawn cfg) fw).tags =
      fw.tags ++ spawns.map fun sp => (sp.id, sp.prefabName) := by
  induction spawns generalizing fw with
  | nil => simp
  | cons sp spawns ih =>
    have hspawn : (fw.spawn cfg sp).tags = fw.tags ++ [(sp.id, sp.prefabName)] := by
      simp [tags, spawn, aoiAdd, aoiCall, MonsterWorld.createMonster, Monster.tag]
    rw [List.foldl_cons, ih, hspawn]
    simp

theorem construct_tags (cfg : FieldConfig K) (player : EntityId → Player K) (redisRtWriter : Bool)
    (spawns : List (MonsterSpawn K)) :
    (construct cfg player redisRtWriter spawns).tags =
      spawns.map fun sp => (sp.id, sp.prefabName) :=
  foldl_spawn_tags cfg spawns _

end FieldWorker

/-! ## Runs -/

/-- What `FieldWorker`'s constructor spawns in a field. -/
def spawnsOf (fieldId : Int32) (makeDatabaseID : Nat → EntityId) :
    List (FieldWorker.MonsterSpawn K) :=
  if fieldId = 1000 then FieldWorker.spawnMonstersEvenGrid makeDatabaseID else []

/-- A field worker from its construction on, whatever the ids of its
players are. -/
def workerSystem (cfg : FieldConfig K) (redisRtWriter : Bool) (fieldId : Int32)
    (makeDatabaseID : Nat → EntityId) : System (FieldWorker K) (FieldAction K) where
  init fw := ∃ player, fw = .construct cfg player redisRtWriter (spawnsOf fieldId makeDatabaseID)
  step fw a fw' := fw' = fw.step cfg a

namespace FieldWorker

/-- Ids of their own, and prefabs with a name. -/
structure WellTagged (fw : FieldWorker K) : Prop where
  ids : fw.monsterIds.Nodup
  prefabs : ∀ m ∈ fw.monsterWorld.monsters, m.prefabName ≠ ""

omit [Scalar K] in
theorem wellTagged_of_tags {fw : FieldWorker K} {spawns : List (MonsterSpawn K)}
    (h : fw.tags = spawns.map fun sp => (sp.id, sp.prefabName))
    (hids : (spawns.map MonsterSpawn.id).Nodup) (hprefabs : ∀ sp ∈ spawns, sp.prefabName ≠ "") :
    fw.WellTagged := by
  constructor
  · have hmap : fw.monsterIds = fw.tags.map Prod.fst := by
      simp [monsterIds, tags, Monster.tag]
    rw [hmap, h, List.map_map]
    exact hids
  · intro m hm
    have htag : m.tag ∈ fw.tags := List.mem_map_of_mem hm
    rw [h, List.mem_map] at htag
    obtain ⟨sp, hsp, heq⟩ := htag
    have hname : sp.prefabName = m.prefabName := congrArg Prod.snd heq
    rw [← hname]
    exact hprefabs sp hsp

/-- The templates of `SpawnMonstersEvenGrid` have names. -/
theorem spawnsOf_prefabName (fieldId : Int32) (makeDatabaseID : Nat → EntityId) :
    ∀ sp ∈ (spawnsOf fieldId makeDatabaseID : List (MonsterSpawn K)), sp.prefabName ≠ "" := by
  have hnames : ∀ i < 9, ["BowAndArrow1", "BowAndArrow2", "BowAndArrow3", "DoubleSwords1",
      "DoubleSwords2", "DoubleSwords3", "MagicWand1", "MagicWand2", "MagicWand3"].getD i "" ≠ "" := by
    decide
  intro sp hsp
  unfold spawnsOf at hsp
  split at hsp
  · unfold spawnMonstersEvenGrid at hsp
    obtain ⟨i, -, rfl⟩ := List.mem_map.mp hsp
    exact hnames (i % 9) (Nat.mod_lt i (by decide))
  · cases hsp

theorem spawnsOf_ids (fieldId : Int32) {makeDatabaseID : Nat → EntityId}
    (hids : Function.Injective makeDatabaseID) :
    ((spawnsOf fieldId makeDatabaseID : List (MonsterSpawn K)).map MonsterSpawn.id).Nodup := by
  unfold spawnsOf
  split
  · unfold spawnMonstersEvenGrid
    rw [List.map_map]
    exact List.nodup_range.map hids
  · exact List.nodup_nil

theorem run_wellTagged {cfg : FieldConfig K} {redisRtWriter : Bool} {fieldId : Int32}
    {makeDatabaseID : Nat → EntityId} (hids : Function.Injective makeDatabaseID)
    {l : List (FieldWorker K × FieldAction K)} {t : FieldWorker K}
    (r : Run (workerSystem cfg redisRtWriter fieldId makeDatabaseID) l t) : t.WellTagged := by
  refine wellTagged_of_tags ?_ (spawnsOf_ids fieldId hids) (spawnsOf_prefabName fieldId _)
  refine r.invariant (I := fun t => t.tags = (spawnsOf fieldId makeDatabaseID).map
    fun sp : MonsterSpawn K => (sp.id, sp.prefabName)) ?_ ?_
  · rintro t ⟨player, rfl⟩
    exact construct_tags cfg player redisRtWriter _
  · rintro t a t' h rfl
    exact (step_tags cfg t a).trans h

end FieldWorker

/-- **The two encoders.** In every state of every run, and for every
watcher that has a session: an event and a direct call say the same of a
player, `Paladin`, exactly if its id is below 1000, and the same of a
monster, its prefab, exactly if its id is not. -/
theorem enter_encoders_agree_iff {cfg : FieldConfig K} {redisRtWriter : Bool} {fieldId : Int32}
    {makeDatabaseID : Nat → EntityId} (hids : Function.Injective makeDatabaseID)
    {l : List (FieldWorker K × FieldAction K)} {t : FieldWorker K}
    (r : Run (workerSystem cfg redisRtWriter fieldId makeDatabaseID) l t) {w : EntityId}
    (hw : t.sessions w = true) :
    (∀ p ∈ t.players, t.BothTell w p false (.player, "Paladin") ↔ p < 1000) ∧
      ∀ m ∈ t.monsterWorld.monsters, t.BothTell w m.id true (.monster, m.prefabName) ↔
        1000 ≤ m.id := by
  have htagged := FieldWorker.run_wellTagged hids r
  exact ⟨fun p hp => FieldWorker.bothTell_player_iff hw hp,
    fun m hm => FieldWorker.bothTell_monster_iff hw htagged.ids hm (htagged.prefabs m hm)⟩

/-- Player 1, with a session, in a field without monsters. -/
def firstLogin : FieldWorker ℚ :=
  ((FieldWorker.construct sortedConfig (fun _ => newPlayer 0 0) false
    (spawnsOf 1 fun n => 1000 + n)).step sortedConfig (.setSession 1 true)).step sortedConfig
    (.addPlayer 1 (newPlayer 0 0))

theorem run_firstLogin :
    ∃ l, Run (workerSystem sortedConfig false 1 fun n => 1000 + n) l firstLogin := by
  have h0 : Run (workerSystem sortedConfig false 1 fun n => 1000 + n) []
      (FieldWorker.construct sortedConfig (fun _ => newPlayer 0 0) false
        (spawnsOf 1 fun n => 1000 + n)) := .start ⟨_, rfl⟩
  exact ⟨_, (h0.next (.setSession 1 true) rfl).next (.addPlayer 1 (newPlayer 0 0)) rfl⟩

/-- Player 1 is told about as a player. -/
theorem firstLogin_agrees : firstLogin.BothTell 1 1 false (.player, "Paladin") := by
  obtain ⟨l, r⟩ := run_firstLogin
  have hids : Function.Injective fun n : Nat => 1000 + n := fun _ _ h => Nat.add_left_cancel h
  exact ((enter_encoders_agree_iff hids r (w := 1) (by decide +kernel)).1 1 (by decide +kernel)).mpr
    (by decide)

/-- **The player with the id 1000** is a monster for the index and a player
for `send_field_enter`: player 1 is told both when it enters. -/
theorem thousandth_login_differs : ∃ l t,
    Run (workerSystem sortedConfig false 1 fun n => 1000 + n) l t ∧
    1000 ∈ t.players ∧ t.sessions 1 = true ∧
    .send 1 (.fieldCmd .enter .monster 1000 ⟨1, 1⟩ "Default") ∈ t.log ∧
    .send 1 (.fieldCmd .enter .player 1000 ⟨1, 1⟩ "Paladin") ∈ t.log := by
  obtain ⟨l, r⟩ := run_firstLogin
  refine ⟨_, _, r.next (.addPlayer 1000 (newPlayer 1 1)) rfl, ?_, ?_, ?_, ?_⟩ <;> decide +kernel

end MmorpgServer.Worker
