/-
MmorpgServer.Worker.WorldTheorems — the monsters of a field worker are a
`MonsterWorld` as `worldSystem` has it.

What is proved over `worldSystem` holds for any environment. Here the
environment is the one of `init_monster_env`, and the state behind it is
the field worker itself: every step of a field worker is a path of
`worldSystem`, in which the monsters are ticked and attacked as
`update_world` and `handle_skill` do, and everything else happens to the
state behind the environment.

* `Aside` — what a field worker does besides.
* `Leads` — a path that does what an action asks for.
* `step_leads`, `field_runs_are_world_runs` — of every step and of every
  run.
* `monsters_keep_pace` — so a monster in a field comes no further than
  time and its speed allow.
-/
import MmorpgServer.Field.MonsterSpeedTheorems
import MmorpgServer.Lib.Refinement
import MmorpgServer.Worker.EnterTheorems
import MmorpgServer.Worker.SpeedTheorems

namespace MmorpgServer.Field

theorem WorldState.step_skill {K σ : Type} [Lib.Scalar K] (env : MonsterEnvironment K σ)
    (st : WorldState K σ) (mid : Nat) :
    st.step env (.skill mid) =
      let r := MonsterWorld.playerAttackMonster env mid st.world.monsters st.outside
      ⟨⟨r.1⟩, if r.2.2 then env.broadcastAiState r.2.1 mid .dead else r.2.1⟩ := by
  unfold step attack
  simp only
  split <;> rfl

/-- How far a monster comes on a path, if no respawn delay is ever set. -/
theorem worldSystem_path_reach {K σ : Type} [Lib.ExactScalar K] [Lib.ExactRoots K]
    {env : MonsterEnvironment K σ} {R : σ → σ → Prop}
    {l₁ l₂ : List (WorldState K σ × WorldAction K σ)} {st₀ st : WorldState K σ}
    (r : Lib.Run (worldSystem env R) l₁ st₀) (path : Lib.Path (worldSystem env R) st₀ l₂ st)
    (hdt : ∀ q ∈ l₂, 0 ≤ q.2.duration)
    (hnever : ∀ q ∈ l₂.reverse ++ l₁, ∀ mid delay, q.2 ≠ .setRespawnDelay mid delay)
    {m₀ : Monster K} (hm₀ : m₀ ∈ st₀.world.monsters) :
    ∀ m ∈ st.world.monsters, m.id = m₀.id →
      Lib.Reach (6 * simTime l₂) (m.transform.x - m₀.transform.x)
        (m.transform.y - m₀.transform.y) := by
  cases l₂ with
  | nil =>
    obtain rfl : st = st₀ := path.eq_of_nil
    intro m hm hid
    obtain rfl : m = m₀ := List.inj_on_of_nodup_map (worldSystem_ids r) hm hm₀ hid
    rw [sub_self, sub_self, simTime, Lib.elapsed_nil, mul_zero]
    exact Lib.Reach.zero
  | cons q rest =>
    obtain ⟨st₁, b⟩ := q
    obtain rfl : st₁ = st₀ := path.uncons.1
    have r₂ := path.run r
    have hrespawn := worldSystem_respawns_not r₂ hnever m₀.id
    rw [List.reverse_cons] at r₂ hrespawn
    rw [List.append_assoc, List.singleton_append] at r₂
    have hsame : ∀ q, q ∈ rest.reverse ++ [(st₁, b)] ↔ q ∈ (st₁, b) :: rest := by
      intro q
      rw [← List.reverse_cons, List.mem_reverse]
    have hreach := worldSystem_reach r₂ (fun q hq => hdt q ((hsame q).mp hq)) hm₀
      fun q hq => hrespawn q (List.mem_append_left _ hq)
    rw [← List.reverse_cons, simTime, Lib.elapsed_reverse] at hreach
    exact hreach

end MmorpgServer.Field

namespace MmorpgServer.Worker

open MmorpgServer.Lib MmorpgServer.Field Scalar

variable {K : Type}

/-- The messages that have nothing to do with monsters. -/
def FieldAction.Other : FieldAction K → Prop
  | .updateWorld _ _ | .skill _ _ => False
  | _ => True

/-- What an action of a field worker has its monsters do. -/
def FieldAction.Asks (a : FieldAction K) [Scalar K] :
    WorldAction K (FieldWorker K) → Prop
  | .update policy dt => (∃ dt', a = .updateWorld policy dt') ∧ dt = monsterStep
  | .skill mid => ∃ session, a = .skill session mid
  | .outside _ => True
  | _ => False

/-- What is asked for takes time or none, and sets no respawn delay. -/
theorem FieldAction.Asks.unhurried [ExactScalar K] {a : FieldAction K}
    {b : WorldAction K (FieldWorker K)} (h : a.Asks b) :
    0 ≤ b.duration ∧ ∀ mid delay, b ≠ .setRespawnDelay mid delay := by
  cases b with
  | update policy dt =>
    obtain ⟨-, rfl⟩ := h
    refine ⟨?_, nofun⟩
    show (0 : K) ≤ lit 0.1
    simp only [ExactScalar.lit_eq]
    norm_num
  | skill mid => exact ⟨ExactScalar.lit_zero.ge, nofun⟩
  | outside fw => exact ⟨ExactScalar.lit_zero.ge, nofun⟩
  | _ => exact h.elim

namespace FieldWorker

/-- The monsters, with the field worker behind their environment. -/
def world (fw : FieldWorker K) : WorldState K (FieldWorker K) := ⟨fw.monsterWorld, fw⟩

section

variable [Scalar K]

/-- What a field worker does besides what its monsters do. The messages are
those in `M`. -/
inductive Aside (cfg : FieldConfig K) (M : FieldAction K → Prop) :
    FieldWorker K → FieldWorker K → Prop
  | monsters (fw : FieldWorker K) (monsterWorld : MonsterWorld K) :
      Aside cfg M fw { fw with monsterWorld }
  | spawned (fw : FieldWorker K) (id : EntityId) (pos : Vec2 K) :
      Aside cfg M fw (fw.aoiAdd cfg id false pos)
  | initialized (fw : FieldWorker K) :
      Aside cfg M fw { fw with aoiSystem := fw.aoiSystem.setInitialized true }
  | clocks (fw : FieldWorker K) (worldTime playerAcc monsterAcc : K) :
      Aside cfg M fw { fw with worldTime, playerAcc, monsterAcc }
  | players (fw : FieldWorker K) : Aside cfg M fw (fw.tickPlayers cfg playerStep)
  | attacks (fw : FieldWorker K) (pid : EntityId) :
      Aside cfg M fw (fw.broadcastPlayerState pid .attack)
  | message {a : FieldAction K} (hM : M a) (ha : a.Other) (fw : FieldWorker K) :
      Aside cfg M fw (fw.step cfg a)

variable {cfg : FieldConfig K} {M : FieldAction K → Prop} {fw fw' : FieldWorker K}

/-- The monsters and their clock are as they were. -/
structure Untouched (fw fw' : FieldWorker K) : Prop where
  monsterWorld : fw'.monsterWorld = fw.monsterWorld
  monsterAcc : fw'.monsterAcc = fw.monsterAcc

omit [Scalar K] in
theorem Untouched.refl (fw : FieldWorker K) : fw.Untouched fw := ⟨rfl, rfl⟩

omit [Scalar K] in
theorem Untouched.broadcastPlayerState (h : fw.Untouched fw') (pid : EntityId) (st : PlayerState) :
    fw.Untouched (fw'.broadcastPlayerState pid st) := by
  rw [FieldWorker.broadcastPlayerState, broadcastAiState, broadcast_eq]
  exact ⟨h.monsterWorld, h.monsterAcc⟩

omit [Scalar K] in
theorem Untouched.mark (h : fw.Untouched fw') (source : DirtySource) (pid : EntityId) :
    fw.Untouched (((fw'.writePlayerRtEnqueue pid).markDirty source pid).setLastDirtyMarkTime
      pid) := by
  unfold writePlayerRtEnqueue
  split <;> exact ⟨h.monsterWorld, h.monsterAcc⟩

theorem Untouched.tickPlayer (h : fw.Untouched fw') (cfg : FieldConfig K) (step : K)
    (pid : EntityId) : fw.Untouched (fw'.tickPlayer cfg step pid) := by
  have hset : ∀ p, fw.Untouched (fw'.setPlayer pid p) := fun _ => ⟨h.monsterWorld, h.monsterAcc⟩
  refine iteInduction (motive := fw.Untouched) (fun _ => ?_) fun _ => ?_
  · exact ((hset _).broadcastPlayerState pid .idle).mark .state pid
  · refine iteInduction (motive := fw.Untouched) (fun _ => h) fun _ => ?_
    have hmoved : ∀ p pos, fw.Untouched ((fw'.setPlayer pid p).aoiMove cfg pid pos) :=
      fun p _ => ⟨(hset p).monsterWorld, (hset p).monsterAcc⟩
    refine iteInduction (motive := fw.Untouched) (fun _ => hmoved _ _) fun _ => ?_
    exact iteInduction (motive := fw.Untouched) (fun _ => hmoved _ _)
      fun _ => (hmoved _ _).mark .pos pid

theorem untouched_tickPlayers (cfg : FieldConfig K) (step : K) (fw : FieldWorker K) :
    fw.Untouched (fw.tickPlayers cfg step) :=
  List.foldlRecOn (motive := fw.Untouched) _ _ (.refl fw) fun _ h pid _ => h.tickPlayer cfg step pid

theorem untouched_onClientMoveInput (fw : FieldWorker K) (session : Option EntityId)
    (entityId : EntityId) (dir : Option (Vec2 K)) :
    fw.Untouched (fw.onClientMoveInput session entityId dir) := by
  have hset : ∀ p, fw.Untouched (fw.setPlayer entityId p) := fun _ => ⟨rfl, rfl⟩
  refine iteInduction (motive := fw.Untouched) (fun _ => .refl fw) fun _ => ?_
  refine iteInduction (motive := fw.Untouched) (fun _ => .refl fw) fun _ => ?_
  cases dir with
  | none => exact .refl fw
  | some d =>
    refine iteInduction (motive := fw.Untouched) (fun _ => ?_) fun _ => ?_
    · refine iteInduction (motive := fw.Untouched) (fun _ => hset _) fun _ => ?_
      exact (hset _).broadcastPlayerState entityId .idle
    · refine iteInduction (motive := fw.Untouched) (fun _ => hset _) fun _ => ?_
      exact (hset _).broadcastPlayerState entityId .chase

/-- **The other messages** leave the monsters alone. -/
theorem untouched_message (cfg : FieldConfig K) {a : FieldAction K} (ha : a.Other)
    (fw : FieldWorker K) : fw.Untouched (fw.step cfg a) := by
  cases a with
  | addPlayer pid p =>
    obtain ⟨es, hadd, -⟩ := addPlayer_sends cfg fw pid p
    show fw.Untouched (fw.addPlayer cfg pid p)
    rw [hadd]
    exact ⟨rfl, rfl⟩
  | removePlayer pid => exact ⟨rfl, rfl⟩
  | moveInput session entityId dir => exact untouched_onClientMoveInput fw session entityId dir
  | skill => exact ha.elim
  | updateWorld => exact ha.elim
  | setSession => exact ⟨rfl, rfl⟩
  | setRegistered => exact ⟨rfl, rfl⟩

/-- Nothing the environment does touches the clock of the monsters. -/
theorem env_monsterAcc (cfg : FieldConfig K) (acc : K) :
    (env cfg).Keeps (fun _ => True) fun fw => fw.monsterAcc = acc where
  toQuiet := env_quiet cfg (fun _ _ _ _ h => h) (fun _ _ _ _ _ h => h) fun _ _ h => h
  moveInAoi _ _ _ _ _ h := h
  spawnInAoi _ _ _ _ _ h := h
  removeFromAoi _ _ _ h := h

theorem tickMonsters_monsterAcc (cfg : FieldConfig K) (policy : List K → Fin 5 → K) (step : K)
    (fw : FieldWorker K) : (fw.tickMonsters cfg policy step).monsterAcc = fw.monsterAcc :=
  (env_monsterAcc cfg fw.monsterAcc).update policy step (fun _ _ => trivial) rfl

omit [Scalar K] in
/-- To whom it is told does not depend on the monsters. -/
theorem broadcastAiState_monsterWorld (fw : FieldWorker K) (w : MonsterWorld K) (id : EntityId)
    (entityType : EntityType) (state : AiState) :
    ({ fw with monsterWorld := w } : FieldWorker K).broadcastAiState id entityType state =
      { fw.broadcastAiState id entityType state with monsterWorld := w } := by
  rw [broadcastAiState, broadcastAiState, broadcast_eq, broadcast_eq]
  rfl

end

/-! ## Steps as paths -/

section

variable [ExactScalar K] {cfg : FieldConfig K} {M : FieldAction K → Prop}
  {R : FieldWorker K → FieldWorker K → Prop} {a : FieldAction K} {t t' : K}
  {fw fw' fw'' : FieldWorker K}

/-- A path of the monsters' world that does what an action asks for and
takes the given time. -/
def Leads (cfg : FieldConfig K) (R : FieldWorker K → FieldWorker K → Prop) (a : FieldAction K)
    (t : K) (fw fw' : FieldWorker K) : Prop :=
  ∃ l, Path (worldSystem (env cfg) R) fw.world l fw'.world ∧ (∀ p ∈ l, a.Asks p.2) ∧ simTime l = t

theorem Leads.refl (fw : FieldWorker K) : Leads cfg R a 0 fw fw :=
  ⟨[], .nil _, by simp, by simp⟩

theorem Leads.trans (h : Leads cfg R a t fw fw') (h' : Leads cfg R a t' fw' fw'') :
    Leads cfg R a (t + t') fw fw'' := by
  obtain ⟨l, hl, hasks, rfl⟩ := h
  obtain ⟨l', hl', hasks', rfl⟩ := h'
  exact ⟨l ++ l', hl.append hl', List.forall_mem_append.mpr ⟨hasks, hasks'⟩, elapsed_append _ _ _⟩

/-- What is done aside takes no time. -/
theorem Leads.aside (h : Leads cfg R a t fw fw') (hR : R fw' fw'')
    (hsame : fw''.monsterWorld = fw'.monsterWorld) : Leads cfg R a t fw fw'' := by
  obtain ⟨l, hl, hasks, rfl⟩ := h
  have hstep : (worldSystem (env cfg) R).step fw'.world (.outside fw'') fw''.world := by
    refine ⟨hR, ?_⟩
    show (⟨fw''.monsterWorld, fw''⟩ : WorldState K (FieldWorker K)) = ⟨fw'.monsterWorld, fw''⟩
    rw [hsame]
  refine ⟨l ++ [(fw'.world, .outside fw'')], hl.append (.single hstep), ?_, ?_⟩
  · exact List.forall_mem_append.mpr ⟨hasks, List.forall_mem_singleton.mpr trivial⟩
  · have hzero : (WorldAction.outside fw'' : WorldAction K (FieldWorker K)).duration = 0 :=
      ExactScalar.lit_zero
    rw [simTime, elapsed_append, elapsed_cons, elapsed_nil, hzero, add_zero, add_zero]

/-- A step of the monsters' world, after which the field worker gets the
monsters back. -/
theorem leads_step (hR : ∀ fw fw', Aside cfg M fw fw' → R fw fw')
    {b : WorldAction K (FieldWorker K)} (hb : fw.world.Allowed R b) (hasks : a.Asks b)
    {w : MonsterWorld K} (hstep : fw.world.step (env cfg) b = ⟨w, fw'⟩) :
    Leads cfg R a b.duration fw { fw' with monsterWorld := w } := by
  have hfirst : (worldSystem (env cfg) R).step fw.world b ⟨w, fw'⟩ := ⟨hb, hstep.symm⟩
  have hthen : (worldSystem (env cfg) R).step ⟨w, fw'⟩ (.outside { fw' with monsterWorld := w })
      ({ fw' with monsterWorld := w } : FieldWorker K).world := ⟨hR _ _ (.monsters fw' w), rfl⟩
  refine ⟨_, .cons hfirst (.single hthen), ?_, ?_⟩
  · simpa using ⟨hasks, trivial⟩
  · simp [simTime, WorldAction.duration]

theorem leads_tickMonsters (hR : ∀ fw fw', Aside cfg M fw fw' → R fw fw')
    (policy : List K → Fin 5 → K) (dt : K) (fw : FieldWorker K) :
    Leads cfg R (.updateWorld policy dt) monsterStep fw (fw.tickMonsters cfg policy monsterStep) :=
  leads_step hR (b := .update policy monsterStep) trivial ⟨⟨dt, rfl⟩, rfl⟩ rfl

theorem leads_playerLoop (hR : ∀ fw fw', Aside cfg M fw fw' → R fw fw') (n : Nat)
    (fw : FieldWorker K) :
    Leads cfg R a 0 fw (playerLoop cfg n fw) ∧ fw.Untouched (playerLoop cfg n fw) := by
  induction n generalizing fw with
  | zero => exact ⟨.refl fw, .refl fw⟩
  | succ n ih =>
    unfold playerLoop
    split
    · have hticked := untouched_tickPlayers cfg playerStep fw
      simp only
      generalize hfw₁ : fw.tickPlayers cfg playerStep = fw₁ at *
      obtain ⟨hleads, huntouched⟩ := ih { fw₁ with playerAcc := fw₁.playerAcc - playerStep }
      have hplayers : R fw fw₁ := hR _ _ (hfw₁ ▸ .players fw)
      have hclock : R fw₁ { fw₁ with playerAcc := fw₁.playerAcc - playerStep } :=
        hR _ _ (.clocks fw₁ fw₁.worldTime _ fw₁.monsterAcc)
      have hboth := (((Leads.refl (a := a) fw).aside hplayers hticked.monsterWorld).aside hclock
        rfl).trans hleads
      rw [add_zero] at hboth
      exact ⟨hboth, huntouched.monsterWorld.trans hticked.monsterWorld,
        huntouched.monsterAcc.trans hticked.monsterAcc⟩
    · exact ⟨.refl fw, .refl fw⟩

/-- The monster loop takes as much time as the clock of the monsters goes
back. -/
theorem leads_monsterLoop (hR : ∀ fw fw', Aside cfg M fw fw' → R fw fw')
    (policy : List K → Fin 5 → K) (dt : K) (n : Nat) (fw : FieldWorker K) :
    Leads cfg R (.updateWorld policy dt)
      (fw.monsterAcc - (monsterLoop cfg policy n fw).monsterAcc) fw
      (monsterLoop cfg policy n fw) := by
  have hstay : ∀ fw : FieldWorker K,
      Leads cfg R (.updateWorld policy dt) (fw.monsterAcc - fw.monsterAcc) fw fw := by
    intro fw
    rw [sub_self]
    exact .refl fw
  induction n generalizing fw with
  | zero => exact hstay fw
  | succ n ih =>
    unfold monsterLoop
    split
    · have htick := leads_tickMonsters hR policy dt fw
      have hacc := tickMonsters_monsterAcc cfg policy monsterStep fw
      simp only
      generalize fw.tickMonsters cfg policy monsterStep = fw₁ at *
      have hclock : R fw₁ { fw₁ with monsterAcc := fw₁.monsterAcc - monsterStep } :=
        hR _ _ (.clocks fw₁ fw₁.worldTime fw₁.playerAcc _)
      have hrest := ih { fw₁ with monsterAcc := fw₁.monsterAcc - monsterStep }
      have hboth := (htick.aside hclock rfl).trans hrest
      rw [show monsterStep + (({ fw₁ with monsterAcc := fw₁.monsterAcc - monsterStep } :
          FieldWorker K).monsterAcc - (monsterLoop cfg policy n { fw₁ with
            monsterAcc := fw₁.monsterAcc - monsterStep }).monsterAcc) =
          fw.monsterAcc - (monsterLoop cfg policy n { fw₁ with
            monsterAcc := fw₁.monsterAcc - monsterStep }).monsterAcc by
        rw [← hacc]
        ring] at hboth
      exact hboth
    · exact hstay fw

theorem leads_updateWorld (hR : ∀ fw fw', Aside cfg M fw fw' → R fw fw')
    (policy : List K → Fin 5 → K) (dt : K) (fw : FieldWorker K) :
    Leads cfg R (.updateWorld policy dt)
      (fw.monsterAcc + (FieldAction.updateWorld policy dt).seconds -
        (fw.updateWorld cfg policy dt).monsterAcc) fw (fw.updateWorld cfg policy dt) := by
  unfold updateWorld FieldAction.seconds
  simp only
  split
  · simpa using Leads.refl fw
  · have hstart : R fw { fw with
        worldTime := fw.worldTime + dt, playerAcc := fw.playerAcc + dt } :=
      hR _ _ (.clocks fw _ _ fw.monsterAcc)
    obtain ⟨hplayers, huntouched⟩ := leads_playerLoop (a := .updateWorld policy dt) hR 5
      { fw with worldTime := fw.worldTime + dt, playerAcc := fw.playerAcc + dt }
    generalize playerLoop cfg 5
      { fw with worldTime := fw.worldTime + dt, playerAcc := fw.playerAcc + dt } = fw₁ at *
    have hclock : R fw₁ { fw₁ with monsterAcc := fw₁.monsterAcc + dt } :=
      hR _ _ (.clocks fw₁ fw₁.worldTime fw₁.playerAcc _)
    have hmonsters := leads_monsterLoop hR policy dt 3
      { fw₁ with monsterAcc := fw₁.monsterAcc + dt }
    have hall := ((((Leads.refl fw).aside hstart rfl).trans hplayers).aside hclock rfl).trans
      hmonsters
    have hacc : fw₁.monsterAcc = fw.monsterAcc := huntouched.monsterAcc
    simp only [hacc, zero_add] at hall ⊢
    exact hall

theorem leads_handleSkill (hR : ∀ fw fw', Aside cfg M fw fw' → R fw fw')
    (session : Option EntityId) (targetId : EntityId) (fw : FieldWorker K) :
    Leads cfg R (.skill session targetId) 0 fw (fw.handleSkill cfg session targetId) ∧
      (fw.handleSkill cfg session targetId).monsterAcc = fw.monsterAcc := by
  cases session with
  | none => exact ⟨.refl fw, rfl⟩
  | some pid =>
    have hcast := (Untouched.refl fw).broadcastPlayerState pid .attack
    have hleads : Leads cfg R (.skill (some pid) targetId) 0 fw
        (fw.broadcastPlayerState pid .attack) :=
      (Leads.refl fw).aside (hR _ _ (.attacks fw pid)) hcast.monsterWorld
    unfold handleSkill
    simp only
    rw [← hcast.monsterAcc]
    generalize fw.broadcastPlayerState pid .attack = fw₁ at *
    have hacc := (env_monsterAcc cfg fw₁.monsterAcc).playerAttackMonster targetId
      fw₁.monsterWorld.monsters (fun _ _ => trivial) rfl
    have hstep := fw₁.world.step_skill (env cfg) targetId
    have hworld : fw₁.world.world.monsters = fw₁.monsterWorld.monsters ∧
        fw₁.world.outside = fw₁ := ⟨rfl, rfl⟩
    rw [hworld.1, hworld.2] at hstep
    generalize MonsterWorld.playerAttackMonster (env cfg) targetId fw₁.monsterWorld.monsters fw₁ =
      r at *
    obtain ⟨ms, fw₂, dead⟩ := r
    have hskill : ∀ fw' : FieldWorker K,
        fw₁.world.step (env cfg) (.skill targetId) = ⟨⟨ms⟩, fw'⟩ →
        Leads cfg R (.skill (some pid) targetId) 0 fw { fw' with monsterWorld := ⟨ms⟩ } := by
      intro fw' hfw'
      have hboth := hleads.trans (leads_step (b := .skill targetId) hR trivial ⟨some pid, rfl⟩ hfw')
      have hzero : (WorldAction.skill targetId : WorldAction K (FieldWorker K)).duration = 0 :=
        ExactScalar.lit_zero
      rw [hzero, add_zero] at hboth
      exact hboth
    simp only at hacc hstep ⊢
    cases dead with
    | true =>
      rw [if_pos rfl] at hstep ⊢
      rw [broadcastAiState_monsterWorld]
      refine ⟨hskill _ hstep, ?_⟩
      rw [broadcastAiState, broadcast_eq]
      exact hacc
    | false =>
      rw [if_neg (by decide)] at hstep ⊢
      exact ⟨hskill _ hstep, hacc⟩

/-- **A step of a field worker is a path of its monsters' world**, and its
ticks take what the step adds to the clock of the monsters. -/
theorem step_leads (hR : ∀ fw fw', Aside cfg M fw fw' → R fw fw') (ha : M a) (fw : FieldWorker K) :
    Leads cfg R a (fw.monsterAcc + a.seconds - (fw.step cfg a).monsterAcc) fw (fw.step cfg a) := by
  have hother : a.Other → a.seconds = 0 →
      Leads cfg R a (fw.monsterAcc + a.seconds - (fw.step cfg a).monsterAcc) fw
        (fw.step cfg a) := by
    intro hother hzero
    have huntouched := untouched_message cfg hother fw
    rw [huntouched.monsterAcc, hzero, add_zero, sub_self]
    exact (Leads.refl fw).aside (hR _ _ (.message ha hother fw)) huntouched.monsterWorld
  cases a with
  | updateWorld policy dt => exact leads_updateWorld hR policy dt fw
  | skill session targetId =>
    obtain ⟨hleads, hacc⟩ := leads_handleSkill hR session targetId fw
    have hzero : (FieldAction.skill session targetId : FieldAction K).seconds = 0 :=
      ExactScalar.lit_zero
    show Leads cfg R _ (fw.monsterAcc + _ - (fw.handleSkill cfg session targetId).monsterAcc) fw _
    rw [hzero, hacc, add_zero, sub_self]
    exact hleads
  | _ => exact hother trivial ExactScalar.lit_zero

/-! ## Runs -/

/-- The creation of a monster. -/
def MonsterSpawn.create (sp : MonsterSpawn K) : WorldAction K (FieldWorker K) :=
  .create sp.id sp.x sp.y sp.prefabName sp.monsterType sp.maxHp sp.hp sp.maxSp sp.sp sp.atk sp.def

/-- The construction of a field worker is a run, too. -/
theorem construct_run (hR : ∀ fw fw', Aside cfg M fw fw' → R fw fw') (player : EntityId → Player K)
    (redisRtWriter : Bool) {spawns : List (MonsterSpawn K)}
    (hnd : (spawns.map MonsterSpawn.id).Nodup) :
    ∃ l, Run (worldSystem (env cfg) R) l (construct cfg player redisRtWriter spawns).world ∧
      (∀ p ∈ l, (∃ sp ∈ spawns, p.2 = sp.create) ∨ ∃ fw, p.2 = .outside fw) ∧ simTime l = 0 ∧
      (construct cfg player redisRtWriter spawns).monsterAcc = 0 := by
  have hzero : ∀ fw : FieldWorker K, (WorldAction.outside fw :
      WorldAction K (FieldWorker K)).duration = 0 := fun _ => ExactScalar.lit_zero
  let I : FieldWorker K → Prop := fun fw => fw.monsterAcc = 0 ∧
    ∃ l, Run (worldSystem (env cfg) R) l fw.world ∧
      (∀ p ∈ l, (∃ sp ∈ spawns, p.2 = sp.create) ∨ ∃ fw, p.2 = .outside fw) ∧ simTime l = 0
  have hstart : I {
      player, redisRtWriter, worldTime := lit 0, playerAcc := lit 0, monsterAcc := lit 0
      aoiSystem := ({} : FieldAoiSystem (Vec2 K)).setSendFunc } :=
    ⟨ExactScalar.lit_zero, [], .start rfl, by simp, by simp⟩
  have hloop := foldl_spawn cfg ?_ hstart hnd
  · obtain ⟨hacc, l, r, hmade, htime⟩ := hloop
    have hlast := r.next (.outside (construct cfg player redisRtWriter spawns))
      ⟨hR _ _ (.initialized _), rfl⟩
    refine ⟨_, hlast, ?_, ?_, hacc⟩
    · exact List.forall_mem_cons.mpr ⟨.inr ⟨_, rfl⟩, hmade⟩
    · rw [simTime, elapsed_cons, hzero, zero_add]
      exact htime
  · rintro fw sp hsp hnew ⟨hacc, l, r, hmade, htime⟩
    let w := fw.monsterWorld.createMonster sp.id sp.x sp.y sp.prefabName sp.monsterType
      sp.maxHp sp.hp sp.maxSp sp.sp sp.atk sp.def
    have r₁ := r.next sp.create (t := ⟨w, fw⟩) ⟨hnew, rfl⟩
    have r₂ := r₁.next (.outside { fw with monsterWorld := w })
      (t := ({ fw with monsterWorld := w } : FieldWorker K).world) ⟨hR _ _ (.monsters fw w), rfl⟩
    have r₃ := r₂.next (.outside (fw.spawn cfg sp)) (t := (fw.spawn cfg sp).world)
      ⟨hR _ _ (.spawned _ sp.id ⟨sp.x, sp.y⟩), rfl⟩
    refine ⟨hacc, _, r₃, ?_, ?_⟩
    · simp only [List.forall_mem_cons]
      exact ⟨.inr ⟨_, rfl⟩, .inr ⟨_, rfl⟩, .inl ⟨sp, hsp, rfl⟩, hmade⟩
    · have hcreate : (sp.create).duration = 0 := ExactScalar.lit_zero
      rw [simTime, elapsed_cons, elapsed_cons, elapsed_cons, hzero, hzero, hcreate, zero_add,
        zero_add, zero_add]
      exact htime

/-- **A path of a field worker is a path of its monsters' world.** -/
theorem path_leads {redisRtWriter : Bool} (hR : ∀ fw fw', Aside cfg M fw fw' → R fw fw')
    {l : List (FieldWorker K × FieldAction K)} (p : Path (fieldSystem cfg redisRtWriter) fw l fw')
    (hM : ∀ q ∈ l, M q.2) :
    ∃ l', Path (worldSystem (env cfg) R) fw.world l' fw'.world ∧
      (∀ q' ∈ l', ∃ q ∈ l, q.2.Asks q'.2) ∧
      simTime l' + fw'.monsterAcc = fw.monsterAcc + frameTime l := by
  induction p with
  | nil fw => exact ⟨[], .nil _, by simp, by simp [frameTime]⟩
  | @cons fw _ fw' a l h p ih =>
    obtain ⟨-, rfl⟩ := h
    rw [List.forall_mem_cons] at hM
    obtain ⟨l₁, hpath₁, hasks₁, htime₁⟩ := step_leads hR hM.1 fw
    obtain ⟨l₂, hpath₂, hasks₂, htime₂⟩ := ih hM.2
    refine ⟨l₁ ++ l₂, hpath₁.append hpath₂, ?_, ?_⟩
    · intro q' hq'
      rcases List.mem_append.mp hq' with hq' | hq'
      · exact ⟨_, List.mem_cons_self, hasks₁ q' hq'⟩
      · obtain ⟨q, hq, hasks⟩ := hasks₂ q' hq'
        exact ⟨q, List.mem_cons_of_mem _ hq, hasks⟩
    · rw [simTime, elapsed_append, frameTime, elapsed_cons]
      rw [simTime] at htime₁ htime₂
      rw [frameTime] at htime₂
      linear_combination htime₁ + htime₂

/-- **A run of a field worker is a run of its monsters' world.** -/
theorem fieldSystem_world {redisRtWriter : Bool} (hR : ∀ fw fw', Aside cfg M fw fw' → R fw fw')
    {l : List (FieldWorker K × FieldAction K)} (r : Run (fieldSystem cfg redisRtWriter) l fw)
    (hM : ∀ q ∈ l, M q.2) :
    ∃ l', Run (worldSystem (env cfg) R) l' fw.world ∧
      (∀ q' ∈ l', (∃ sp : MonsterSpawn K, q'.2 = sp.create) ∨ (∃ fw, q'.2 = .outside fw) ∨
        ∃ q ∈ l, q.2.Asks q'.2) ∧
      simTime l' + fw.monsterAcc = frameTime l := by
  rw [← List.append_nil l] at r
  obtain ⟨fw₀, r₀, path⟩ := r.split
  cases r₀ with
  | start h =>
    obtain ⟨player, spawns, hnd, rfl⟩ := h
    obtain ⟨l₁, r₁, hmade, htime, hacc⟩ := construct_run hR player redisRtWriter hnd
    obtain ⟨l₂, hpath, hasks, htime₂⟩ :=
      path_leads hR path fun q hq => hM q (List.mem_reverse.mp hq)
    refine ⟨l₂.reverse ++ l₁, hpath.run r₁, ?_, ?_⟩
    · intro q' hq'
      rcases List.mem_append.mp hq' with hq' | hq'
      · obtain ⟨q, hq, hasked⟩ := hasks q' (List.mem_reverse.mp hq')
        exact .inr (.inr ⟨q, List.mem_reverse.mp hq, hasked⟩)
      · rcases hmade q' hq' with ⟨sp, -, hsp⟩ | hout
        · exact .inl ⟨sp, hsp⟩
        · exact .inr (.inl hout)
    · rw [simTime, elapsed_append, elapsed_reverse]
      rw [simTime] at htime htime₂
      rw [frameTime, elapsed_reverse] at htime₂
      rw [frameTime]
      linear_combination htime + htime₂ + hacc

/-- The ticks of the monsters in a history of their world. -/
def ticks (l : List (WorldState K (FieldWorker K) × WorldAction K (FieldWorker K))) : Nat :=
  l.countP fun p => match p.2 with
    | .update _ _ => true
    | _ => false

/-- **A monster in a field keeps its pace.** In every run, from any state
on, however late the frames come and whatever the clients send: a monster
comes no further than 6 times the time of the frames since then, with what
was left on the clock of the monsters and without what is left on it. All
monsters have a unit direction or none and a speed of at most 6, and none
awaits a respawn. -/
theorem monsters_keep_pace [ExactRoots K] (cfg : FieldConfig K) (redisRtWriter : Bool)
    {l₂ l₁ : List (FieldWorker K × FieldAction K)} {fw₀ fw : FieldWorker K} {a : FieldAction K}
    (r : Run (fieldSystem cfg redisRtWriter) (l₂ ++ (fw₀, a) :: l₁) fw) {m₀ : Monster K}
    (hm₀ : m₀ ∈ fw₀.monsterWorld.monsters) :
    (∀ m ∈ fw.monsterWorld.monsters, m.ai.Paced ∧ ¬ m.Awaits) ∧
      ∀ m ∈ fw.monsterWorld.monsters, m.id = m₀.id →
        Reach (6 * (fw₀.monsterAcc + frameTime (l₂ ++ [(fw₀, a)]) - fw.monsterAcc))
          (m.transform.x - m₀.transform.x) (m.transform.y - m₀.transform.y) := by
  rw [List.append_cons] at r
  obtain ⟨fw₁, r₁, path⟩ := r.split
  obtain rfl : fw₀ = fw₁ := by
    rw [List.reverse_append] at path
    exact path.uncons.1
  obtain ⟨l₁', r₁', hwhat, -⟩ := fieldSystem_world (M := fun _ => True)
    (R := Aside cfg fun _ => True) (fun _ _ h => h) r₁ fun _ _ => trivial
  obtain ⟨l₂', path', hasks, htime⟩ := path_leads (M := fun _ => True)
    (R := Aside cfg fun _ => True) (fun _ _ h => h) path fun _ _ => trivial
  have htime' : simTime l₂' = fw₀.monsterAcc + frameTime (l₂ ++ [(fw₀, a)]) - fw.monsterAcc := by
    rw [frameTime, elapsed_reverse, ← frameTime] at htime
    linear_combination htime
  rw [← htime']
  have hsince : ∀ q ∈ l₂', 0 ≤ q.2.duration ∧ ∀ mid delay, q.2 ≠ .setRespawnDelay mid delay := by
    intro q hq
    obtain ⟨_, -, hasked⟩ := hasks q hq
    exact hasked.unhurried
  have hnever : ∀ q ∈ l₂'.reverse ++ l₁', ∀ mid delay, q.2 ≠ .setRespawnDelay mid delay := by
    intro q hq
    rcases List.mem_append.mp hq with hq | hq
    · exact (hsince q (List.mem_reverse.mp hq)).2
    · rcases hwhat q hq with ⟨sp, hsp⟩ | ⟨fw, hfw⟩ | ⟨_, -, hasked⟩
      · intro mid delay heq
        rw [hsp] at heq
        cases heq
      · intro mid delay heq
        rw [hfw] at heq
        cases heq
      · exact hasked.unhurried.2
  refine ⟨fun m hm => ?_,
    worldSystem_path_reach r₁' path' (fun q hq => (hsince q hq).1) hnever hm₀⟩
  have r₂' := path'.run r₁'
  have hwaiting := worldSystem_waiting (le_refl (lit 0)) r₂' hnever m hm
  exact ⟨worldSystem_paced r₂' m hm, fun hawaits => hawaits.delay hwaiting.1⟩

end

/-! ## A field with one archer -/

noncomputable def archer : MonsterSpawn ℝ :=
  ⟨1000, 15, 0, "BowAndArrow1", 1, 200, 200, 100, 100, 7, 3⟩

noncomputable def guarded : FieldWorker ℝ := construct realConfig (fun _ => walker) false [archer]

/-- A frame of a second, which is more than three ticks take. -/
noncomputable def framed : FieldWorker ℝ := guarded.updateWorld realConfig (fun _ _ => 0) 1

theorem run_framed : Run (fieldSystem realConfig false)
    [(guarded, .updateWorld (fun _ _ => 0) 1)] framed := by
  have r₀ : Run (fieldSystem realConfig false) [] guarded :=
    .start ⟨_, [archer], List.nodup_singleton _, rfl⟩
  exact r₀.next (.updateWorld _ 1) ⟨trivial, rfl⟩

theorem frameTime_framed :
    frameTime [(guarded, FieldAction.updateWorld (fun _ _ => 0) 1)] = (1 : ℝ) := by
  norm_num [frameTime, elapsed, FieldAction.seconds]

theorem mem_guarded : ∃ m ∈ guarded.monsterWorld.monsters, m.id = 1000 ∧ m.transform = ⟨15, 0⟩ :=
  ⟨_, List.mem_singleton.mpr rfl, rfl, rfl⟩

/-- The archer is still there after the frame, within 6 of its place. -/
theorem monsters_keep_pace_framed : ∃ m ∈ framed.monsterWorld.monsters, m.id = 1000 ∧
    m.ai.Paced ∧ ¬ m.Awaits ∧
      Reach (6 * (0 + 1 - framed.monsterAcc)) (m.transform.x - 15) (m.transform.y - 0) := by
  obtain ⟨m₀, hm₀, hid₀, hplace⟩ := mem_guarded
  have htags : framed.tags = guarded.tags :=
    step_tags realConfig guarded (.updateWorld (fun _ _ => 0) 1)
  have htag : m₀.tag ∈ framed.tags := htags ▸ List.mem_map_of_mem hm₀
  obtain ⟨m, hm, hsame⟩ := List.mem_map.mp htag
  have hid : m.id = m₀.id := congrArg Prod.fst hsame
  have r : Run (fieldSystem realConfig false)
      ([] ++ (guarded, .updateWorld (fun _ _ => 0) 1) :: []) framed := run_framed
  obtain ⟨hpaced, hreach⟩ := monsters_keep_pace realConfig false r hm₀
  replace hreach := hreach m hm hid
  have hacc : guarded.monsterAcc = 0 := ExactScalar.lit_zero
  rw [List.nil_append, frameTime_framed, hplace, hacc] at hreach
  exact ⟨m, hm, hid.trans hid₀, (hpaced m hm).1, (hpaced m hm).2, hreach⟩

end FieldWorker

end MmorpgServer.Worker
